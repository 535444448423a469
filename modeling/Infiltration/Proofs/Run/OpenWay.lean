import Infiltration.Proofs.Run.Explanation
import Mathlib.Order.Bounds.Basic

/-! # The walk where nothing stands in the way

Only doors stop the player, and only turrets kill. In a level that has neither, the player takes the next
cell of the path on every tick, whatever a script does, and comes out on the first tick that leads to the
exit. -/

namespace Infiltration

attribute [local irreducible] Mission.opening Mission.closing

namespace Level

/-- No device of a level can stop or kill the player. -/
def Unobstructed (level : Level) : Prop :=
  ∀ device ∈ level.devices, device.type ≠ .door ∧ device.type ≠ .turret

instance (level : Level) : Decidable level.Unobstructed :=
  inferInstanceAs (Decidable (∀ _ ∈ _, _))

/-- Where an unhindered player comes out on a tick: on the exit cell of the path, or on the entry if
there is no other cell. -/
def OutAt (level : Level) (tick : ℕ) : Prop :=
  level.playerPath[tick + 1]? = some level.exit ∨
    level.playerPath.length ≤ 1 ∧ level.entry = level.exit

end Level

/-! ## One tick -/

/-- A player has taken a cell of the path on each of so many ticks, as long as there were any. -/
structure Player.Abreast (level : Level) (ticks : ℕ) (player : Player) : Prop where
  index : player.pathIndex = min ticks (level.playerPath.length - 1)
  entered : player.pathIndex = 0 → player.position = level.entry
  walked : 0 < player.pathIndex → level.playerPath[player.pathIndex]? = some player.position

namespace Player.Abreast

variable {level : Level} {ticks : ℕ} {player next : Player} {devices : Roster}
  {told : List Occurrence}

/-- Where cells follow, the player stands on the cell of the tick. -/
theorem index_of_next (abreast : player.Abreast level ticks) {cell : Point}
    (ahead : level.playerPath[player.pathIndex + 1]? = some cell) :
    player.pathIndex = ticks ∧ ticks + 1 < level.playerPath.length := by
  have hindex := abreast.index
  have hlt := (List.getElem?_eq_some_iff.mp ahead).1
  omega

variable (abreast : player.Abreast level ticks) (stride : player.Stride level devices told next)
  (alive : player.alive = true) (free : ∀ cell, devices.Free cell)

include abreast stride alive free

/-- With no door in the way a living player keeps up. -/
theorem keeps_up : next.Abreast level (ticks + 1) := by
  have hindex := abreast.index
  have hstays (last : level.playerPath[player.pathIndex + 1]? = none) :
      player.pathIndex = min (ticks + 1) (level.playerPath.length - 1) := by
    have hle := List.getElem?_eq_none_iff.mp last
    omega
  cases stride with
  | dead dead => exact absurd (dead.symm.trans alive) Bool.false_ne_true
  | waits _ last => exact ⟨hstays last, abreast.entered, abreast.walked⟩
  | leaves _ last => exact ⟨hstays last, abreast.entered, abreast.walked⟩
  | stops _ _ bar =>
      obtain ⟨front, back, hdevices, bars, -⟩ := bar
      exact absurd bars (free _ _ (by simp [hdevices]))
  | moves _ ahead =>
      obtain ⟨hticks, hlt⟩ := abreast.index_of_next ahead
      exact ⟨by simp only; omega, fun h => absurd h (Nat.succ_ne_zero _), fun _ => ahead⟩
  | arrives _ ahead =>
      obtain ⟨hticks, hlt⟩ := abreast.index_of_next ahead
      exact ⟨by simp only; omega, fun h => absurd h (Nat.succ_ne_zero _), fun _ => ahead⟩

/-- A player who has not come out before comes out exactly on a tick that leads to the exit. -/
theorem out_iff (inside : player.reachedExit = false) (early : ∀ tick < ticks, ¬level.OutAt tick) :
    next.reachedExit = true ↔ level.OutAt ticks := by
  have hindex := abreast.index
  cases stride with
  | dead dead => exact absurd (dead.symm.trans alive) Bool.false_ne_true
  | stops _ _ bar =>
      obtain ⟨front, back, hdevices, bars, -⟩ := bar
      exact absurd bars (free _ _ (by simp [hdevices]))
  | waits _ last away =>
      simp only [inside, Bool.false_eq_true, false_iff]
      have hle := List.getElem?_eq_none_iff.mp last
      rintro (ahead | ⟨short, there⟩)
      · have hlt := (List.getElem?_eq_some_iff.mp ahead).1
        omega
      · exact away ((abreast.entered (by omega)).trans there)
  | leaves _ last there =>
      refine iff_of_true rfl ?_
      have hle := List.getElem?_eq_none_iff.mp last
      by_cases short : level.playerPath.length ≤ 1
      · exact .inr ⟨short, (abreast.entered (by omega)).symm.trans there⟩
      · -- The last cell of the path would have let the player out when it was taken.
        have hcell := abreast.walked (by omega)
        have hout : level.OutAt (player.pathIndex - 1) := by
          rw [Level.OutAt, Nat.sub_add_cancel (by omega), hcell, there]
          exact .inl rfl
        exact absurd hout (early _ (by omega))
  | moves _ ahead _ away =>
      simp only [inside, Bool.false_eq_true, false_iff]
      obtain ⟨hticks, hlt⟩ := abreast.index_of_next ahead
      rintro (there | ⟨short, -⟩)
      · rw [hticks, there] at ahead
        exact away (Option.some.inj ahead).symm
      · omega
  | arrives _ ahead _ there =>
      refine iff_of_true rfl (.inl ?_)
      obtain ⟨hticks, -⟩ := abreast.index_of_next ahead
      rw [← hticks, ahead, there]

end Player.Abreast

/-- Nobody dies on the player's own turn. -/
theorem Player.Stride.alive_eq {level : Level} {devices : Roster} {player next : Player}
    {told : List Occurrence} (stride : player.Stride level devices told next) :
    next.alive = player.alive := by
  cases stride <;> rfl

/-! ## The whole run -/

namespace Mission

variable {mission : Mission} {step : ℕ}

/-- A run has devices of the types that its level has. -/
theorem type_of_closed {key : String} {device : Device}
    (found : (mission.after step).closed.1.devices.find? key = some device) :
    ∃ other ∈ mission.level.devices, other.type = device.type := by
  have htypes := (Engine.play_deeds (mission.labelled_after step)).types_eq.trans
    (mission.types_after step)
  obtain ⟨other, hother, htype⟩ := Roster.find?_of_view_eq htypes found
  exact ⟨other, (Roster.mem_of_find?_ofDevices hother).1, htype⟩

variable (unobstructed : mission.level.Unobstructed)

include unobstructed

theorem free_closed (cell : Point) : (mission.after step).closed.1.devices.Free cell := by
  rintro device member ⟨-, door, kind, -⟩
  obtain ⟨⟨key, _⟩, hentry, rfl⟩ := List.mem_map.mp member
  obtain ⟨other, hother, htype⟩ := type_of_closed (Roster.find?_eq_some.mpr hentry)
  exact (unobstructed other hother).1 (by rw [htype, Device.type, kind]; rfl)

theorem alive_closed (h : step < mission.duration) :
    (mission.after step).closed.1.player.alive = true := by
  have labelled := mission.labelled_after step
  obtain ⟨alive, inside⟩ := mission.player_after (mission.running_of_lt h)
  by_contra dead
  obtain ⟨occurrence, told, kind⟩ :
      ∃ occurrence ∈ (mission.after step).occurrences, occurrence.kind = .playerKilled := by
    by_contra none
    have hzero := tally_eq_zero.mpr fun occurrence told kind => none ⟨occurrence, told, kind⟩
    have hkilled := (Engine.tally_play labelled alive inside).1
    simp [hzero, dead] at hkilled
  cases occurrence with
  | playerKilled turret =>
      obtain ⟨device, _, ⟨found, kind, -, -⟩, -⟩ := Engine.kill_scene labelled told
      obtain ⟨other, hother, htype⟩ := type_of_closed found
      have hturret := (Device.isSome_turret? device).mp (by simp [kind])
      exact (unobstructed other hother).2 (htype.trans hturret)
  | _ => cases kind

/-- The player keeps up on every tick, and comes out on the first that leads to the exit. -/
theorem abreast_closed (h : step < mission.duration)
    (abreast : (mission.after step).world.player.Abreast mission.level step)
    (early : ∀ tick < step, ¬mission.level.OutAt tick) :
    (mission.after step).closed.1.player.Abreast mission.level (step + 1) ∧
      ((mission.after step).closed.1.player.reachedExit = true ↔ mission.level.OutAt step) := by
  have labelled := mission.labelled_after step
  have inside := (mission.player_after (mission.running_of_lt h)).2
  have unmoved := Engine.player_stirred labelled
  have stride := Engine.stride_walked labelled inside
  have alive := stride.alive_eq.symm.trans (alive_closed unobstructed h)
  have free : ∀ cell, (mission.after step).closed.1.devices.Free cell := free_closed unobstructed
  have habreast : (mission.after step).stirred.1.player.Abreast mission.level step := by
    rw [unmoved]
    exact ⟨abreast.index, abreast.entered, abreast.walked⟩
  have hinside : (mission.after step).stirred.1.player.reachedExit = false := by
    rw [unmoved]
    exact inside
  rw [mission_after] at stride
  exact ⟨habreast.keeps_up stride alive free, habreast.out_iff stride alive free hinside early⟩

/-- As long as a run is undecided no tick has led to the exit. -/
theorem abreast_after (h : step < mission.duration) :
    (mission.after step).world.player.Abreast mission.level step ∧
      ∀ tick < step, ¬mission.level.OutAt tick := by
  induction step with
  | zero =>
      refine ⟨⟨?_, fun _ => rfl, fun h => absurd h (lt_irrefl 0)⟩, by simp⟩
      exact (Nat.zero_min _).symm
  | succ step ih =>
      have hstep := Nat.lt_of_succ_lt h
      obtain ⟨abreast, early⟩ := ih hstep
      obtain ⟨hplayer, hout⟩ := abreast_closed unobstructed hstep abreast early
      rw [mission.player_after_succ hstep]
      refine ⟨hplayer, fun tick htick => ?_⟩
      rcases Nat.lt_succ_iff_lt_or_eq.mp htick with htick | rfl
      · exact early tick htick
      · have inside := (mission.verdict_eq_running.mp
          (mission.verdict_of_running (mission.running_of_lt h))).1
        rw [← hout, inside]
        exact Bool.false_ne_true

theorem place_scene (long : 2 ≤ mission.level.playerPath.length) (h : step < mission.duration) :
    mission.level.playerPath[min (step + 1) (mission.level.playerPath.length - 1)]? =
      some (mission.after step).scene.snapshot.player.position := by
  obtain ⟨abreast, early⟩ := abreast_after unobstructed h
  obtain ⟨hplayer, -⟩ := abreast_closed unobstructed h abreast early
  rw [← hplayer.index]
  apply hplayer.walked
  rw [hplayer.index]
  omega

/-- A run ends on the first tick that leads to the exit, or at its limit. -/
theorem ending_duration : ∃ tick : ℕ, (mission.after mission.duration).world.tick.toNat = tick ∧
    tick ≤ mission.limit.toNat ∧ (∀ other < tick, ¬mission.level.OutAt other) ∧
      (mission.level.OutAt tick ∧ (mission.after mission.duration).world.outcome = .success ∨
        ¬mission.level.OutAt tick ∧ tick = mission.limit.toNat ∧
          (mission.after mission.duration).world.outcome = .failure) := by
  have hlast : mission.duration - 1 < mission.duration := Nat.sub_lt mission.duration_pos Nat.one_pos
  obtain ⟨abreast, early⟩ := abreast_after unobstructed hlast
  obtain ⟨-, hout⟩ := abreast_closed unobstructed hlast abreast early
  have alive := alive_closed unobstructed hlast
  have htick : (mission.after mission.duration).world.tick.toNat = mission.duration - 1 := by
    have h := mission.tick_duration
    omega
  have hlimit := mission.duration_le
  refine ⟨_, htick, by omega, early, ?_⟩
  rcases mission.outcome_decided with success | failure
  · exact .inl ⟨hout.mp (mission.outcome_eq_success.mp success), success⟩
  · obtain ⟨inside, dead | late⟩ := mission.outcome_eq_failure.mp failure
    · exact absurd (dead.symm.trans alive) Bool.false_ne_true
    · refine .inr ⟨?_, ?_, failure⟩
      · rw [← hout]
        exact fun out => Bool.false_ne_true (inside.symm.trans out)
      · rw [← htick, late]

theorem unblocked_duration :
    ∀ event ∈ (mission.after mission.duration).log, event.kind ≠ .playerBlockedByDoor := by
  intro event member kind
  obtain ⟨door, blocked⟩ := (mission.legible_log event member).blocked kind
  obtain ⟨device, found, -, htype, -⟩ := mission.door_of_blocked member blocked
  obtain ⟨other, hother, hsame⟩ := type_of_closed found
  exact (unobstructed other hother).1 (hsame.trans htype)

end Mission

/-- The places on a path after the first that are the exit. -/
def Level.exits (level : Level) : Set ℕ :=
  {place | 1 ≤ place ∧ level.playerPath[place]? = some level.exit}

/-- How a run under a limit goes where nothing stands in the player's way. -/
structure RunResult.Strolls (level : Level) (limit : UInt64) (result : RunResult) : Prop where
  arrives : ∀ place, IsLeast level.exits place → place - 1 ≤ limit.toNat →
    result.outcome = .success ∧ result.finalTick.toNat = place - 1
  stays : level.playerPath.length ≤ 1 → level.entry = level.exit →
    result.outcome = .success ∧ result.finalTick = 0
  late : (∀ place, IsLeast level.exits place → limit.toNat < place - 1) →
    ¬(level.playerPath.length ≤ 1 ∧ level.entry = level.exit) →
      result.outcome = .failure ∧ result.finalTick = limit ∧
        (∃ event ∈ result.events, event.kind = .runTimeout) ∧
          result.failureSummary.map FailureSummary.primaryCause =
            some "Run timed out before reaching exit"
  walks : 2 ≤ level.playerPath.length → ∀ (tick : ℕ) (frame : Frame),
    result.frames[tick]? = some frame →
      level.playerPath[min (tick + 1) (level.playerPath.length - 1)]? =
        some frame.snapshot.player.position

namespace Level

variable {level : Level}

theorem outAt_of_exits {place : ℕ} (member : place ∈ level.exits) : level.OutAt (place - 1) := by
  obtain ⟨later, there⟩ := member
  rw [OutAt, Nat.sub_add_cancel later]
  exact .inl there

/-- The first tick that leads to the exit leads to the first exit on the path, unless the player stays
where the level is entered. -/
theorem isLeast_of_outAt {tick : ℕ} (out : level.OutAt tick)
    (early : ∀ other < tick, ¬level.OutAt other) :
    IsLeast level.exits (tick + 1) ∨ level.playerPath.length ≤ 1 ∧ level.entry = level.exit := by
  refine out.imp_left fun there => ⟨⟨Nat.le_add_left 1 tick, there⟩, fun place member => ?_⟩
  have hout := outAt_of_exits member
  have hplace := member.1
  by_contra before
  exact early (place - 1) (by omega) hout

end Level

theorem Mission.strolls_duration {mission : Mission} (unobstructed : mission.level.Unobstructed) :
    (RunResult.ofEngine (mission.after mission.duration)).Strolls mission.level mission.limit := by
  obtain ⟨tick, htick, hlimit, early, hend⟩ := ending_duration unobstructed
  constructor
  · rintro place ⟨member, least⟩ soon
    have hout := Level.outAt_of_exits member
    have hle : tick ≤ place - 1 := Nat.le_of_not_lt fun h => early _ h hout
    rcases hend with ⟨out, success⟩ | ⟨hnot, hfinal, -⟩
    · rcases Level.isLeast_of_outAt out early with ⟨hnext, -⟩ | ⟨short, -⟩
      · have hge := least hnext
        exact ⟨success, htick.trans (by omega)⟩
      · have hlt := (List.getElem?_eq_some_iff.mp member.2).1
        have hplace := member.1
        omega
    · obtain rfl : tick = place - 1 := by omega
      exact absurd hout hnot
  · intro short there
    have hout : mission.level.OutAt 0 := .inr ⟨short, there⟩
    obtain rfl : tick = 0 := Nat.eq_zero_of_not_pos fun h => early 0 h hout
    exact ⟨(hend.resolve_right fun h => h.1 hout).2, UInt64.toNat_inj.mp htick⟩
  · intro late away
    have hnot : ¬mission.level.OutAt tick := by
      intro out
      rcases Level.isLeast_of_outAt out early with least | stays
      · have hpast := late _ least
        omega
      · exact away stays
    obtain ⟨-, hfinal, failure⟩ := hend.resolve_left fun h => hnot h.1
    have hlate : (mission.after mission.duration).world.tick = mission.limit :=
      UInt64.toNat_inj.mp (htick.trans hfinal)
    have alive := alive_closed unobstructed (Nat.sub_lt mission.duration_pos Nat.one_pos)
    refine ⟨failure, hlate, mission.exists_timeout_iff.mpr hlate, ?_⟩
    rw [RunResult.failureSummary_ofEngine, if_pos failure, Option.map_some,
      (mission.explains_duration failure).timedOut alive (unblocked_duration unobstructed)]
  · intro long tick frame hframe
    obtain ⟨h, rfl⟩ := mission.getElem?_frames hframe
    exact place_scene unobstructed long h

/-- Where no door and no turret stands, the run follows from the path and the limit alone. -/
theorem simulate_strolls (level : Level) (cues : List Script.Cue) (config : Config)
    (unobstructed : level.Unobstructed) :
    (simulate level cues config).Strolls level (level.constraints.limitUnder config.ceiling) := by
  have hunobstructed : (Mission.of level cues config).level.Unobstructed := unobstructed
  rw [RunResult.simulate_eq]
  exact Mission.strolls_duration hunobstructed

/-- A camera looks down the path, and a drone flies along it. -/
def meadow : Level where
  id := "meadow"
  map := { width := 3, height := 1 }
  entry := ⟨0, 0⟩
  exit := ⟨2, 0⟩
  playerPath := [⟨0, 0⟩, ⟨1, 0⟩, ⟨2, 0⟩]
  devices := [.newCamera "cam" ⟨2, 0⟩ 5 .left, .newAlarm "siren" ⟨0, 0⟩ 1,
    .newDrone "kite" [⟨0, 0⟩, ⟨1, 0⟩] 1]
  networkScope := []
  constraints := { maxLines := 4, maxCommands := 4, maxDelay := 4, tickLimit := 3 }

theorem simulate_meadow_strolls :
    meadow.Unobstructed ∧ IsLeast meadow.exits 2 ∧
      (simulate meadow corridorCues { storeDigests := false }).Strolls meadow
        (meadow.constraints.limitUnder defaultCeiling) := by
  have unobstructed : meadow.Unobstructed := by decide
  refine ⟨unobstructed, ⟨⟨by decide, by decide⟩, ?_⟩,
    simulate_strolls meadow corridorCues { storeDigests := false } unobstructed⟩
  rintro place ⟨later, there⟩
  by_contra before
  obtain rfl : place = 1 := by omega
  simp [meadow] at there

end Infiltration
