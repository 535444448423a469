import Infiltration.Proofs.Run.Explanation

/-! # The door that is blamed

A failed run in which nobody was killed is blamed on the last door that was reported to block the player.
The player was stopped by it. The time ran out while it still blocked the player, or after the player had
passed it. -/

namespace Infiltration

attribute [local irreducible] Mission.opening Mission.closing

/-! ## Reading the blame -/

namespace FailureSummary

/-- A failure is blamed on a door. -/
def Blames (summary : FailureSummary) (door : String) : Prop :=
  summary.primaryCause = "Player was stopped by door " ++ door

/-- A door is blamed for the last block of a run in which nobody was killed. -/
theorem blames_ofLog {log : Log} {door : String} (blames : (ofLog log).Blames door) :
    (∀ event ∈ log, event.kind ≠ .playerKilled) ∧ ∃ block,
      log.findLast? .playerBlockedByDoor = some block ∧
        (block.text? "doorId").getD "unknown door" = door := by
  rw [Blames, ofLog] at blames
  split at blames
  · simp [ofKill, ← String.toList_inj] at blames
  · rename_i alive
    split at blames
    · rename_i block hblock
      refine ⟨Log.findLast?_eq_none.mp alive, block, hblock, ?_⟩
      unfold ofBlock at blames
      simpa [← String.toList_inj] using blames
    · split at blames
      · simp [ofTimeout, ← String.toList_inj] at blames
      · simp [unexplained, ← String.toList_inj] at blames

end FailureSummary

namespace RunResult

/-- A door blocks the player in the frames from one tick on and before another. -/
def Holds (result : RunResult) (door : String) (start stop : ℕ) : Prop :=
  ∀ tick, start ≤ tick → tick < stop → ∀ frame, result.frames[tick]? = some frame →
    frame.snapshot.player.blockedBy = some door

/-- In the frame of a tick the player stands where a door is, which is open. -/
def Passes (result : RunResult) (door : String) (tick : ℕ) : Prop :=
  ∃ frame device part, result.frames[tick]? = some frame ∧
    frame.snapshot.devices.find? door = some device ∧ device.equipment = .door part ∧
      part.isOpen = true ∧ frame.snapshot.player.position = device.position

/-- No door blocks the player in the frames from a tick on. -/
def Frees (result : RunResult) (start : ℕ) : Prop :=
  ∀ tick, start ≤ tick → ∀ frame, result.frames[tick]? = some frame →
    frame.snapshot.player.blockedBy = none

/-- The last that a door did to the player of a run that is out of time: from a tick on it blocked the
player, to the end or until the player passed it. -/
structure LastStop (result : RunResult) (door : String) (tick : ℕ) : Prop where
  reported : ∃ front block back, result.events = front ++ block :: back ∧ block.IsBlock door ∧
    block.tick.toNat = tick ∧ ∀ event ∈ back, event.kind ≠ .playerBlockedByDoor
  alive : ∀ frame ∈ result.frames, frame.snapshot.player.alive = true
  stopped : ∃ frame, result.frames[tick]? = some frame ∧
    frame.snapshot.player.blockedBy = some door
  late : result.finalTick = result.tickLimit
  after : result.Holds door tick result.frames.length ∨
    ∃ pass, tick < pass ∧ result.Holds door tick pass ∧ result.Passes door pass ∧ result.Frees pass

/-- The door that a failure is blamed on blocks the player in the end. -/
def EndsAtBlamed (result : RunResult) : Prop :=
  ∀ summary ∈ result.failureSummary, ∀ door, summary.Blames door →
    ∃ last, result.frames.getLast? = some last ∧ last.snapshot.player.blockedBy = some door

end RunResult

/-! ## From a block on -/

namespace RunResult.PlayerMoves

variable {level : Level} {result : RunResult} (moves : result.PlayerMoves level)

include moves

/-- From each frame to the next the player moves at its pace. -/
theorem pace_next {tick : ℕ} {before after : Frame} (hbefore : result.frames[tick]? = some before)
    (hafter : result.frames[tick + 1]? = some after) :
    before.snapshot.Pace level after.snapshot after.events := by
  refine moves.pace (tick + 1) before.snapshot after ?_ hafter
  rw [RunResult.snapshots, List.getElem?_cons_succ, List.getElem?_map, hbefore, Option.map_some]

end RunResult.PlayerMoves

namespace Snapshot.Pace

variable {level : Level} {before after : Snapshot} {events : List Event} {door : String}
  (pace : before.Pace level after events) (alive : after.player.alive = true)

include pace alive

/-- Who is blocked and has not been told so has been blocked before. -/
theorem blocked_before (silent : ∀ event ∈ events, event.kind ≠ .playerBlockedByDoor)
    (blocked : after.player.blockedBy = some door) : before.player.blockedBy = some door := by
  by_contra hfree
  obtain ⟨event, member, block⟩ := (pace.blocked_iff door).mpr ⟨alive, blocked, hfree⟩
  exact silent event member block.1

/-- Who is no longer blocked has taken the next cell. -/
theorem advances_of_freed (ahead : level.playerPath[before.player.pathIndex + 1]? ≠ none)
    (freed : after.player.blockedBy = none) : before.player.Advances after.player := by
  by_contra halted
  have hindex := pace.index.resolve_right halted
  rw [← hindex, Option.ne_none_iff_exists'] at ahead
  obtain ⟨cell, ahead⟩ := ahead
  obtain ⟨door, -, blocked⟩ := pace.halted alive halted cell ahead
  rw [freed] at blocked
  cases blocked

/-- Whom a door blocks has that door ahead. -/
theorem bar_of_blocked (blocked : after.player.blockedBy = some door) :
    ¬before.player.Advances after.player ∧ ∃ cell bar,
      level.playerPath[after.player.pathIndex + 1]? = some cell ∧ after.devices.FirstBar cell bar ∧
        bar.id = door := by
  have halted : ¬before.player.Advances after.player := by
    intro advances
    rw [(pace.free advances).2] at blocked
    cases blocked
  refine ⟨halted, ?_⟩
  cases ahead : level.playerPath[after.player.pathIndex + 1]? with
  | none =>
      rw [pace.ended ahead] at blocked
      cases blocked
  | some cell =>
      obtain ⟨bar, first, hbar⟩ := pace.halted alive halted cell ahead
      exact ⟨cell, bar, rfl, first, Option.some.inj (hbar.symm.trans blocked)⟩

end Snapshot.Pace

namespace Mission

variable {mission : Mission} {step : ℕ} {door : String}

theorem pace_after (h : step + 1 < mission.duration) :
    (mission.after step).scene.snapshot.Pace mission.level (mission.after (step + 1)).scene.snapshot
      (mission.after (step + 1)).entries :=
  mission.playerMoves_duration.pace_next (mission.getElem?_frames_eq_some (Nat.lt_of_succ_lt h))
    (mission.getElem?_frames_eq_some h)

/-- What is dated after an event of the log stands after it. -/
theorem mem_back_of_later {front back : Log} {block event : Event}
    (split : (mission.after mission.duration).log = front ++ block :: back)
    (member : event ∈ (mission.after mission.duration).log)
    (later : block.tick.toNat < event.tick.toNat) : event ∈ back := by
  obtain ⟨stop, hstop, before, after, hentries, rfl⟩ := mission.split_log le_rfl split
  have dated {other : Event} (h : other ∈ before ++ block :: after) : other.tick.toNat = stop :=
    mission.tick_of_mem_entries hstop (hentries ▸ h)
  have htick : block.tick.toNat = stop := dated (by simp)
  rw [split, List.mem_append, List.mem_cons, List.mem_append] at member
  rcases member with (earlier | beside) | rfl | member
  · have hearlier := mission.tick_of_mem_log (Nat.le_of_lt hstop) earlier
    omega
  · have hbeside := dated (List.mem_append_left _ beside)
    omega
  · exact absurd later (lt_irrefl _)
  · exact member

/-- A door that is reported to block the player does so in the frame of the tick. -/
theorem blockedBy_of_block (h : step < mission.duration) {block : Event}
    (member : block ∈ (mission.after step).entries) (isBlock : block.IsBlock door) :
    (mission.after step).scene.snapshot.player.blockedBy = some door := by
  obtain ⟨before, hbefore, -⟩ := mission.snapshots_duration h
  have pace := mission.playerMoves_duration.pace step _ _ hbefore (mission.getElem?_frames_eq_some h)
  exact ((pace.blocked_iff door).mp ⟨block, member, isBlock⟩).2.1

section Alive

variable (alive : mission.last.closed.1.player.alive = true)

include alive

/-- Who is alive in the end has been alive on every tick. -/
theorem alive_scene (h : step < mission.duration) :
    (mission.after step).scene.snapshot.player.alive = true := by
  rcases Nat.lt_or_ge (step + 1) mission.duration with hnext | hlast
  · exact (mission.undecisive_scene hnext).1
  · obtain rfl : step = mission.duration - 1 := by omega
    exact alive

/-- The door that blocks the player is closed and stands ahead. -/
theorem bar_scene (h : step < mission.duration)
    (blocked : (mission.after step).scene.snapshot.player.blockedBy = some door) :
    ∃ device, (mission.after step).closed.1.devices.find? door = some device ∧
      device.type = .door ∧
        mission.level.playerPath[(mission.after step).scene.snapshot.player.pathIndex + 1]? =
          some device.position := by
  have labelled := mission.labelled_after step
  obtain ⟨before, hbefore, -⟩ := mission.snapshots_duration h
  have pace := mission.playerMoves_duration.pace step _ _ hbefore (mission.getElem?_frames_eq_some h)
  obtain ⟨-, cell, bar, ahead, ⟨front, back, hdevices, ⟨rfl, part, kind, -⟩, -⟩, rfl⟩ :=
    pace.bar_of_blocked (alive_scene alive h) blocked
  rw [Engine.devices_scene] at hdevices
  have member : bar ∈ (mission.after step).closed.1.devices.devices := by simp [hdevices]
  obtain ⟨⟨key, _⟩, hentry, rfl⟩ := List.mem_map.mp member
  have found := Roster.find?_eq_some.mpr hentry
  rw [← (Engine.play_deeds labelled).labelled labelled _ _ found] at found
  refine ⟨_, found, ?_, ahead⟩
  rw [Device.type, kind]
  rfl

/-- Who is no longer blocked by a door stands where it is, and it is open. -/
theorem passes_of_freed (h : step + 1 < mission.duration)
    (blocked : (mission.after step).scene.snapshot.player.blockedBy = some door)
    (freed : (mission.after (step + 1)).scene.snapshot.player.blockedBy = none) :
    (RunResult.ofEngine (mission.after mission.duration)).Passes door (step + 1) := by
  have hstep := Nat.lt_of_succ_lt h
  have pace := pace_after h
  obtain ⟨device, found, kind, ahead⟩ := bar_scene alive hstep blocked
  have hahead := ne_of_eq_of_ne ahead (Option.some_ne_none _)
  have advances := pace.advances_of_freed (alive_scene alive h) hahead freed
  obtain ⟨device', found', hsame⟩ := mission.find?_closed hstep h found
  have kind' : device'.type = .door := (Device.type_of_fixture_eq hsame).trans kind
  have hposition := Device.position_of_fixture_eq hsame (by simp [kind'])
  have hplace : (mission.after (step + 1)).scene.snapshot.player.position = device'.position := by
    have hframe := mission.getElem?_frames_eq_some h
    rcases mission.playerMoves_duration.on_path _ (List.mem_of_getElem? hframe) with
      ⟨hzero, -⟩ | hcell
    · rw [Player.Advances, hzero] at advances
      cases advances
    · rw [advances, ahead] at hcell
      rw [hposition]
      exact (Option.some.inj hcell).symm
  obtain ⟨part, hpart⟩ := Option.isSome_iff_exists.mp ((Device.isSome_door? device').mpr kind')
  have hequipment : device'.equipment = .door part := by
    unfold Device.door? at hpart
    split at hpart <;> simp_all
  have member := List.mem_map_of_mem (f := Prod.snd) (Roster.find?_eq_some.mp found')
  have hfree := (pace.free advances).1 device' member
  refine ⟨_, device', part, mission.getElem?_frames_eq_some h, found', hequipment, ?_, hplace⟩
  by_contra closed
  exact hfree ⟨hplace.symm, part, hequipment, by simpa using closed⟩

variable {stop : ℕ}
  (silent : ∀ later, stop < later → later < mission.duration →
    ∀ event ∈ (mission.after later).entries, event.kind ≠ .playerBlockedByDoor)

include silent

/-- After the last block nobody blocks the player who has not done so on the tick before. -/
theorem blocked_before (hstop : stop ≤ step) (h : step + 1 < mission.duration)
    (blocked : (mission.after (step + 1)).scene.snapshot.player.blockedBy = some door) :
    (mission.after step).scene.snapshot.player.blockedBy = some door :=
  (pace_after h).blocked_before (alive_scene alive h) (silent (step + 1) (Nat.lt_succ_of_le hstop) h)
    blocked

theorem frees_of_freed (hstop : stop ≤ step)
    (freed : (mission.after step).scene.snapshot.player.blockedBy = none) :
    (RunResult.ofEngine (mission.after mission.duration)).Frees step := by
  intro later hlater frame hframe
  obtain ⟨h, rfl⟩ := mission.getElem?_frames hframe
  induction later, hlater using Nat.le_induction with
  | base => exact freed
  | succ later hlater ih =>
      have hlt := Nat.lt_of_succ_lt h
      have hbefore := ih hlt (mission.getElem?_frames_eq_some hlt)
      rw [Option.eq_none_iff_forall_ne_some] at hbefore ⊢
      exact fun door blocked =>
        hbefore door (blocked_before alive silent (hstop.trans hlater) h blocked)

/-- The last door that blocks the player does so on all ticks since, or until the player passes it. -/
theorem holds_or_passes
    (blocked : (mission.after stop).scene.snapshot.player.blockedBy = some door) {last : ℕ}
    (later : stop + 1 ≤ last) (h : last ≤ mission.duration) :
    let result := RunResult.ofEngine (mission.after mission.duration)
    result.Holds door stop last ∨ ∃ pass, stop < pass ∧ result.Holds door stop pass ∧
      result.Passes door pass ∧ result.Frees pass := by
  intro result
  induction last, later using Nat.le_induction with
  | base =>
      left
      intro tick hge hlt frame hframe
      obtain rfl : tick = stop := by omega
      obtain ⟨-, rfl⟩ := mission.getElem?_frames hframe
      exact blocked
  | succ last later ih =>
      obtain holds | passed := ih (Nat.le_of_succ_le h)
      · obtain ⟨before, rfl⟩ : ∃ before, last = before + 1 := Nat.exists_eq_add_one.mpr (by omega)
        have hbefore := mission.getElem?_frames_eq_some (Nat.lt_of_succ_lt h)
        have hheld := holds before (by omega) (Nat.lt_succ_self before) _ hbefore
        cases hnext : (mission.after (before + 1)).scene.snapshot.player.blockedBy with
        | none =>
            exact .inr ⟨before + 1, later, holds, passes_of_freed alive h hheld hnext,
              frees_of_freed alive silent (Nat.le_of_succ_le later) hnext⟩
        | some other =>
            have hother := blocked_before alive silent (by omega) h hnext
            obtain rfl : other = door := Option.some.inj (hother.symm.trans hheld)
            left
            intro tick hge hlt frame hframe
            rcases Nat.lt_succ_iff_lt_or_eq.mp hlt with hlt | rfl
            · exact holds tick hge hlt frame hframe
            · obtain ⟨-, rfl⟩ := mission.getElem?_frames hframe
              exact hnext
      · exact .inr passed

end Alive

/-- Who is blamed was the last to stop the player. -/
theorem lastStop_duration (failed : (mission.after mission.duration).world.outcome = .failure)
    (blames : (FailureSummary.ofLog (mission.after mission.duration).log).Blames door) :
    ∃ tick, (RunResult.ofEngine (mission.after mission.duration)).LastStop door tick := by
  obtain ⟨unkilled, block, hblock, hdoor⟩ := FailureSummary.blames_ofLog blames
  obtain ⟨kind, front, back, hlog, hback⟩ := Log.findLast?_eq_some.mp hblock
  obtain ⟨other, isBlock⟩ := (mission.legible_log block (Log.mem_of_findLast? hblock)).blocked kind
  obtain rfl : other = door := by rw [← hdoor, isBlock.2, Option.getD_some]
  obtain ⟨stop, hstop, before, after, hentries, rfl⟩ := mission.split_log le_rfl hlog
  have alive : mission.last.closed.1.player.alive = true := by
    by_contra dead
    obtain ⟨kill, member, killed⟩ := mission.exists_killed_iff.mpr (Bool.not_eq_true _ ▸ dead)
    exact unkilled kill member killed
  have hmember : block ∈ (mission.after stop).entries := by simp [hentries]
  have htick := mission.tick_of_mem_entries hstop hmember
  have silent : ∀ later, stop < later → later < mission.duration →
      ∀ event ∈ (mission.after later).entries, event.kind ≠ .playerBlockedByDoor := by
    intro later hlater hlt event member
    have hevent := mission.tick_of_mem_entries hlt member
    have logged : event ∈ (mission.after mission.duration).log := by
      rw [mission.log_after le_rfl]
      exact List.mem_flatMap.mpr ⟨later, List.mem_range.mpr hlt, member⟩
    exact hback event (mem_back_of_later hlog logged (by omega))
  have blocked := blockedBy_of_block hstop hmember isBlock
  refine ⟨stop, ⟨⟨_, block, back, hlog, isBlock, htick, hback⟩, ?_,
    ⟨_, mission.getElem?_frames_eq_some hstop, blocked⟩, ?_, ?_⟩⟩
  · intro frame member
    obtain ⟨step, hstep, rfl⟩ := mission.mem_frames member
    exact alive_scene alive hstep
  · rw [RunResult.tickLimit_ofEngine, mission.limit_duration]
    refine (mission.outcome_eq_failure.mp failed).2.resolve_left fun dead => ?_
    exact Bool.false_ne_true (dead.symm.trans alive)
  · rw [RunResult.frames_ofEngine, mission.length_frames]
    exact holds_or_passes alive silent blocked hstop le_rfl

end Mission

/-- Whenever a failed run is blamed on a door, that door was the last to stop the player: it did so to the
end, or until the player passed it. -/
theorem simulate_lastStop (level : Level) (cues : List Script.Cue) (config : Config)
    {summary : FailureSummary} {door : String}
    (told : (simulate level cues config).failureSummary = some summary)
    (blames : summary.Blames door) : ∃ tick, (simulate level cues config).LastStop door tick := by
  rw [RunResult.simulate_eq] at told ⊢
  rw [RunResult.failureSummary_ofEngine, Option.ite_none_right_eq_some] at told
  obtain ⟨failed, hsummary⟩ := told
  obtain rfl := Option.some.inj hsummary
  exact Mission.lastStop_duration failed blames

/-- A corridor with a door in its middle, too long for its time. -/
def lobby : Level where
  id := "lobby"
  map := { width := 3, height := 1 }
  entry := ⟨0, 0⟩
  exit := ⟨2, 0⟩
  playerPath := [⟨0, 0⟩, ⟨1, 0⟩]
  devices := [.newDoor "gate" ⟨1, 0⟩ false]
  networkScope := ["gate"]
  constraints := { maxLines := 4, maxCommands := 4, maxDelay := 4, tickLimit := 3 }

theorem simulate_lobby_lastStop :
    ∃ summary, (simulate lobby corridorCues { storeDigests := false }).failureSummary = some summary ∧
      summary.Blames "gate" ∧
        ∃ tick, (simulate lobby corridorCues { storeDigests := false }).LastStop "gate" tick := by
  have hsummary : (simulate lobby corridorCues { storeDigests := false }).failureSummary.map
      FailureSummary.primaryCause = some "Player was stopped by door gate" := by
    decide +kernel
  obtain ⟨summary, told, blames⟩ := Option.map_eq_some_iff.mp hsummary
  exact ⟨summary, told, blames,
    simulate_lastStop lobby corridorCues { storeDigests := false } told blames⟩

/-- The gate is opened on the second tick, and the player walks through it to the end of the path. The
failure is blamed on it when the time has run out. -/
theorem not_endsAtBlamed_lobby :
    lobby.fault? = none ∧ ¬(simulate lobby corridorCues { storeDigests := false }).EndsAtBlamed := by
  refine ⟨by decide +kernel, fun ends => ?_⟩
  have hsummary : (simulate lobby corridorCues { storeDigests := false }).failureSummary.map
      FailureSummary.primaryCause = some "Player was stopped by door gate" := by
    decide +kernel
  have hlast : ∀ last ∈ (simulate lobby corridorCues { storeDigests := false }).frames.getLast?,
      last.snapshot.player.blockedBy = none := by
    decide +kernel
  obtain ⟨summary, told, blames⟩ := Option.map_eq_some_iff.mp hsummary
  obtain ⟨last, hframe, blocked⟩ := ends summary told "gate" blames
  rw [hlast last hframe] at blocked
  cases blocked

end Infiltration
