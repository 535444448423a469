import Infiltration.Proofs.Run.Parts
import Infiltration.Proofs.Run.WellFormed
import Infiltration.Proofs.Tick.Shutter

/-! # The last command to a camera

Whether a camera is on at the end of a tick depends on the last command that was given to it by then,
and on how it was authored only where there was none. A camera that was switched off for a while comes
back by itself once, on the tick on which the time is over. -/

namespace Infiltration

attribute [local irreducible] Mission.opening Mission.closing

/-! ## The last command -/

namespace Script

/-- The cues of a tick that switch a camera, in their order. -/
def switchesOn (cues : List Cue) (camera : String) (tick : ℕ) : List Cue :=
  cues.filter fun cue => cue.command.switched? = some camera ∧ cue.tick.toNat = tick

/-- The last of the cues before a tick that switch a camera: the latest, and of those of one tick the
last in their order. -/
def lastSwitch? (cues : List Cue) (camera : String) (tick : ℕ) : Option Cue :=
  ((List.range tick).flatMap fun earlier => switchesOn cues camera earlier).getLast?

variable {cues : List Cue} {camera : String} {tick : ℕ} {cue : Cue}

theorem lastSwitch?_succ (cues : List Cue) (camera : String) (tick : ℕ) :
    lastSwitch? cues camera (tick + 1) =
      (switchesOn cues camera tick).getLast?.or (lastSwitch? cues camera tick) := by
  rw [lastSwitch?, List.range_succ, List.flatMap_append, List.flatMap_singleton, List.getLast?_append,
    lastSwitch?]

theorem mem_switchesOn : cue ∈ switchesOn cues camera tick ↔
    cue ∈ cues ∧ cue.command.switched? = some camera ∧ cue.tick.toNat = tick := by
  simp [switchesOn]

theorem switched?_of_lastSwitch? (last : lastSwitch? cues camera tick = some cue) :
    cue.command.switched? = some camera ∧ cue.tick.toNat < tick := by
  obtain ⟨earlier, hearlier, member⟩ := List.mem_flatMap.mp (List.mem_of_getLast? last)
  obtain ⟨-, hswitched, rfl⟩ := mem_switchesOn.mp member
  exact ⟨hswitched, List.mem_range.mp hearlier⟩

/-- A command that is the last before a tick is the last before all ticks between. -/
theorem lastSwitch?_of_le {late : ℕ} (last : lastSwitch? cues camera late = some cue)
    (given : cue.tick.toNat < tick) (h : tick ≤ late) : lastSwitch? cues camera tick = some cue := by
  induction late, h using Nat.le_induction with
  | base => exact last
  | succ late h ih =>
      rw [lastSwitch?_succ] at last
      rcases hnow : (switchesOn cues camera late).getLast? with _ | other
      · rw [hnow, Option.none_or] at last
        exact ih last
      · rw [hnow, Option.some_or, Option.some.injEq] at last
        subst last
        have member := List.mem_of_getLast? hnow
        have hlate := (mem_switchesOn.mp member).2.2
        omega

/-- Whether a command to a camera, given on one tick, has the camera on at the end of another. -/
def Command.LeavesOn (given tick : ℕ) : Command → Prop
  | enableCamera _ => True
  | disableCamera _ (some duration) => min (UInt64.size - 1) (given + duration.toNat) ≤ tick
  | _ => False

end Script

namespace Shutter

/-- A shutter as the last command before a tick has left it. -/
def under (authored : Shutter) (cues : List Script.Cue) (camera : String) (tick : ℕ) : Shutter :=
  (Script.lastSwitch? cues camera tick).elim authored fun cue =>
    authored.obey camera cue.tick cue.command

/-- A shutter that is open, or has come to its deadline by the end of a tick. -/
def OpenBy (shutter : Shutter) (tick : ℕ) : Prop :=
  shutter.on = true ∨ ∃ deadline, shutter.deadline = some deadline ∧ deadline.toNat ≤ tick

/-- Whether a camera is on at the end of a tick by the last command that was given to it, or, where
there is none, by how it was authored. -/
def OnAt (authored : Shutter) (cues : List Script.Cue) (camera : String) (tick : ℕ) : Prop :=
  match Script.lastSwitch? cues camera (tick + 1) with
  | some cue => cue.command.LeavesOn cue.tick.toNat tick
  | none => authored.OpenBy tick

variable {authored : Shutter} {cues : List Script.Cue} {camera : String} {tick : UInt64}

/-- The last command of a tick replaces all those before. -/
theorem under_succ (tick : ℕ) :
    authored.under cues camera (tick + 1) =
      (Script.switchesOn cues camera tick).getLast?.elim (authored.under cues camera tick)
        fun cue => authored.obey camera cue.tick cue.command := by
  rw [under, Script.lastSwitch?_succ]
  cases (Script.switchesOn cues camera tick).getLast? <;> rfl

theorem on_expire (shutter : Shutter) (tick : ℕ) :
    (shutter.expire (tick + 1)).on = true ↔ shutter.OpenBy tick := by
  cases hon : shutter.on with
  | true => simp [expire, due_of_on hon, hon, OpenBy]
  | false =>
      cases hdeadline : shutter.deadline with
      | none => simp [expire, due, OpenBy, hon, hdeadline]
      | some deadline =>
          have hdue : shutter.due (tick + 1) = true ↔ deadline.toNat ≤ tick := by
            simp only [due, hon, hdeadline, Bool.not_false, Bool.true_and, Option.any_some,
              decide_eq_true_eq]
            exact Nat.lt_succ_iff
          by_cases h : deadline.toNat ≤ tick
          · simp [expire, hdue.mpr h, OpenBy, hdeadline, h]
          · simp [expire, mt hdue.mp h, OpenBy, hon, hdeadline, h]

/-- A command to a camera leaves it on or off as foretold. -/
theorem openBy_obey {command : Script.Command} (h : command.switched? = some camera) {late : ℕ} :
    (authored.obey camera tick command).OpenBy late ↔ command.LeavesOn tick.toNat late := by
  cases command with
  | disableCamera key duration =>
      obtain rfl : key = camera := by simpa [Script.Command.switched?] using h
      cases duration <;> simp [obey, OpenBy, Script.Command.LeavesOn]
  | enableCamera key =>
      obtain rfl : key = camera := by simpa [Script.Command.switched?] using h
      simp [obey, OpenBy, Script.Command.LeavesOn]
  | _ => simp [Script.Command.switched?] at h

theorem on_under (tick : ℕ) :
    ((authored.under cues camera (tick + 1)).expire (tick + 1)).on = true ↔
      authored.OnAt cues camera tick := by
  rw [on_expire, under, OnAt]
  rcases last : Script.lastSwitch? cues camera (tick + 1) with _ | cue
  · exact Iff.rfl
  · exact openBy_obey (Script.switched?_of_lastSwitch? last).1

/-- The shutter after the cues of a tick: the last of them stands, or else what was before. -/
def cued (authored : Shutter) (cues : List Script.Cue) (camera : String) (tick : UInt64) : Shutter :=
  ((authored.under cues camera tick.toNat).expire tick.toNat).obeyAll camera tick
    (cues.filter fun cue => cue.tick.toNat = tick.toNat)

theorem cued_eq :
    authored.cued cues camera tick =
      (Script.switchesOn cues camera tick.toNat).getLast?.elim
        ((authored.under cues camera tick.toNat).expire tick.toNat)
        fun cue => authored.obey camera cue.tick cue.command := by
  have hswitches : (cues.filter fun cue => cue.tick.toNat = tick.toNat).filter
      (fun cue => cue.command.switched? = some camera) = Script.switchesOn cues camera tick.toNat := by
    simp [Script.switchesOn, List.filter_filter]
  rw [cued, obeyAll_eq, hswitches]
  rcases last : (Script.switchesOn cues camera tick.toNat).getLast? with _ | cue
  · rfl
  · obtain ⟨-, hswitched, htick⟩ := Script.mem_switchesOn.mp (List.mem_of_getLast? last)
    rw [Option.elim_some, Option.elim_some, UInt64.toNat_inj.mp htick]
    exact obey_of_switched hswitched authored

/-- The timers of a tick leave the shutter as the last command of all has it. -/
theorem expire_cued :
    (authored.cued cues camera tick).expire (tick.toNat + 1) =
      (authored.under cues camera (tick.toNat + 1)).expire (tick.toNat + 1) := by
  rw [cued_eq, under_succ]
  rcases last : (Script.switchesOn cues camera tick.toNat).getLast? with _ | cue
  · exact expire_expire (Nat.le_succ _) _
  · rfl

/-- A camera that was switched off for a while comes back on the tick on which the time is over. -/
theorem due_cued {cue : Script.Cue} {duration : UInt64}
    (paused : cue.command = .disableCamera camera (some duration))
    (bounded : cue.tick.toNat + duration.toNat < UInt64.size)
    (last : Script.lastSwitch? cues camera (tick.toNat + 1) = some cue) :
    (authored.cued cues camera tick).due (tick.toNat + 1) = true ↔
      tick.toNat = cue.tick.toNat + duration.toNat := by
  have hobeyed : authored.obey camera cue.tick cue.command =
      { on := false, deadline := some (Capped.add64 cue.tick duration) } := by
    simp [obey, paused]
  have hdeadline : (Capped.add64 cue.tick duration).toNat = cue.tick.toNat + duration.toNat := by
    rw [Capped.toNat_add64]
    omega
  rw [Script.lastSwitch?_succ] at last
  rw [cued_eq]
  rcases hnow : (Script.switchesOn cues camera tick.toNat).getLast? with _ | other
  · rw [hnow, Option.none_or] at last
    rw [Option.elim_none, due_expire, under, last, Option.elim_some, hobeyed]
    simp [hdeadline, eq_comm]
  · rw [hnow, Option.some_or, Option.some.injEq] at last
    subst last
    have htick := (Script.mem_switchesOn.mp (List.mem_of_getLast? hnow)).2.2
    rw [Option.elim_some, hobeyed]
    simp [due, hdeadline, htick]

end Shutter

/-! ## Reading events -/

/-- A camera comes back by itself. -/
def Event.IsReturn (camera : String) (event : Event) : Prop :=
  event.kind = .deviceEnabled ∧ event.line = none ∧ event.text? "deviceId" = some camera

instance (camera : String) (event : Event) : Decidable (event.IsReturn camera) :=
  inferInstanceAs (Decidable (_ ∧ _))

theorem Occurrence.isReturn_event {occurrence : Occurrence} {id tick : UInt64} {camera : String} :
    (occurrence.event id tick).IsReturn camera ↔ occurrence = .cameraEnabled none camera := by
  cases occurrence <;>
    simp [Event.IsReturn, event, kind, facts, line?, Event.text?, Payload.text?, Payload.ofList,
      Fact.text?]

/-- A camera comes back by itself once from one tick on and before another, on a tick between. -/
def Log.ReturnsOnce (log : Log) (camera : String) (start stop tick : ℕ) : Prop :=
  ∃ event, (log.filter fun event => event.IsReturn camera ∧ start ≤ event.tick.toNat ∧
    event.tick.toNat < stop) = [event] ∧ event.tick.toNat = tick

/-- The last command to a camera decides whether it is on. A command that switches it off for a while
brings it back once as long as there is no other. -/
structure RunResult.LastSwitchStands (cues : List Script.Cue) (camera : String) (authored : Shutter)
    (result : RunResult) : Prop where
  on_iff : ∀ (tick : ℕ) (frame : Frame), result.frames[tick]? = some frame →
    ∃ device, frame.snapshot.devices.find? camera = some device ∧
      (device.enabled = true ↔ authored.OnAt cues camera tick)
  returns : ∀ (cue : Script.Cue) (duration : UInt64) (stop : ℕ),
    cue.command = .disableCamera camera (some duration) →
    Script.lastSwitch? cues camera stop = some cue →
    cue.tick.toNat + duration.toNat < stop →
    cue.tick.toNat + duration.toNat < result.frames.length →
      result.events.ReturnsOnce camera cue.tick.toNat stop (cue.tick.toNat + duration.toNat)

/-! ## One tick -/

namespace Engine

variable {engine : Engine} {camera : String} {shutter : Shutter}

theorem shutter?_cued (found : engine.world.devices.part? camera Device.shutter? = some shutter) :
    engine.cued.1.devices.part? camera Device.shutter? =
      some (shutter.obeyAll camera engine.world.tick (engine.mission.cuesAt engine.world.tick)) :=
  Tick.shutter?_runCues found _

variable (labelled : engine.world.devices.Labelled)

include labelled

/-- After the timers the shutters stay as they are. -/
theorem shutters_closed :
    engine.closed.1.devices.view Device.shutter? = engine.woken.1.devices.view Device.shutter? := by
  have hshutters := (moved_deeds labelled).shutters_of_unscripted (by simp [Stage.line?]) (by simp)
  rw [← hshutters]
  exact (closing_deeds labelled).shutters_of_unscripted (by simp [Stage.late, Stage.line?])
    (by simp [Stage.late])

theorem shutter?_closed (found : engine.world.devices.part? camera Device.shutter? = some shutter) :
    engine.closed.1.devices.part? camera Device.shutter? =
      some ((shutter.obeyAll camera engine.world.tick
        (engine.mission.cuesAt engine.world.tick)).expire (engine.world.tick.toNat + 1)) := by
  have hwoken := Tick.shutter?_wakeCameras (shutter?_cued found)
  rw [engine.cued_deeds.tick_eq] at hwoken
  rw [Roster.part?_of_view_eq (shutters_closed labelled), woken, hwoken]

/-- Cameras come back by themselves on the turn of the timers only. -/
theorem count_returns (found : engine.world.devices.part? camera Device.shutter? = some shutter) :
    engine.entries.countP (fun event => event.IsReturn camera) =
      if (shutter.obeyAll camera engine.world.tick (engine.mission.cuesAt engine.world.tick)).due
        (engine.world.tick.toNat + 1) then 1 else 0 := by
  have hwoken := Tick.count_wakeCameras (engine.cued_deeds.labelled labelled) (shutter?_cued found)
  have hsighted : engine.sighted.count (.cameraEnabled none camera) = 0 :=
    List.count_eq_zero.mpr (by simp [sighted, Tick.reportSightings])
  have hentries : engine.entries.countP (fun event => event.IsReturn camera) =
      engine.occurrences.count (.cameraEnabled none camera) :=
    countP_enterFrom (fun _ _ => Occurrence.isReturn_event) _ _
  rw [engine.cued_deeds.tick_eq] at hwoken
  rw [hentries, count_occurrences labelled rfl (by simp [Occurrence.stage, Stage.late]), hsighted,
    Nat.add_zero, woken, hwoken]

end Engine

/-! ## The whole run -/

namespace Mission

variable {mission : Mission} {camera : String} {authored : Shutter} {step : ℕ}
  (found : (World.start mission.level).devices.part? camera Device.shutter? = some authored)

/-- The cues of a step make of a shutter what they make of it in the course of all cues. -/
theorem cued_after (h : step < mission.duration) :
    ((authored.under mission.cues camera step).expire step).obeyAll camera
        (mission.after step).world.tick
        ((mission.after step).mission.cuesAt (mission.after step).world.tick) =
      authored.cued mission.cues camera (mission.after step).world.tick := by
  have htick := (mission.tick_after (mission.running_of_lt h)).1
  rw [mission_after, mission.cuesAt_eq rfl, Shutter.cued, htick]

include found

/-- Every step finds a camera as the last command before it has left it. -/
theorem shutter?_after {steps : ℕ} (h : steps ≤ mission.duration) :
    (mission.after steps).world.devices.part? camera Device.shutter? =
      some ((authored.under mission.cues camera steps).expire steps) := by
  induction steps with
  | zero =>
      rw [Shutter.expire_zero]
      exact found
  | succ steps ih =>
      have htick := (mission.tick_after (mission.running_of_lt h)).1
      have hclosed := Engine.shutter?_closed (mission.labelled_after steps) (ih (Nat.le_of_lt h))
      rw [cued_after h, Shutter.expire_cued, htick] at hclosed
      rw [mission.devices_after_succ h, hclosed]

theorem on_scene (h : step < mission.duration) :
    ∃ device, (mission.after step).scene.snapshot.devices.find? camera = some device ∧
      (device.enabled = true ↔ authored.OnAt mission.cues camera step) := by
  have hnext := shutter?_after found (Nat.succ_le_of_lt h)
  rw [mission.devices_after_succ h] at hnext
  obtain ⟨device, hdevice, hshutter⟩ := Roster.part?_eq_some.mp hnext
  obtain ⟨other, -, hother⟩ := Option.map_eq_some_iff.mp hshutter
  refine ⟨device, hdevice, ?_⟩
  rw [← Shutter.on_under, ← hother]

/-- A tick on which the last command switches a camera off for a while brings it back if the time is
over on the tick, and else does not. -/
theorem count_returns {cue : Script.Cue} {duration : UInt64} (h : step < mission.duration)
    (paused : cue.command = .disableCamera camera (some duration))
    (bounded : cue.tick.toNat + duration.toNat < UInt64.size)
    (last : Script.lastSwitch? mission.cues camera (step + 1) = some cue) :
    (mission.after step).entries.countP (fun event => event.IsReturn camera) =
      if step = cue.tick.toNat + duration.toNat then 1 else 0 := by
  have htick := (mission.tick_after (mission.running_of_lt h)).1
  have hcount := Engine.count_returns (mission.labelled_after step)
    (shutter?_after found (Nat.le_of_lt h))
  rw [cued_after h] at hcount
  rw [← htick] at last
  rw [hcount, if_congr (Shutter.due_cued paused bounded last) rfl rfl, htick]

theorem returnsOnce_duration {cue : Script.Cue} {duration : UInt64} {stop : ℕ}
    (paused : cue.command = .disableCamera camera (some duration))
    (last : Script.lastSwitch? mission.cues camera stop = some cue)
    (before : cue.tick.toNat + duration.toNat < stop)
    (reached : cue.tick.toNat + duration.toNat < mission.duration) :
    (mission.after mission.duration).log.ReturnsOnce camera cue.tick.toNat stop
      (cue.tick.toNat + duration.toNat) := by
  have bounded : cue.tick.toNat + duration.toNat < UInt64.size := by
    have hduration := mission.duration_le
    have hlimit := mission.limit.toNat_lt
    rw [UInt64.size]
    omega
  have hcount {step : ℕ} (h : step < mission.duration) (begun : cue.tick.toNat ≤ step)
      (stands : step < stop) :
      (mission.after step).entries.countP (fun event => event.IsReturn camera) =
        if step = cue.tick.toNat + duration.toNat then 1 else 0 :=
    count_returns found h paused bounded
      (Script.lastSwitch?_of_le last (Nat.lt_succ_of_le begun) (Nat.succ_le_of_lt stands))
  have only : ∀ event ∈ (mission.after mission.duration).log,
      (event.IsReturn camera ∧ cue.tick.toNat ≤ event.tick.toNat ∧ event.tick.toNat < stop) →
        event.tick.toNat = cue.tick.toNat + duration.toNat := by
    rintro event member ⟨returned, begun, stands⟩
    rw [mission.log_after le_rfl] at member
    obtain ⟨step, hstep, hevent⟩ := List.mem_flatMap.mp member
    rw [List.mem_range] at hstep
    rw [mission.tick_of_mem_entries hstep hevent] at begun stands ⊢
    by_contra h
    have hnone := hcount hstep begun stands
    rw [if_neg h, List.countP_eq_zero] at hnone
    exact hnone event hevent (decide_eq_true returned)
  have hentries : ((mission.after (cue.tick.toNat + duration.toNat)).entries.filter fun event =>
      event.IsReturn camera ∧ cue.tick.toNat ≤ event.tick.toNat ∧ event.tick.toNat < stop) =
        (mission.after (cue.tick.toNat + duration.toNat)).entries.filter fun event =>
          event.IsReturn camera := by
    refine List.filter_congr fun event member => ?_
    simp [mission.tick_of_mem_entries reached member, before]
  have hone := hcount reached (Nat.le_add_right _ _) before
  rw [if_pos rfl, List.countP_eq_length_filter] at hone
  obtain ⟨event, hevent⟩ := List.length_eq_one_iff.mp hone
  have member : event ∈ (mission.after (cue.tick.toNat + duration.toNat)).entries :=
    (List.mem_filter.mp (hevent ▸ List.mem_singleton_self event)).1
  refine ⟨event, ?_, mission.tick_of_mem_entries reached member⟩
  rw [mission.filter_log reached only, hentries, hevent]

theorem lastSwitchStands_duration :
    (RunResult.ofEngine (mission.after mission.duration)).LastSwitchStands mission.cues camera
      authored := by
  constructor
  · intro step frame hframe
    obtain ⟨h, rfl⟩ := mission.getElem?_frames hframe
    exact on_scene found h
  · intro cue duration stop paused last before reached
    rw [RunResult.frames_ofEngine, length_frames] at reached
    exact returnsOnce_duration found paused last before reached

end Mission

/-- In every run the last command to a camera stands. -/
theorem simulate_lastSwitchStands (level : Level) (cues : List Script.Cue) (config : Config)
    {camera : String} {authored : Shutter}
    (found : (World.start level).devices.part? camera Device.shutter? = some authored) :
    (simulate level cues config).LastSwitchStands cues camera authored := by
  rw [RunResult.simulate_eq]
  exact (Mission.of level cues config).lastSwitchStands_duration found

/-- One cell and a camera that is off at first. -/
def gatehouse : Level where
  id := "gatehouse"
  map := { width := 2, height := 2 }
  entry := ⟨0, 0⟩
  exit := ⟨1, 0⟩
  playerPath := [⟨0, 0⟩]
  devices :=
    [{ id := "eye"
       position := ⟨1, 1⟩
       enabled := false
       equipment := .camera { range := 0, facing := .up, disabledUntil := some 1 } }]
  networkScope := ["eye"]
  constraints := { maxLines := 4, maxCommands := 4, maxDelay := 4, tickLimit := 7 }

/-- Out of order: the camera is switched off for good on the third tick, then on and off again for two
ticks on the fifth. -/
def gatehouseCues : List Script.Cue :=
  [{ tick := 4, line := 2, raw := "camera(\"eye\").enable()", command := .enableCamera "eye" },
    { tick := 2, line := 1, raw := "camera(\"eye\").disable()", command := .disableCamera "eye" none },
    { tick := 4, line := 3, raw := "camera(\"eye\").disable(2)",
      command := .disableCamera "eye" (some 2) }]

theorem simulate_gatehouse_switches :
    (World.start gatehouse).devices.part? "eye" Device.shutter? =
        some { on := false, deadline := some 1 } ∧
      (simulate gatehouse gatehouseCues { storeDigests := false }).frames.map
          (fun frame => (frame.snapshot.devices.find? "eye").map Device.enabled) =
        [some false, some true, some false, some false, some false, some false, some true, some true] ∧
      (simulate gatehouse gatehouseCues { storeDigests := false }).events.ReturnsOnce "eye" 4 8 6 ∧
      (simulate gatehouse gatehouseCues { storeDigests := false }).LastSwitchStands gatehouseCues "eye"
        { on := false, deadline := some 1 } := by
  have found : (World.start gatehouse).devices.part? "eye" Device.shutter? =
      some { on := false, deadline := some 1 } := by decide +kernel
  have stands := simulate_lastSwitchStands gatehouse gatehouseCues { storeDigests := false } found
  have returned := stands.returns
    { tick := 4, line := 3, raw := "camera(\"eye\").disable(2)",
      command := .disableCamera "eye" (some 2) } 2 8 rfl (by decide) (by decide) (by decide +kernel)
  exact ⟨found, by decide +kernel, returned, stands⟩

end Infiltration
