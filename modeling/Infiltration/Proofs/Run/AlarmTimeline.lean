import Infiltration.Proofs.Level
import Infiltration.Proofs.Run.Ending
import Infiltration.Proofs.Run.Provocation
import Infiltration.Proofs.Tick.Course
import Mathlib.Order.Nat

/-! # When the alarm rises

A green alarm turns yellow on the first sight of the player, and red when its time has come. Nothing
else in a run changes its level, so that the frames and the log show no more than this. -/

namespace Infiltration

/-! ## The alarm in a tick of a run -/

namespace Engine

variable (engine : Engine)

/-- Whether a camera sees the player when the alarm's turn comes. -/
def seen : Bool := !engine.opened.1.sightings.isEmpty

/-- What a tick makes of an alarm. -/
def risen (alarm : Alarm) : Alarm :=
  (alarm.obeyAll (engine.mission.cuesAt engine.world.tick)).rise engine.world.tick engine.seen

variable {engine} {alarm : Alarm} (labelled : engine.world.devices.Labelled)
  (first : engine.world.devices.alarm? = some alarm)

include labelled first

theorem alarm?_opened : engine.opened.1.devices.alarm? =
    some (alarm.obeyAll (engine.mission.cuesAt engine.world.tick)) := by
  rw [(moved_deeds labelled).alarm?_eq (by simp [Stage.line?]) (by simp),
    (woken_deeds labelled).alarm?_eq (by simp [Stage.line?]) (by simp)]
  exact Tick.alarm?_runCues first _

theorem escalated_risen :
    engine.escalated.1.devices.alarm? = some (engine.risen alarm) ∧
      engine.escalated.2.filterMap Occurrence.change? =
        alarm.level.climb (engine.risen alarm).level := by
  have hrise := Tick.escalate_rise (alarm?_opened labelled first)
  rw [(opened_deeds labelled).tick_eq, Alarm.level_obeyAll] at hrise
  exact hrise

theorem alarm?_closed : engine.closed.1.devices.alarm? = some (engine.risen alarm) := by
  rw [world_departed, late_deeds.alarm?_eq (by simp [Stage.late, Stage.line?]) (by simp [Stage.late]),
    engaged_deeds.alarm?_eq (by simp [Stage.line?]) (by simp)]
  exact (escalated_risen labelled first).1

/-- A tick tells of no change of the alarm's level but on the alarm's turn. -/
theorem changes_occurrences : engine.occurrences.filterMap Occurrence.change? =
    alarm.level.climb (engine.risen alarm).level := by
  rw [occurrences_departed, List.filterMap_append, List.filterMap_append, List.filterMap_append,
    (early_deeds labelled).filterMap_change? (by simp [Stage.early]),
    engaged_deeds.filterMap_change? (by simp), late_deeds.filterMap_change? (by simp [Stage.late]),
    (escalated_risen labelled first).2, List.nil_append, List.append_nil, List.append_nil]

end Engine

/-! ## The alarm of a run -/

namespace Mission

variable (mission : Mission)

/-- The first of so many steps in which a camera sees the player. -/
def firstSight (steps : ℕ) : Option ℕ := (List.range steps).find? fun step => (mission.after step).seen

theorem firstSight_succ (steps : ℕ) :
    mission.firstSight (steps + 1) =
      (mission.firstSight steps).or (if (mission.after steps).seen then some steps else none) := by
  rw [firstSight, List.range_succ, List.find?_append, List.find?_singleton, firstSight]

variable {mission} {authored alarm : Alarm} {step : ℕ}

/-- A tick goes on with the course of the alarm. -/
theorem course_risen (h : step < mission.duration)
    (course : authored.Course mission.cues step (Script.delayBefore mission.cues step)
      (mission.firstSight step) alarm) :
    authored.Course mission.cues (step + 1) (Script.delayUntil mission.cues step)
      (mission.firstSight (step + 1)) ((mission.after step).risen alarm) := by
  have htick := (mission.tick_after (mission.running_of_lt h)).1
  have hobeyed := course.obeyAll (mission.cuesAt (mission.after step).world.tick)
  have hdelay := Script.delayUntil_eq mission.cues (mission.after step).world.tick
  rw [htick] at hdelay
  rw [cuesAt, ← hdelay] at hobeyed
  rw [firstSight_succ, Engine.risen, mission_after]
  exact hobeyed.rise htick _

/-- Every step finds the alarm on its course. -/
theorem course_after (first : mission.level.alarm? = some authored) (calm : authored.level = .green)
    {steps : ℕ} (h : steps ≤ mission.duration) :
    ∃ alarm, (mission.after steps).world.devices.alarm? = some alarm ∧
      authored.Course mission.cues steps (Script.delayBefore mission.cues steps)
        (mission.firstSight steps) alarm := by
  induction steps with
  | zero =>
      refine ⟨authored, first, .calm calm rfl ?_⟩
      have hdelay : Script.delayBefore mission.cues 0 = 0 := by
        simp [Script.delayBefore, Script.delays]
      have hbound := authored.delayBuffer.toNat_lt
      rw [hdelay, UInt64.size]
      omega
  | succ steps ih =>
      obtain ⟨alarm, halarm, course⟩ := ih (Nat.le_of_succ_le h)
      refine ⟨(mission.after steps).risen alarm, ?_, ?_⟩
      · rw [mission.devices_after_succ h]
        exact Engine.alarm?_closed (mission.labelled_after steps) halarm
      · rw [Script.delayBefore_succ]
        exact course_risen h course

/-- The level at the end of a tick, and the changes in it, are those that the first sight foretells. -/
theorem timeline_closed (first : mission.level.alarm? = some authored)
    (calm : authored.level = .green) (h : step < mission.duration) :
    ((mission.after step).closed.1.alarmLevel =
      (mission.firstSight (step + 1)).elim .green
        fun sight => authored.levelAt mission.cues sight step) ∧
      (mission.after step).occurrences.filterMap Occurrence.change? =
        (mission.firstSight (step + 1)).elim []
          fun sight => authored.changesAt mission.cues sight step := by
  have labelled := mission.labelled_after step
  obtain ⟨alarm, halarm, course⟩ := course_after first calm (Nat.le_of_lt h)
  have risen := course_risen h course
  refine ⟨?_, ?_⟩
  · rw [World.alarmLevel_of_alarm? (Engine.alarm?_closed labelled halarm), risen.level_eq]
  · rw [Engine.changes_occurrences labelled halarm]
    rw [firstSight_succ] at risen ⊢
    exact course.climb_eq risen

end Mission

/-! ## The first sight of the player -/

/-- A camera sees the player on a tick: in the frame of the tick it is on, and it watches the cell on
which the player stood before. -/
def RunResult.SightedOn (level : Level) (result : RunResult) (tick : ℕ) : Prop :=
  ∃ before frame, (result.snapshots level)[tick]? = some before ∧ result.frames[tick]? = some frame ∧
    frame.snapshot.devices.watches before.player.position = true

/-- The first tick on which a camera sees the player. -/
def RunResult.FirstSightedOn (level : Level) (result : RunResult) (tick : ℕ) : Prop :=
  IsLeast {other | result.SightedOn level other} tick

/-- After the cameras have looked nothing changes what each of them sees. -/
theorem Engine.sights_closed {engine : Engine} (labelled : engine.world.devices.Labelled) :
    engine.closed.1.devices.view Device.watches = engine.opened.1.devices.view Device.watches :=
  (closing_deeds labelled).watches_eq (by simp [Stage.late, Stage.line?]) (by simp [Stage.late])

theorem Engine.watches_closed {engine : Engine} (labelled : engine.world.devices.Labelled) :
    engine.closed.1.devices.watches = engine.opened.1.devices.watches :=
  Roster.watches_of_view_eq (sights_closed labelled)

namespace Mission

variable {mission : Mission} {step : ℕ}

theorem seen_eq (h : step < mission.duration) :
    (mission.after step).seen =
      (mission.after step).closed.1.devices.watches (mission.after step).world.player.position := by
  have labelled := mission.labelled_after step
  have hplayer := (Engine.opened_deeds labelled).player_eq (by simp [Stage.early])
    (by simp [Stage.early])
  have alive := (mission.player_after (mission.running_of_lt h)).1
  rw [← hplayer] at alive
  rw [Engine.seen, World.sightings_isEmpty alive, Engine.watches_closed labelled, hplayer]

/-- The ticks on which a camera sees the player are those whose steps find it in sight. -/
theorem sightedOn_iff :
    (RunResult.ofEngine (mission.after mission.duration)).SightedOn mission.level step ↔
      step < mission.duration ∧ (mission.after step).seen = true := by
  constructor
  · rintro ⟨before, frame, hbefore, hframe, watched⟩
    obtain ⟨h, rfl⟩ := mission.getElem?_frames hframe
    obtain ⟨other, hother, hplayer, -⟩ := mission.snapshots_duration h
    obtain rfl := Option.some.inj (hother.symm.trans hbefore)
    rw [hplayer] at watched
    exact ⟨h, (seen_eq h).trans watched⟩
  · rintro ⟨h, seen⟩
    obtain ⟨before, hbefore, hplayer, -⟩ := mission.snapshots_duration h
    refine ⟨before, (mission.after step).scene, hbefore, mission.getElem?_frames_eq_some h, ?_⟩
    rw [Engine.devices_scene, hplayer, ← seen_eq h, seen]

theorem firstSight_eq_none {steps : ℕ} :
    mission.firstSight steps = none ↔ ∀ step < steps, (mission.after step).seen = false := by
  simp [firstSight]

theorem firstSight_of_unseen
    (unseen : ∀ tick, ¬(RunResult.ofEngine (mission.after mission.duration)).SightedOn mission.level tick)
    (h : step < mission.duration) : mission.firstSight (step + 1) = none := by
  refine firstSight_eq_none.mpr fun other hother => ?_
  by_contra seen
  exact unseen other
    (sightedOn_iff.mpr ⟨Nat.lt_of_lt_of_le hother h, Bool.of_not_eq_false seen⟩)

theorem firstSight_of_isLeast {sight : ℕ}
    (least : (RunResult.ofEngine (mission.after mission.duration)).FirstSightedOn mission.level sight)
    (h : step < mission.duration) :
    mission.firstSight (step + 1) = if step < sight then none else some sight := by
  obtain ⟨-, seen⟩ := sightedOn_iff.mp least.1
  have unseen : ∀ other < sight, other < mission.duration → (mission.after other).seen = false := by
    intro other hother hduration
    by_contra hseen
    exact Nat.not_le_of_lt hother
      (least.2 (sightedOn_iff.mpr ⟨hduration, Bool.of_not_eq_false hseen⟩))
  split
  · rename_i early
    refine firstSight_eq_none.mpr fun other hother => unseen other ?_ ?_ <;> omega
  · rename_i late
    rw [firstSight, List.find?_range_eq_some]
    refine ⟨seen, List.mem_range.mpr (by omega), fun other hother => ?_⟩
    simp [unseen other hother (by omega)]

end Mission

/-! ## The whole run -/

/-- A log tells of changes of the alarm's level, and of no other. -/
def Log.Changes (log : Log) (changes : List (AlarmLevel × AlarmLevel)) : Prop :=
  List.Forall₂ (fun event change => event.IsAlarmChange change.1 change.2)
    (log.ofKind .alarmStateChanged) changes

theorem changes_enterFrom (entered : ℕ) (tick : UInt64) (occurrences : List Occurrence) :
    Log.Changes (enterFrom entered tick occurrences) (occurrences.filterMap Occurrence.change?) := by
  induction occurrences generalizing entered with
  | nil => exact .nil
  | cons occurrence rest ih =>
      cases occurrence with
      | alarmChanged old new =>
          exact .cons (Occurrence.isAlarmChange_event _ tick old new) (ih (entered + 1))
      | _ => exact ih (entered + 1)

/-- How the alarm of a run rises, which depends only on its buffer, its escalation, the delays of the
script and the first tick on which a camera sees the player. -/
structure RunResult.AlarmTimeline (level : Level) (cues : List Script.Cue) (alarm : Alarm)
    (result : RunResult) : Prop where
  unseen : (∀ tick, ¬result.SightedOn level tick) → ∀ frame ∈ result.frames,
    frame.snapshot.alarmLevel = .green ∧ Log.Changes frame.events []
  seen : ∀ first, result.FirstSightedOn level first →
    ∀ (tick : ℕ) (frame : Frame), result.frames[tick]? = some frame →
      frame.snapshot.alarmLevel = alarm.levelAt cues first tick ∧
        Log.Changes frame.events (alarm.changesAt cues first tick)
  steady : result.frames.Pairwise fun earlier later =>
    earlier.snapshot.alarmLevel.rank ≤ later.snapshot.alarmLevel.rank

namespace Mission

variable {mission : Mission} {authored : Alarm} {step : ℕ}

theorem changes_scene (step : ℕ) :
    Log.Changes (mission.after step).scene.events
      ((mission.after step).occurrences.filterMap Occurrence.change?) :=
  changes_enterFrom _ _ _

variable (first : mission.level.alarm? = some authored) (calm : authored.level = .green)

include first calm

theorem unseen_scene
    (unseen : ∀ tick, ¬(RunResult.ofEngine (mission.after mission.duration)).SightedOn mission.level tick)
    (h : step < mission.duration) :
    (mission.after step).scene.snapshot.alarmLevel = .green ∧
      Log.Changes (mission.after step).scene.events [] := by
  obtain ⟨hlevel, hchanges⟩ := timeline_closed first calm h
  have hscene := mission.changes_scene step
  rw [firstSight_of_unseen unseen h, Option.elim_none] at hlevel hchanges
  rw [hchanges] at hscene
  exact ⟨(Engine.alarmLevel_scene _).trans hlevel, hscene⟩

theorem seen_scene {sight : ℕ}
    (least : (RunResult.ofEngine (mission.after mission.duration)).FirstSightedOn mission.level sight)
    (h : step < mission.duration) :
    (mission.after step).scene.snapshot.alarmLevel = authored.levelAt mission.cues sight step ∧
      Log.Changes (mission.after step).scene.events (authored.changesAt mission.cues sight step) := by
  obtain ⟨hlevel, hchanges⟩ := timeline_closed first calm h
  have hscene := mission.changes_scene step
  rw [firstSight_of_isLeast least h] at hlevel hchanges
  rw [Engine.alarmLevel_scene, hlevel]
  rw [hchanges] at hscene
  by_cases early : step < sight
  · rw [if_pos early, Option.elim_none] at hscene ⊢
    rw [Alarm.levelAt_of_lt early, Alarm.changesAt_of_lt early]
    exact ⟨rfl, hscene⟩
  · rw [if_neg early, Option.elim_some] at hscene ⊢
    exact ⟨rfl, hscene⟩

theorem steady_scene {later : ℕ} (hle : step ≤ later) (h : later < mission.duration) :
    (mission.after step).scene.snapshot.alarmLevel.rank ≤
      (mission.after later).scene.snapshot.alarmLevel.rank := by
  have hstep := Nat.lt_of_le_of_lt hle h
  by_cases sighted :
      ∃ tick, (RunResult.ofEngine (mission.after mission.duration)).SightedOn mission.level tick
  · classical
    have least := Nat.isLeast_find sighted
    rw [(seen_scene first calm least hstep).1, (seen_scene first calm least h).1]
    exact Alarm.rank_levelAt_mono hle
  · rw [(unseen_scene first calm (not_exists.mp sighted) hstep).1,
      (unseen_scene first calm (not_exists.mp sighted) h).1]

theorem alarmTimeline_duration :
    (RunResult.ofEngine (mission.after mission.duration)).AlarmTimeline mission.level mission.cues
      authored := by
  refine ⟨?_, ?_, ?_⟩
  · intro unseen frame member
    obtain ⟨step, h, rfl⟩ := mission.mem_frames member
    exact unseen_scene first calm unseen h
  · intro sight least step frame hframe
    obtain ⟨h, rfl⟩ := mission.getElem?_frames hframe
    exact seen_scene first calm least h
  · rw [RunResult.frames_ofEngine, mission.frames_after le_rfl, List.pairwise_map]
    refine List.pairwise_lt_range.imp_of_mem ?_
    intro step later _ member hlt
    exact steady_scene first calm (Nat.le_of_lt hlt) (List.mem_range.mp member)

end Mission

/-- An alarm that starts green rises in every run when its time has come, and never before. -/
theorem simulate_alarmTimeline (level : Level) (cues : List Script.Cue) (config : Config)
    {alarm : Alarm} (first : level.alarm? = some alarm) (calm : alarm.level = .green) :
    (simulate level cues config).AlarmTimeline level cues alarm := by
  have hfirst : (Mission.of level cues config).level.alarm? = some alarm := first
  rw [RunResult.simulate_eq]
  exact Mission.alarmTimeline_duration hfirst calm

/-- One cell in sight of a camera that comes back on the second tick. From then on the alarm needs one
tick, and one more that its buffer holds. -/
def outpost : Level where
  id := "outpost"
  map := { width := 2, height := 2 }
  entry := ⟨0, 0⟩
  exit := ⟨1, 0⟩
  playerPath := [⟨0, 0⟩]
  devices :=
    [{ id := "eye"
       position := ⟨0, 1⟩
       enabled := false
       equipment := .camera { range := 2, facing := .up, disabledUntil := some 1 } },
      { id := "bell", position := ⟨1, 1⟩, equipment := .alarm { escalation := 1, delayBuffer := 1 } }]
  networkScope := ["bell"]
  constraints := { maxLines := 4, maxCommands := 4, maxDelay := 4, tickLimit := 7 }

/-- One delay before the alarm turns yellow, one on the tick on which it does and one after. -/
def outpostCues : List Script.Cue :=
  [{ tick := 0, line := 1, raw := "alarm().delay(1)", command := .delayAlarm 1 },
    { tick := 1, line := 2, raw := "alarm().delay(1)", command := .delayAlarm 1 },
    { tick := 2, line := 3, raw := "alarm().delay(1)", command := .delayAlarm 1 }]

theorem simulate_outpost_timeline :
    outpost.alarm? = some { escalation := 1, delayBuffer := 1 } ∧
      (simulate outpost outpostCues { storeDigests := false }).frames.map
          (fun frame => frame.snapshot.alarmLevel) =
        [.green, .yellow, .yellow, .yellow, .yellow, .yellow, .red, .red] ∧
      (simulate outpost outpostCues { storeDigests := false }).AlarmTimeline outpost outpostCues
        { escalation := 1, delayBuffer := 1 } := by
  have first : outpost.alarm? = some { escalation := 1, delayBuffer := 1 } := by decide +kernel
  exact ⟨first, by decide +kernel,
    simulate_alarmTimeline outpost outpostCues { storeDigests := false } first rfl⟩

end Infiltration
