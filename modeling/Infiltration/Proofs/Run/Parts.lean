import Infiltration.Proofs.Run.Trace

/-! # The parts of a tick

A tick comes to the alarm's turn, then to the turrets, then to the player's step and the clock. Before
the alarm's turn nothing happens to the player, and after the turrets nothing to the devices. -/

namespace Infiltration

@[simp] theorem Tick.world_reportSightings (watching : List String) (world : World) :
    (reportSightings watching world).1 = world := rfl

/-- The stages before the alarm's turn. -/
def Stage.early : Set Stage := {stage | stage ≠ .alarm ∧ stage ≠ .turrets ∧ stage ≠ .walk}

/-- The stages after the turrets. -/
def Stage.late : Set Stage := {.walk, .clock}

namespace Engine

variable (engine : Engine)

/-- The world after the cameras that come back, with what they tell. -/
def woken : World × List Occurrence := Tick.wakeCameras engine.cued.1

/-- What the cameras report. -/
def sighted : List Occurrence := (Tick.reportSightings engine.watching engine.opened.1).2

/-- The world after the alarm's turn, with what it tells. -/
def escalated : World × List Occurrence := Tick.escalate engine.opened.1

/-- The world after the turrets' turns, with what they tell. -/
def engaged : World × List Occurrence := Tick.runTurrets engine.escalated.1

/-- The world after the player's step and the look at the clock, with what they tell. -/
def departed : World × List Occurrence :=
  Tick.inOrder [Tick.walk engine.mission.level, Tick.timeOut engine.mission.limit] engine.engaged.1

theorem world_opened : engine.opened.1 = (Tick.moveDrones engine.woken.1).1 := by
  simp only [opened, woken, cued, Mission.opening, Tick.inOrder_cons, Tick.inOrder_nil]

theorem occurrences_opened : engine.opened.2 = engine.cued.2 ++ engine.woken.2 := by
  simp only [opened, woken, cued, Mission.opening, Tick.inOrder_cons, Tick.inOrder_nil,
    Tick.moveDrones, List.append_nil]

theorem world_departed : engine.closed.1 = engine.departed.1 := by
  simp only [closed, departed, engaged, escalated, Mission.closing, Tick.inOrder_cons,
    Tick.world_reportSightings]

theorem occurrences_departed :
    engine.occurrences =
      (engine.opened.2 ++ engine.sighted) ++ engine.escalated.2 ++ engine.engaged.2 ++
        engine.departed.2 := by
  simp only [occurrences, closed, sighted, departed, engaged, escalated, Mission.closing,
    Tick.inOrder_cons, Tick.world_reportSightings, List.append_assoc]

variable {engine}

theorem woken_deeds (labelled : engine.world.devices.Labelled) :
    Deeds {.timers} engine.cued.1 engine.woken.2 engine.woken.1 :=
  Tick.wakeCameras_deeds (engine.cued_deeds.labelled labelled)

theorem moved_deeds (labelled : engine.world.devices.Labelled) :
    Deeds {.patrol} engine.woken.1 [] engine.opened.1 := by
  rw [world_opened]
  exact Tick.moveDrones_deeds ((woken_deeds labelled).labelled (engine.cued_deeds.labelled labelled))

theorem opened_deeds (labelled : engine.world.devices.Labelled) :
    Deeds Stage.early engine.world engine.opened.2 engine.opened.1 := by
  apply Tick.inOrder_deeds (P := fun world => world.devices.Labelled) Deeds.labelled _ labelled
  intro phase member world labelled
  simp only [List.mem_cons, List.not_mem_nil, or_false] at member
  rcases member with rfl | rfl | rfl
  · apply (Tick.runCues_deeds _ world).mono
    rintro stage ⟨cue, -, rfl⟩
    simp [Stage.early]
  · exact (Tick.wakeCameras_deeds labelled).mono (by simp [Stage.early])
  · exact (Tick.moveDrones_deeds labelled).mono (by simp [Stage.early])

theorem early_deeds (labelled : engine.world.devices.Labelled) :
    Deeds Stage.early engine.world (engine.opened.2 ++ engine.sighted) engine.opened.1 := by
  have hsighted : Deeds {.cameras} engine.opened.1 engine.sighted engine.opened.1 :=
    Tick.reportSightings_deeds engine.watching engine.opened.1
  exact (opened_deeds labelled).trans (hsighted.mono (by simp [Stage.early]))

theorem escalated_deeds (labelled : engine.world.devices.Labelled) :
    Deeds {.alarm} engine.opened.1 engine.escalated.2 engine.escalated.1 :=
  Tick.escalate_deeds ((opened_deeds labelled).labelled labelled)

theorem engaged_deeds : Deeds {.turrets} engine.escalated.1 engine.engaged.2 engine.engaged.1 :=
  Tick.runTurrets_deeds engine.escalated.1

theorem late_deeds : Deeds Stage.late engine.engaged.1 engine.departed.2 engine.departed.1 := by
  apply Tick.inOrder_deeds (P := fun _ => True) (fun _ _ => trivial) _ trivial
  intro phase member world _
  simp only [List.mem_cons, List.not_mem_nil, or_false] at member
  rcases member with rfl | rfl
  · exact (Tick.walk_deeds _ world).mono (by simp [Stage.late])
  · exact (Tick.timeOut_deeds _ world).mono (by simp [Stage.late])

/-- After the cameras have looked only the alarm, the turrets, the player and the clock have a turn. -/
theorem closing_deeds (labelled : engine.world.devices.Labelled) :
    Deeds ({.alarm, .turrets} ∪ Stage.late) engine.opened.1
      (engine.escalated.2 ++ engine.engaged.2 ++ engine.departed.2) engine.closed.1 := by
  rw [world_departed]
  exact (((escalated_deeds labelled).mono (by simp)).trans (engaged_deeds.mono (by simp))).trans
    (late_deeds.mono Set.subset_union_right)

/-- What no script line tells, and nobody who has a turn after the cameras, is told by the timers and by
the cameras. -/
theorem count_occurrences (labelled : engine.world.devices.Labelled) {occurrence : Occurrence}
    (unscripted : occurrence.stage.line? = none)
    (early : occurrence.stage ∉ ({.alarm, .turrets} ∪ Stage.late : Set Stage)) :
    engine.occurrences.count occurrence =
      engine.woken.2.count occurrence + engine.sighted.count occurrence := by
  have hcued : engine.cued.2.count occurrence = 0 := by
    refine List.count_eq_zero.mpr (engine.cued_deeds.not_told ?_)
    rintro ⟨cue, -, h⟩
    simp [h, Stage.line?] at unscripted
  have hclosing : (engine.escalated.2 ++ engine.engaged.2 ++ engine.departed.2).count occurrence = 0 :=
    List.count_eq_zero.mpr ((closing_deeds labelled).not_told early)
  simp only [List.count_append] at hclosing
  simp only [occurrences_departed, occurrences_opened, List.count_append]
  omega

theorem labelled_escalated (labelled : engine.world.devices.Labelled) :
    engine.escalated.1.devices.Labelled :=
  (escalated_deeds labelled).labelled ((opened_deeds labelled).labelled labelled)

end Engine

/-! ## What a tick starts from -/

/-- What a run has come to by each of its ticks, and in the end: the level at its start, then what the
frames show. -/
def RunResult.snapshots (level : Level) (result : RunResult) : List Snapshot :=
  Snapshot.ofWorld (World.start level) :: result.frames.map Frame.snapshot

/-- A tick starts from what the frame before shows, or the first from the level. -/
theorem Mission.snapshots_duration (mission : Mission) {step : ℕ} (h : step < mission.duration) :
    ∃ before, ((RunResult.ofEngine (mission.after mission.duration)).snapshots mission.level)[step]? =
        some before ∧
      before.player = (mission.after step).world.player ∧
        before.devices = (mission.after step).world.devices := by
  cases step with
  | zero => exact ⟨_, rfl, rfl, rfl⟩
  | succ step =>
      have hstep := Nat.lt_of_succ_lt h
      rw [mission.player_after_succ hstep, mission.devices_after_succ hstep]
      refine ⟨(mission.after step).scene.snapshot, ?_, rfl, rfl⟩
      rw [RunResult.snapshots, List.getElem?_cons_succ, RunResult.frames_ofEngine, List.getElem?_map,
        mission.getElem?_frames_eq_some hstep, Option.map_some]

/-! ## What is told, and what is entered -/

theorem exists_enterFrom_iff {P : Event → Prop} {Q : Occurrence → Prop} {tick : UInt64}
    (h : ∀ occurrence id, P (Occurrence.event occurrence id tick) ↔ Q occurrence) (entered : ℕ)
    (occurrences : List Occurrence) :
    (∃ event ∈ enterFrom entered tick occurrences, P event) ↔
      ∃ occurrence ∈ occurrences, Q occurrence := by
  induction occurrences generalizing entered with
  | nil => simp [enterFrom]
  | cons occurrence rest ih => simp [enterFrom, h, ih]

theorem countP_enterFrom {P : Event → Prop} [DecidablePred P] {told : Occurrence} {tick : UInt64}
    (h : ∀ occurrence id, P (Occurrence.event occurrence id tick) ↔ occurrence = told) (entered : ℕ)
    (occurrences : List Occurrence) :
    (enterFrom entered tick occurrences).countP P = occurrences.count told := by
  induction occurrences generalizing entered with
  | nil => rfl
  | cons occurrence rest ih => simp [enterFrom, List.countP_cons, List.count_cons, h, ih]

/-! ## Where an event stands -/

/-- A place among the entries of a tick is a place among its occurrences. -/
theorem split_enterFrom {entered : ℕ} {tick : UInt64} {occurrences : List Occurrence}
    {front back : List Event} {event : Event}
    (heq : enterFrom entered tick occurrences = front ++ event :: back) :
    ∃ before occurrence after id, occurrences = before ++ occurrence :: after ∧
      front = enterFrom entered tick before ∧ event = occurrence.event id tick := by
  induction front generalizing entered occurrences with
  | nil =>
      cases occurrences with
      | nil => simp [enterFrom] at heq
      | cons occurrence rest =>
          obtain ⟨rfl, -⟩ := List.cons.inj heq
          exact ⟨[], occurrence, rest, _, rfl, rfl, rfl⟩
  | cons first front ih =>
      cases occurrences with
      | nil => simp [enterFrom] at heq
      | cons occurrence rest =>
          obtain ⟨rfl, htail⟩ := List.cons.inj heq
          obtain ⟨before, other, after, id, rfl, rfl, hevent⟩ := ih htail
          exact ⟨occurrence :: before, other, after, id, rfl, rfl, hevent⟩

/-- A place in the log is a place in the entries of one of the steps. -/
theorem Mission.split_log (mission : Mission) {steps : ℕ} (h : steps ≤ mission.duration)
    {front back : Log} {event : Event}
    (heq : (mission.after steps).log = front ++ event :: back) :
    ∃ step < steps, ∃ before after, (mission.after step).entries = before ++ event :: after ∧
      front = (mission.after step).log ++ before := by
  induction steps generalizing back with
  | zero => simp [after_zero, Engine.start, Engine.log] at heq
  | succ steps ih =>
      rw [mission.after_succ_of_running (mission.running_of_lt h), Engine.log_play] at heq
      rcases List.append_eq_append_iff.mp heq with ⟨middle, hfront, hlast⟩ | ⟨middle, hlog, hlast⟩
      · exact ⟨steps, Nat.lt_succ_self steps, middle, back, hlast, hfront⟩
      · cases middle with
        | nil =>
            rw [List.append_nil] at hlog
            exact ⟨steps, Nat.lt_succ_self steps, [], back, hlast.symm, by simp [hlog]⟩
        | cons other middle =>
            obtain ⟨rfl, -⟩ := List.cons.inj hlast
            obtain ⟨step, hstep, hplace⟩ := ih (Nat.le_of_succ_le h) hlog
            exact ⟨step, Nat.lt_succ_of_lt hstep, hplace⟩

end Infiltration
