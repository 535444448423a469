import Infiltration.Proofs.Tick.Series
import Infiltration.Run
import Mathlib.Data.List.Range
import Mathlib.Data.Nat.Find
import Mathlib.Logic.Function.Iterate

/-! # The trace of a run

A run is the series of engines after none, one, two and more steps. It lasts as many steps as it
takes to be decided, and its frames and its log are those that the steps before have made, one after
the other. -/

namespace Infiltration

-- Nothing here depends on what the phases of a tick do, beyond the two lemmas that take them apart.
attribute [local irreducible] Mission.opening Mission.closing

/-! ## One tick -/

namespace Engine

variable (engine : Engine)

/-- The world after the opening phases, with what they tell. -/
def opened : World × List Occurrence := engine.mission.opening engine.world

/-- The world at the end of the tick, with what the closing phases tell. -/
def closed : World × List Occurrence := engine.mission.closing engine.watching engine.opened.1

def occurrences : List Occurrence := engine.opened.2 ++ engine.closed.2

/-- The events of the tick. -/
def entries : List Event := enterFrom engine.entered engine.world.tick engine.occurrences

/-- The frame of the tick. -/
def scene : Frame := engine.mission.frame engine.closed.1 engine.entries

@[simp] theorem player_scene : engine.scene.snapshot.player = engine.closed.1.player := rfl

@[simp] theorem devices_scene : engine.scene.snapshot.devices = engine.closed.1.devices := rfl

@[simp] theorem alarmLevel_scene :
    engine.scene.snapshot.alarmLevel = engine.closed.1.alarmLevel := rfl

@[simp] theorem events_scene : engine.scene.events = engine.entries := rfl

theorem world_play : engine.play.world = engine.mission.settle engine.closed.1 := rfl

theorem entered_play : engine.play.entered = engine.entered + engine.occurrences.length := rfl

theorem frames_play : engine.play.frames = engine.frames ++ [engine.scene] :=
  List.reverse_cons

theorem log_play : engine.play.log = engine.log ++ engine.entries := by
  change (engine.entries.reverse ++ engine.logged).reverse = engine.logged.reverse ++ engine.entries
  rw [List.reverse_append, List.reverse_reverse]

theorem length_entries : engine.entries.length = engine.occurrences.length :=
  length_enterFrom _ _ _

/-- A played tick in the words of its parts. -/
theorem play_eq :
    engine.play =
      { mission := engine.mission
        world := engine.mission.settle engine.closed.1
        watching := engine.opened.1.sightings
        entered := engine.entered + engine.entries.length
        logged := engine.entries.reverse ++ engine.logged
        recorded := engine.scene :: engine.recorded } := by
  rw [length_entries]
  rfl

/-! ### The parts of a tick -/

/-- The world after the script lines of the tick, with what they tell. -/
def cued : World × List Occurrence :=
  Tick.runCues (engine.mission.cuesAt engine.world.tick) engine.world

/-- The world after all that the devices do by themselves, with what they tell. -/
def stirred : World × List Occurrence :=
  Tick.inOrder [Tick.wakeCameras, Tick.moveDrones, Tick.reportSightings engine.watching,
    Tick.escalate, Tick.runTurrets] engine.cued.1

/-- The world after the player's step, with what it tells. -/
def walked : World × List Occurrence := Tick.walk engine.mission.level engine.stirred.1

theorem world_closed : engine.closed.1 = engine.walked.1 := by
  simp only [opened, closed, walked, stirred, cued, Mission.opening, Mission.closing,
    Tick.inOrder_cons, Tick.inOrder_nil, Tick.world_timeOut]

theorem occurrences_eq :
    engine.occurrences =
      engine.cued.2 ++ engine.stirred.2 ++ engine.walked.2 ++
        (Tick.timeOut engine.mission.limit engine.walked.1).2 := by
  simp only [occurrences, opened, closed, walked, stirred, cued, Mission.opening, Mission.closing,
    Tick.inOrder_cons, Tick.inOrder_nil, List.append_assoc, List.append_nil]

end Engine

/-- The stages in which no script line is at work. -/
def Stage.lineless : Set Stage := {stage | stage.line? = none}

/-- The stages in which the devices act by themselves. -/
def Tick.automatic : Set Stage := {.timers, .patrol, .cameras, .alarm, .turrets}

namespace Engine

variable (engine : Engine)

theorem cued_deeds :
    Deeds (Tick.scripted (engine.mission.cuesAt engine.world.tick)) engine.world engine.cued.2
      engine.cued.1 :=
  Tick.runCues_deeds _ _

theorem stirred_deeds (labelled : engine.world.devices.Labelled) :
    Deeds Tick.automatic engine.cued.1 engine.stirred.2 engine.stirred.1 := by
  apply Tick.inOrder_deeds (P := fun world => world.devices.Labelled) Deeds.labelled _
    (engine.cued_deeds.labelled labelled)
  intro phase member world labelled
  simp only [List.mem_cons, List.not_mem_nil, or_false] at member
  rcases member with rfl | rfl | rfl | rfl | rfl
  · exact (Tick.wakeCameras_deeds labelled).mono (by simp [Tick.automatic])
  · exact (Tick.moveDrones_deeds labelled).mono (by simp [Tick.automatic])
  · exact (Tick.reportSightings_deeds _ world).mono (by simp [Tick.automatic])
  · exact (Tick.escalate_deeds labelled).mono (by simp [Tick.automatic])
  · exact (Tick.runTurrets_deeds world).mono (by simp [Tick.automatic])

theorem walked_deeds : Deeds {.walk} engine.stirred.1 engine.walked.2 engine.walked.1 :=
  Tick.walk_deeds _ _

variable {engine}

/-- After its script lines a tick is a series of deeds that belong to no line. -/
theorem rest_deeds (labelled : engine.world.devices.Labelled) :
    ∃ rest, engine.occurrences = engine.cued.2 ++ rest ∧
      Deeds Stage.lineless engine.cued.1 rest engine.closed.1 := by
  have hstirred : Tick.automatic ⊆ Stage.lineless := by
    rintro stage (rfl | rfl | rfl | rfl | rfl) <;> rfl
  have hwalked : ({.walk} : Set Stage) ⊆ Stage.lineless := by
    rintro stage rfl
    rfl
  have hclock : ({.clock} : Set Stage) ⊆ Stage.lineless := by
    rintro stage rfl
    rfl
  rw [world_closed, occurrences_eq, List.append_assoc, List.append_assoc]
  exact ⟨_, rfl, ((engine.stirred_deeds labelled).mono hstirred).trans
    ((engine.walked_deeds.mono hwalked).trans ((Tick.timeOut_deeds _ _).mono hclock))⟩

/-- A whole tick is a series of deeds. -/
theorem play_deeds (labelled : engine.world.devices.Labelled) :
    Deeds Set.univ engine.world engine.occurrences engine.closed.1 := by
  obtain ⟨rest, heq, hdeeds⟩ := rest_deeds labelled
  rw [heq]
  exact (engine.cued_deeds.mono (Set.subset_univ _)).trans (hdeeds.mono (Set.subset_univ _))

theorem tick_closed (labelled : engine.world.devices.Labelled) :
    engine.closed.1.tick = engine.world.tick :=
  (play_deeds labelled).tick_eq

end Engine

/-! ## The engines of a run -/

namespace Engine

theorem finished_eq_false {engine : Engine} :
    engine.finished = false ↔ engine.world.outcome = .running := by
  simp [finished, World.decided]

/-- A change of the engine that commutes with playing a tick commutes with a step. -/
theorem step_commute (change : Engine → Engine) {engine : Engine}
    (finished : (change engine).finished = engine.finished)
    (play : engine.finished = false → (change engine).play = change engine.play) :
    (change engine).step = change engine.step := by
  cases h : engine.finished with
  | true => rw [step_of_finished h, step_of_finished (finished.trans h)]
  | false => rw [step_of_not_finished h, step_of_not_finished (finished.trans h), play h]

theorem runFor_eq_iterate (steps : ℕ) (engine : Engine) :
    runFor steps engine = step^[steps] engine := by
  induction steps generalizing engine with
  | zero => rfl
  | succ steps ih => rw [runFor_succ, ih, Function.iterate_succ_apply]

end Engine

namespace Mission

variable (mission : Mission)

/-- The engine after so many steps. -/
def after (steps : ℕ) : Engine := Engine.step^[steps] (Engine.start mission)

theorem after_zero : mission.after 0 = Engine.start mission := rfl

theorem after_succ (steps : ℕ) : mission.after (steps + 1) = (mission.after steps).step :=
  Function.iterate_succ_apply' ..

theorem after_succ_of_running {steps : ℕ} (running : (mission.after steps).finished = false) :
    mission.after (steps + 1) = (mission.after steps).play := by
  rw [after_succ, Engine.step_of_not_finished running]

theorem devices_settle (world : World) : (mission.settle world).devices = world.devices := by
  unfold settle
  split <;> rfl

theorem player_settle (world : World) : (mission.settle world).player = world.player := by
  unfold settle
  split <;> rfl

/-- What a tick has made of the devices is what the next one finds. -/
theorem devices_play (engine : Engine) : engine.play.world.devices = engine.closed.1.devices :=
  devices_settle engine.mission engine.closed.1

theorem labelled_after (steps : ℕ) : (mission.after steps).world.devices.Labelled := by
  induction steps with
  | zero => exact Roster.labelled_ofDevices mission.level.devices
  | succ steps ih =>
      rw [after_succ]
      cases h : (mission.after steps).finished with
      | true => rwa [Engine.step_of_finished h]
      | false =>
          rw [Engine.step_of_not_finished h, devices_play]
          exact (Engine.play_deeds ih).labelled ih

/-- What holds after one step and outlasts every played tick holds after all later steps. -/
theorem after_le_induction {P : Engine → Prop} {step steps : ℕ} (hle : step ≤ steps)
    (play : ∀ engine, engine.world.devices.Labelled → P engine → engine.finished = false →
      P engine.play)
    (start : P (mission.after step)) : P (mission.after steps) := by
  induction steps, hle using Nat.le_induction with
  | base => exact start
  | succ steps _ ih =>
      rw [after_succ]
      cases h : (mission.after steps).finished with
      | true => rwa [Engine.step_of_finished h]
      | false =>
          rw [Engine.step_of_not_finished h]
          exact play _ (mission.labelled_after steps) ih h

/-- What holds at the start and outlasts every played tick holds after any number of steps. -/
theorem after_induction {P : Engine → Prop} (start : P (Engine.start mission))
    (play : ∀ engine, engine.world.devices.Labelled → P engine → engine.finished = false →
      P engine.play) (steps : ℕ) : P (mission.after steps) :=
  mission.after_le_induction (Nat.zero_le steps) play start

theorem running_of_le {steps more : ℕ} (le : steps ≤ more)
    (running : (mission.after more).finished = false) : (mission.after steps).finished = false := by
  induction more with
  | zero =>
      obtain rfl : steps = 0 := Nat.le_zero.mp le
      exact running
  | succ more ih =>
      rcases Nat.le_succ_iff.mp le with le | rfl
      · apply ih le
        by_contra h
        have hdone : (mission.after more).finished = true := by simpa using h
        rw [after_succ, Engine.step_of_finished hdone, hdone] at running
        simp at running
      · exact running

@[simp] theorem mission_after (steps : ℕ) : (mission.after steps).mission = mission :=
  mission.after_induction (P := fun engine => engine.mission = mission) rfl (fun _ _ h _ => h) steps

/-- No device changes its type, and none comes or goes. -/
theorem types_after (steps : ℕ) :
    (mission.after steps).world.devices.view Device.type =
      (World.start mission.level).devices.view Device.type := by
  apply mission.after_induction (P := fun engine => engine.world.devices.view Device.type = _) rfl
  intro engine labelled h _
  rw [devices_play, (Engine.play_deeds labelled).types_eq, h]

theorem tick_closed_after (steps : ℕ) :
    (mission.after steps).closed.1.tick = (mission.after steps).world.tick :=
  Engine.tick_closed (mission.labelled_after steps)

theorem outcome_closed_after {steps : ℕ} (running : (mission.after steps).finished = false) :
    (mission.after steps).closed.1.outcome = .running :=
  (Engine.play_deeds (mission.labelled_after steps)).outcome_eq.trans
    (Engine.finished_eq_false.mp running)

/-! ## The clock -/

theorem settle_of_running {world : World} (h : mission.verdict world = .running) :
    mission.settle world = { world with tick := world.tick + 1 } := by
  simp [settle, h]

theorem settle_of_decided {world : World} (h : mission.verdict world ≠ .running) :
    mission.settle world = { world with outcome := mission.verdict world } := by
  unfold settle
  split <;> simp_all

/-- A run that goes on has not reached its limit. -/
theorem lt_limit_of_verdict {world : World} (h : mission.verdict world = .running) :
    world.tick < mission.limit := by
  unfold verdict at h
  split at h
  · simp at h
  · split at h
    · simp at h
    · simp_all

/-- The step after which a run goes on found it undecided. -/
theorem verdict_of_running {steps : ℕ} (running : (mission.after (steps + 1)).finished = false) :
    mission.verdict (mission.after steps).closed.1 = .running := by
  have hbefore := mission.running_of_le (Nat.le_succ steps) running
  by_contra h
  have hworld := Engine.world_play (mission.after steps)
  rw [mission_after, mission.settle_of_decided h] at hworld
  rw [mission.after_succ_of_running hbefore, Engine.finished_eq_false, hworld] at running
  exact h running

/-- As long as a run is undecided its tick counts the steps. -/
theorem tick_after {steps : ℕ} (running : (mission.after steps).finished = false) :
    (mission.after steps).world.tick.toNat = steps ∧
      (mission.after steps).world.tick ≤ mission.limit := by
  induction steps with
  | zero => exact ⟨rfl, UInt64.zero_le⟩
  | succ steps ih =>
      have hbefore := mission.running_of_le (Nat.le_succ steps) running
      obtain ⟨htick, -⟩ := ih hbefore
      have hverdict := mission.verdict_of_running running
      have hlt := mission.lt_limit_of_verdict hverdict
      have hworld := Engine.world_play (mission.after steps)
      rw [mission_after, mission.settle_of_running hverdict] at hworld
      rw [mission.after_succ_of_running hbefore, hworld]
      rw [tick_closed_after] at hlt ⊢
      have hbound := mission.limit.toNat_lt
      rw [UInt64.lt_iff_toNat_lt] at hlt
      have hnext : ((mission.after steps).world.tick + 1).toNat = steps + 1 := by
        rw [UInt64.toNat_add, UInt64.toNat_one, Nat.mod_eq_of_lt (by omega), htick]
      refine ⟨hnext, ?_⟩
      rw [UInt64.le_iff_toNat_le, hnext]
      omega

/-- A run is decided at its limit at the latest. -/
theorem finished_of_limit_lt {steps : ℕ} (h : mission.limit.toNat < steps) :
    (mission.after steps).finished = true := by
  by_contra hfalse
  have running : (mission.after steps).finished = false := by simpa using hfalse
  obtain ⟨htick, hle⟩ := mission.tick_after running
  rw [UInt64.le_iff_toNat_le] at hle
  omega

/-! ## The length of a run -/

theorem exists_finished : ∃ steps, (mission.after steps).finished = true :=
  ⟨mission.limit.toNat + 1, mission.finished_of_limit_lt (Nat.lt_succ_self _)⟩

/-- The number of steps that decide a run. -/
def duration : ℕ := Nat.find mission.exists_finished

theorem finished_duration : (mission.after mission.duration).finished = true :=
  Nat.find_spec mission.exists_finished

theorem running_of_lt {steps : ℕ} (h : steps < mission.duration) :
    (mission.after steps).finished = false := by
  simpa using Nat.find_min mission.exists_finished h

theorem devices_after_succ {step : ℕ} (h : step < mission.duration) :
    (mission.after (step + 1)).world.devices = (mission.after step).closed.1.devices := by
  rw [mission.after_succ_of_running (mission.running_of_lt h), devices_play]

theorem player_after_succ {step : ℕ} (h : step < mission.duration) :
    (mission.after (step + 1)).world.player = (mission.after step).closed.1.player := by
  rw [mission.after_succ_of_running (mission.running_of_lt h), Engine.world_play, player_settle]

theorem duration_le : mission.duration ≤ mission.limit.toNat + 1 :=
  Nat.find_min' mission.exists_finished (mission.finished_of_limit_lt (Nat.lt_succ_self _))

theorem duration_pos : 0 < mission.duration := by
  apply Nat.pos_of_ne_zero
  intro h
  have hfinished := mission.finished_duration
  rw [h] at hfinished
  simp [after_zero, Engine.start, Engine.finished, World.decided, World.start] at hfinished

/-- Further steps change nothing. -/
theorem after_of_duration_le {steps : ℕ} (h : mission.duration ≤ steps) :
    mission.after steps = mission.after mission.duration := by
  induction steps, h using Nat.le_induction with
  | base => rfl
  | succ steps _ ih =>
      rw [after_succ, ih, Engine.step_of_finished mission.finished_duration]

/-- A run is over exactly after as many steps as decide it, or more. -/
theorem duration_le_iff {steps : ℕ} :
    mission.duration ≤ steps ↔ (mission.after steps).finished = true := by
  constructor
  · intro h
    rw [mission.after_of_duration_le h]
    exact mission.finished_duration
  · intro h
    by_contra hlt
    rw [mission.running_of_lt (Nat.lt_of_not_le hlt)] at h
    exact Bool.false_ne_true h

theorem run_start : (Engine.start mission).run = mission.after mission.duration := by
  rw [Engine.run, Engine.runFor_eq_iterate]
  exact mission.after_of_duration_le mission.duration_le

/-- The last tick of a run is played after all steps but one. -/
def last : Engine := mission.after (mission.duration - 1)

theorem running_last : mission.last.finished = false :=
  mission.running_of_lt (Nat.sub_lt mission.duration_pos Nat.one_pos)

@[simp] theorem mission_last : mission.last.mission = mission := mission.mission_after _

theorem labelled_last : mission.last.world.devices.Labelled := mission.labelled_after _

theorem tick_closed_last : mission.last.closed.1.tick = mission.last.world.tick :=
  mission.tick_closed_after _

theorem after_duration : mission.after mission.duration = mission.last.play := by
  have h := mission.after_succ_of_running mission.running_last
  rwa [Nat.sub_add_cancel mission.duration_pos] at h

theorem verdict_last : mission.verdict mission.last.closed.1 ≠ .running := by
  intro h
  have hfinished := mission.finished_duration
  have hworld := Engine.world_play mission.last
  rw [mission_last, mission.settle_of_running h] at hworld
  rw [mission.after_duration, Engine.finished, hworld] at hfinished
  simp [World.decided] at hfinished
  exact absurd (mission.outcome_closed_after mission.running_last) hfinished

/-- The world in which a run ends. -/
theorem world_duration :
    (mission.after mission.duration).world =
      { mission.last.closed.1 with outcome := mission.verdict mission.last.closed.1 } := by
  rw [mission.after_duration, Engine.world_play, mission_last,
    mission.settle_of_decided mission.verdict_last]

theorem tick_duration :
    (mission.after mission.duration).world.tick.toNat + 1 = mission.duration := by
  have htick : mission.last.world.tick.toNat = mission.duration - 1 :=
    (mission.tick_after mission.running_last).1
  rw [mission.world_duration]
  change mission.last.closed.1.tick.toNat + 1 = mission.duration
  rw [tick_closed_last, htick, Nat.sub_add_cancel mission.duration_pos]

/-! ## Frames and log -/

theorem frames_after {steps : ℕ} (h : steps ≤ mission.duration) :
    (mission.after steps).frames =
      (List.range steps).map fun step => (mission.after step).scene := by
  induction steps with
  | zero => rfl
  | succ steps ih =>
      rw [mission.after_succ_of_running (mission.running_of_lt h), Engine.frames_play,
        ih (Nat.le_of_succ_le h), List.range_succ, List.map_append, List.map_singleton]

/-- A frame of a run is that of the step whose number is its place. -/
theorem getElem?_frames {i : ℕ} {frame : Frame}
    (h : (mission.after mission.duration).frames[i]? = some frame) :
    i < mission.duration ∧ frame = (mission.after i).scene := by
  rw [mission.frames_after le_rfl, List.getElem?_map, Option.map_eq_some_iff] at h
  obtain ⟨step, hstep, rfl⟩ := h
  obtain ⟨hlt, hval⟩ := List.getElem?_eq_some_iff.mp hstep
  rw [List.length_range] at hlt
  rw [List.getElem_range] at hval
  subst hval
  exact ⟨hlt, rfl⟩

theorem getElem?_frames_eq_some {step : ℕ} (h : step < mission.duration) :
    (mission.after mission.duration).frames[step]? = some (mission.after step).scene := by
  rw [mission.frames_after le_rfl, List.getElem?_map, List.getElem?_range h, Option.map_some]

theorem mem_frames {frame : Frame} (member : frame ∈ (mission.after mission.duration).frames) :
    ∃ step < mission.duration, frame = (mission.after step).scene := by
  obtain ⟨step, hframe⟩ := List.mem_iff_getElem?.mp member
  exact ⟨step, mission.getElem?_frames hframe⟩

theorem length_frames : (mission.after mission.duration).frames.length = mission.duration := by
  rw [mission.frames_after le_rfl, List.length_map, List.length_range]

theorem getLast?_frames :
    (mission.after mission.duration).frames.getLast? = some mission.last.scene := by
  rw [mission.frames_after le_rfl, List.getLast?_map, List.getLast?_range,
    if_neg (Nat.ne_of_gt mission.duration_pos)]
  rfl

theorem log_after {steps : ℕ} (h : steps ≤ mission.duration) :
    (mission.after steps).log =
      (List.range steps).flatMap fun step => (mission.after step).entries := by
  induction steps with
  | zero => rfl
  | succ steps ih =>
      rw [mission.after_succ_of_running (mission.running_of_lt h), Engine.log_play,
        ih (Nat.le_of_succ_le h), List.range_succ, List.flatMap_append, List.flatMap_singleton]

theorem tick_scene {step : ℕ} (h : step < mission.duration) :
    (mission.after step).scene.tick.toNat = step := by
  change (mission.after step).closed.1.tick.toNat = step
  rw [mission.tick_closed_after, (mission.tick_after (mission.running_of_lt h)).1]

theorem tick_of_mem_entries {step : ℕ} (h : step < mission.duration) {event : Event}
    (member : event ∈ (mission.after step).entries) : event.tick.toNat = step := by
  obtain ⟨occurrence, -, id, rfl⟩ := mem_enterFrom member
  exact (mission.tick_after (mission.running_of_lt h)).1

theorem tick_of_mem_log {steps : ℕ} (h : steps ≤ mission.duration) {event : Event}
    (member : event ∈ (mission.after steps).log) : event.tick.toNat < steps := by
  rw [mission.log_after h] at member
  obtain ⟨step, hstep, member⟩ := List.mem_flatMap.mp member
  rw [List.mem_range] at hstep
  rw [mission.tick_of_mem_entries (Nat.lt_of_lt_of_le hstep h) member]
  exact hstep

/-- The log only grows, and what is added later is dated later. -/
theorem log_split {step steps : ℕ} (hstep : step ≤ steps) (h : steps ≤ mission.duration) :
    ∃ back, (mission.after steps).log = (mission.after step).log ++ back ∧
      ∀ event ∈ back, step ≤ event.tick.toNat := by
  induction steps, hstep using Nat.le_induction with
  | base => exact ⟨[], (List.append_nil _).symm, by simp⟩
  | succ steps hstep ih =>
      obtain ⟨back, hlog, hback⟩ := ih (Nat.le_of_succ_le h)
      refine ⟨back ++ (mission.after steps).entries, ?_, ?_⟩
      · rw [mission.after_succ_of_running (mission.running_of_lt h), Engine.log_play, hlog,
          List.append_assoc]
      · intro event member
        rcases List.mem_append.mp member with member | member
        · exact hback event member
        · rw [mission.tick_of_mem_entries h member]
          exact hstep

/-- The events before a tick are the log that the run had when it came to the tick. -/
theorem log_before {step steps : ℕ} (hstep : step ≤ steps) (h : steps ≤ mission.duration) :
    ((mission.after steps).log.filter fun event => event.tick.toNat < step) =
      (mission.after step).log := by
  obtain ⟨back, hlog, hback⟩ := mission.log_split hstep h
  have hfront : ∀ event ∈ (mission.after step).log, event.tick.toNat < step :=
    fun event member => mission.tick_of_mem_log (hstep.trans h) member
  rw [hlog, List.filter_append, List.filter_eq_self.mpr (by simpa using hfront),
    List.filter_eq_nil_iff.mpr (by simpa using hback), List.append_nil]

/-- What stands in the log for one tick only stands in the entries of its step. -/
theorem filter_log {P : Event → Prop} [DecidablePred P] {step : ℕ} (h : step < mission.duration)
    (only : ∀ event ∈ (mission.after mission.duration).log, P event → event.tick.toNat = step) :
    (mission.after mission.duration).log.filter P = (mission.after step).entries.filter P := by
  obtain ⟨back, hlog, hback⟩ := mission.log_split (Nat.succ_le_of_lt h) le_rfl
  rw [mission.after_succ_of_running (mission.running_of_lt h), Engine.log_play] at hlog
  have hfront : (mission.after step).log.filter P = [] := by
    rw [List.filter_eq_nil_iff]
    intro event member holds
    have htick := only event (by simp [hlog, member]) (of_decide_eq_true holds)
    exact Nat.ne_of_lt (mission.tick_of_mem_log (Nat.le_of_lt h) member) htick
  have hlate : back.filter P = [] := by
    rw [List.filter_eq_nil_iff]
    intro event member holds
    have htick := only event (by simp [hlog, member]) (of_decide_eq_true holds)
    exact Nat.ne_of_gt (hback event member) htick
  rw [hlog, List.filter_append, List.filter_append, hfront, hlate, List.nil_append, List.append_nil]

theorem entered_after (steps : ℕ) :
    (mission.after steps).entered = (mission.after steps).log.length :=
  mission.after_induction (P := fun engine => engine.entered = engine.log.length) rfl
    (fun engine _ h _ => by
      rw [Engine.entered_play, Engine.log_play, List.length_append, h, Engine.length_entries]) steps

end Mission

/-! ## The result -/

namespace RunResult

@[simp] theorem frames_ofEngine (engine : Engine) : (ofEngine engine).frames = engine.frames := rfl

@[simp] theorem events_ofEngine (engine : Engine) : (ofEngine engine).events = engine.log := rfl

@[simp] theorem outcome_ofEngine (engine : Engine) :
    (ofEngine engine).outcome = engine.world.outcome := rfl

@[simp] theorem finalTick_ofEngine (engine : Engine) :
    (ofEngine engine).finalTick = engine.world.tick := rfl

@[simp] theorem tickLimit_ofEngine (engine : Engine) :
    (ofEngine engine).tickLimit = engine.mission.limit := rfl

@[simp] theorem failureSummary_ofEngine (engine : Engine) :
    (ofEngine engine).failureSummary =
      if engine.world.outcome = .failure then some (FailureSummary.ofLog engine.log)
      else none := rfl

variable (level : Level) (cues : List Script.Cue) (config : Config)

theorem simulate_eq :
    simulate level cues config =
      ofEngine ((Mission.of level cues config).after (Mission.of level cues config).duration) := by
  rw [simulate, Mission.run_start]

end RunResult

/-! ## A corridor -/

/-- Two cells with a door on the second, which is the way out. -/
def corridor : Level where
  id := "corridor"
  map := { width := 2, height := 1 }
  entry := ⟨0, 0⟩
  exit := ⟨1, 0⟩
  playerPath := [⟨0, 0⟩, ⟨1, 0⟩]
  devices := [.newDoor "gate" ⟨1, 0⟩ false]
  networkScope := ["gate"]
  constraints := { maxLines := 4, maxCommands := 4, maxDelay := 4, tickLimit := 3 }

/-- The door is to open on the second tick. -/
def corridorScript : String := "wait(1)\ndoor(\"gate\").open()"

def corridorCues : List Script.Cue :=
  [{ tick := 0, line := 1, raw := "wait(1)", command := .wait 1 },
    { tick := 1, line := 2, raw := "door(\"gate\").open()", command := .openDoor "gate" }]

end Infiltration
