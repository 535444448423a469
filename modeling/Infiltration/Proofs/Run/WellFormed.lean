import Infiltration.Proofs.Run.Trace

/-! # The shape of a result

A run on any level with any cues ends, with one frame for every tick from zero on, and its log is
made of the frames' events, numbered from one on. -/

namespace Infiltration

/-- The frame of a tick: dated throughout with that tick, with the lines of its cues in their order,
and with the digest of its own snapshot where digests are stored. -/
structure Frame.WellFormed (cues : List Script.Cue) (storeDigests : Bool) (tick : ℕ)
    (frame : Frame) : Prop where
  tick_eq : frame.tick.toNat = tick
  snapshot_tick : frame.snapshot.tick.toNat = tick
  event_tick : ∀ event ∈ frame.events, event.tick.toNat = tick
  executedLines_eq :
    frame.executedLines = (cues.filter fun cue => cue.tick.toNat = tick).map Script.Cue.line
  storedDigest_eq :
    frame.storedDigest = if storeDigests then some frame.snapshot.digest else none

/-- One frame for every tick until the last, and a log without gaps. Event numbers are words, so
they count the events as long as these are fewer than there are words. -/
structure RunResult.WellFormed (limit : UInt64) (cues : List Script.Cue) (storeDigests : Bool)
    (result : RunResult) : Prop where
  tickLimit_eq : result.tickLimit = limit
  finalTick_le : result.finalTick ≤ limit
  length_frames : result.frames.length = result.finalTick.toNat + 1
  frame_at : ∀ (tick : ℕ) (frame : Frame), result.frames[tick]? = some frame →
    frame.WellFormed cues storeDigests tick
  frames_increase : (result.frames.map Frame.tick).Pairwise (· < ·)
  events_eq : result.events = result.frames.flatMap Frame.events
  id_at : result.events.length < UInt64.size → ∀ (place : ℕ) (event : Event),
    result.events[place]? = some event → event.id.toNat = place + 1
  ids_increase : result.events.length < UInt64.size →
    (result.events.map Event.id).Pairwise (· < ·)

namespace Mission

variable (mission : Mission)

/-! ## Frames -/

theorem cuesAt_eq {tick : UInt64} {step : ℕ} (h : tick.toNat = step) :
    mission.cuesAt tick = mission.cues.filter fun cue => cue.tick.toNat = step := by
  apply List.filter_congr
  intro cue _
  rw [decide_eq_decide, ← h, UInt64.toNat_inj]

theorem scene_wellFormed {step : ℕ} (h : step < mission.duration) :
    (mission.after step).scene.WellFormed mission.cues mission.storeDigests step := by
  have htick := mission.tick_scene h
  refine ⟨htick, htick, ?_, ?_, ?_⟩
  · intro event member
    obtain ⟨occurrence, -, id, rfl⟩ := mem_enterFrom member
    exact (mission.tick_after (mission.running_of_lt h)).1
  · rw [← mission.cuesAt_eq htick]
    change ((mission.after step).mission.cuesAt _).map Script.Cue.line = _
    rw [mission.mission_after]
    rfl
  · change (if (mission.after step).mission.storeDigests then _ else _) = _
    rw [mission.mission_after]
    rfl

theorem frames_increase :
    ((mission.after mission.duration).frames.map Frame.tick).Pairwise (· < ·) := by
  rw [mission.frames_after le_rfl, List.map_map, List.pairwise_map]
  apply List.pairwise_lt_range.imp_of_mem
  intro step more hstep hmore hlt
  rw [List.mem_range] at hstep hmore
  simp only [Function.comp_def]
  rw [UInt64.lt_iff_toNat_lt, mission.tick_scene hstep, mission.tick_scene hmore]
  exact hlt

/-- At any time the log is made of the events of the frames so far. -/
theorem log_eq_flatMap_frames (steps : ℕ) :
    (mission.after steps).log = (mission.after steps).frames.flatMap Frame.events :=
  mission.after_induction (P := fun engine => engine.log = engine.frames.flatMap Frame.events) rfl
    (fun engine _ h _ => by
      rw [Engine.log_play, Engine.frames_play, List.flatMap_append, List.flatMap_singleton, h,
        Engine.events_scene]) steps

theorem log_eq_frames :
    (mission.after mission.duration).log =
      (mission.after mission.duration).frames.flatMap Frame.events :=
  mission.log_eq_flatMap_frames mission.duration

/-! ## Numbers -/

/-- The number of an event is its place in the log, from one on. -/
theorem id_after (steps : ℕ) : ∀ (place : ℕ) (event : Event),
    (mission.after steps).log[place]? = some event → event.id = UInt64.ofNat (place + 1) := by
  induction steps with
  | zero => simp [after_zero, Engine.start, Engine.log]
  | succ steps ih =>
      intro place event h
      cases hdone : (mission.after steps).finished with
      | true =>
          rw [after_succ, Engine.step_of_finished hdone] at h
          exact ih place event h
      | false =>
          rw [mission.after_succ_of_running hdone, Engine.log_play] at h
          by_cases hplace : place < (mission.after steps).log.length
          · rw [List.getElem?_append_left hplace] at h
            exact ih place event h
          · rw [List.getElem?_append_right (Nat.le_of_not_lt hplace), Engine.entries,
              getElem?_enterFrom, Option.map_eq_some_iff] at h
            obtain ⟨occurrence, -, rfl⟩ := h
            change UInt64.ofNat _ = _
            rw [mission.entered_after, Nat.add_sub_cancel' (Nat.le_of_not_lt hplace)]

/-- As long as there are numbers, they count the events. -/
theorem toNat_id_after {steps : ℕ} (few : (mission.after steps).log.length < UInt64.size)
    {place : ℕ} {event : Event} (h : (mission.after steps).log[place]? = some event) :
    event.id.toNat = place + 1 := by
  obtain ⟨hplace, -⟩ := List.getElem?_eq_some_iff.mp h
  rw [mission.id_after steps place event h, UInt64.toNat_ofNat']
  exact Nat.mod_eq_of_lt (Nat.lt_of_le_of_lt hplace few)

theorem ids_increase {steps : ℕ} (few : (mission.after steps).log.length < UInt64.size) :
    ((mission.after steps).log.map Event.id).Pairwise (· < ·) := by
  rw [List.pairwise_map, List.pairwise_iff_getElem]
  intro i j hi hj hlt
  rw [UInt64.lt_iff_toNat_lt, mission.toNat_id_after few (List.getElem?_eq_getElem hi),
    mission.toNat_id_after few (List.getElem?_eq_getElem hj)]
  omega

/-! ## Results -/

theorem wellFormed_duration :
    (RunResult.ofEngine (mission.after mission.duration)).WellFormed mission.limit mission.cues
      mission.storeDigests where
  tickLimit_eq := by rw [RunResult.tickLimit_ofEngine, mission_after]
  finalTick_le := by
    have hduration := mission.tick_duration
    have hle := mission.duration_le
    rw [RunResult.finalTick_ofEngine, UInt64.le_iff_toNat_le]
    omega
  length_frames := by
    rw [RunResult.frames_ofEngine, mission.length_frames, RunResult.finalTick_ofEngine,
      mission.tick_duration]
  frame_at := by
    intro tick frame h
    obtain ⟨hlt, rfl⟩ := mission.getElem?_frames h
    exact mission.scene_wellFormed hlt
  frames_increase := mission.frames_increase
  events_eq := mission.log_eq_frames
  id_at := fun few _ _ h => mission.toNat_id_after few h
  ids_increase := fun few => mission.ids_increase few

end Mission

theorem simulate_wellFormed (level : Level) (cues : List Script.Cue) (config : Config) :
    (∃ steps, steps ≤ (Mission.of level cues config).limit.toNat + 1 ∧
      ((Mission.of level cues config).after steps).finished = true ∧
      simulate level cues config =
        RunResult.ofEngine ((Mission.of level cues config).after steps)) ∧
    (simulate level cues config).WellFormed (min level.constraints.tickLimit config.ceiling) cues
      config.storeDigests := by
  constructor
  · exact ⟨_, Mission.duration_le _, Mission.finished_duration _, RunResult.simulate_eq ..⟩
  · rw [RunResult.simulate_eq]
    exact Mission.wellFormed_duration (Mission.of level cues config)

end Infiltration
