import Infiltration.Proofs.Run.Trace

/-! # Runs do not look ahead

What a run shows up to a tick depends on the cues up to that tick alone, and on these only through
the orders that they give on each tick. -/

namespace Infiltration

namespace Script

/-- What a cue has carried out: its command, on account of its line. -/
def Cue.order (cue : Cue) : UInt32 × Command := (cue.line, cue.command)

/-- The orders that cues give on a tick, in their sequence. -/
def ordersAt (cues : List Cue) (tick : UInt64) : List (UInt32 × Command) :=
  (cues.filter fun cue => cue.tick = tick).map Cue.order

/-- Cues that give the same orders on every tick up to a last one. How they interleave different
ticks, and what they hold after the last one, is left open. -/
def AgreeUntil (last : UInt64) (cues others : List Cue) : Prop :=
  ∀ tick ≤ last, ordersAt cues tick = ordersAt others tick

end Script

/-- The frame of a tick, if the run has come to it. -/
def RunResult.frameAt? (result : RunResult) (tick : UInt64) : Option Frame :=
  result.frames.find? fun frame => frame.tick = tick

/-! ## Engines with other cues -/

/-- The phase of some cues does not depend on their texts, nor on the ticks they are set to. -/
theorem Tick.runCues_congr {cues others : List Script.Cue}
    (same : cues.map Script.Cue.order = others.map Script.Cue.order) :
    runCues cues = runCues others := by
  let carry (order : UInt32 × Script.Command) : Phase :=
    runCue { tick := 0, line := order.1, raw := "", command := order.2 }
  have hcarry (series : List Script.Cue) :
      series.map runCue = (series.map Script.Cue.order).map carry := by
    rw [List.map_map]
    rfl
  rw [runCues, runCues, hcarry cues, hcarry others, same]

/-- The lines of cues are part of their orders. -/
theorem Script.map_line_congr {cues others : List Cue}
    (same : cues.map Cue.order = others.map Cue.order) :
    cues.map Cue.line = others.map Cue.line := by
  have h := congrArg (List.map Prod.fst) same
  rwa [List.map_map, List.map_map] at h

def Mission.withCues (mission : Mission) (cues : List Script.Cue) : Mission :=
  { mission with cues }

namespace Engine

/-- The engine as it stands, with other cues to go on with. -/
def withCues (engine : Engine) (cues : List Script.Cue) : Engine :=
  { engine with mission := engine.mission.withCues cues }

variable {engine : Engine} {cues : List Script.Cue}

theorem opened_withCues
    (same : Script.ordersAt engine.mission.cues engine.world.tick =
      Script.ordersAt cues engine.world.tick) :
    (engine.withCues cues).opened = engine.opened := by
  have hcues : Tick.runCues ((engine.mission.withCues cues).cuesAt engine.world.tick) =
      Tick.runCues (engine.mission.cuesAt engine.world.tick) :=
    Tick.runCues_congr same.symm
  simp only [opened, Mission.opening, withCues, hcues]

/-- A tick takes nothing from the cues but the orders that they give on it. -/
theorem play_withCues (labelled : engine.world.devices.Labelled)
    (same : Script.ordersAt engine.mission.cues engine.world.tick =
      Script.ordersAt cues engine.world.tick) :
    (engine.withCues cues).play = engine.play.withCues cues := by
  have hopened := opened_withCues same
  have hclosed : (engine.withCues cues).closed = engine.closed := by
    rw [closed, hopened]
    rfl
  have hentries : (engine.withCues cues).entries = engine.entries := by
    rw [entries, occurrences, hopened, hclosed]
    rfl
  have hlines : ((engine.mission.withCues cues).cuesAt engine.closed.1.tick).map Script.Cue.line =
      (engine.mission.cuesAt engine.closed.1.tick).map Script.Cue.line := by
    rw [tick_closed labelled]
    exact Script.map_line_congr same.symm
  have hscene : (engine.withCues cues).scene = engine.scene := by
    rw [scene, hclosed, hentries, Mission.frame]
    change Frame.mk _ _ _ (((engine.mission.withCues cues).cuesAt _).map _) _ = _
    rw [hlines]
    rfl
  rw [play_eq, play_eq, hopened, hclosed, hentries, hscene]
  rfl

end Engine

namespace Mission

variable (mission : Mission)

theorem after_withCues {last : UInt64} {cues : List Script.Cue}
    (agree : Script.AgreeUntil last mission.cues cues) {steps : ℕ} (h : steps ≤ last.toNat + 1) :
    (mission.withCues cues).after steps = (mission.after steps).withCues cues := by
  induction steps with
  | zero => rfl
  | succ steps ih =>
      rw [after_succ, after_succ, ih (Nat.le_of_succ_le h)]
      apply Engine.step_commute (fun engine => engine.withCues cues) rfl
      intro running
      apply Engine.play_withCues (mission.labelled_after steps)
      rw [mission_after]
      apply agree
      rw [UInt64.le_iff_toNat_le, (mission.tick_after running).1]
      exact Nat.le_of_succ_le_succ h

/-! ## Frames by their ticks -/

/-- The first frames of a run are those that it has made after as many steps. -/
theorem take_frames (steps : ℕ) :
    (mission.after mission.duration).frames.take steps = (mission.after steps).frames := by
  rcases Nat.le_total steps mission.duration with h | h
  · rw [mission.frames_after le_rfl, mission.frames_after h, ← List.map_take, List.take_range,
      Nat.min_eq_left h]
  · rw [mission.after_of_duration_le h, List.take_of_length_le]
    rwa [mission.length_frames]

theorem getElem?_frames_of_lt {place steps : ℕ} (h : place < steps) :
    (mission.after mission.duration).frames[place]? = (mission.after steps).frames[place]? := by
  rw [← mission.take_frames steps, List.getElem?_take_of_lt h]

theorem tick_scene_eq {step : ℕ} (h : step < mission.duration) (tick : UInt64) :
    (mission.after step).scene.tick = tick ↔ step = tick.toNat := by
  rw [← UInt64.toNat_inj, mission.tick_scene h]

/-- The frame of a tick stands in the place whose number is the tick. -/
theorem frameAt?_duration (tick : UInt64) :
    (RunResult.ofEngine (mission.after mission.duration)).frameAt? tick =
      (mission.after mission.duration).frames[tick.toNat]? := by
  rw [RunResult.frameAt?, RunResult.frames_ofEngine, mission.frames_after le_rfl, List.find?_map,
    List.getElem?_map]
  congr 1
  by_cases h : tick.toNat < mission.duration
  · rw [List.getElem?_range h, List.find?_range_eq_some]
    simp only [Function.comp_def, decide_eq_true_eq, Bool.not_eq_true', decide_eq_false_iff_not]
    refine ⟨(mission.tick_scene_eq h tick).mpr rfl, List.mem_range.mpr h, ?_⟩
    intro step hstep
    exact (mission.tick_scene_eq (hstep.trans h) tick).not.mpr (Nat.ne_of_lt hstep)
  · rw [List.getElem?_eq_none (by rw [List.length_range]; omega), List.find?_eq_none]
    simp only [Function.comp_def, decide_eq_true_eq]
    intro step hstep hdated
    rw [List.mem_range] at hstep
    exact h ((mission.tick_scene_eq hstep tick).mp hdated ▸ hstep)

variable {mission} {last : UInt64} {cues : List Script.Cue}
  (agree : Script.AgreeUntil last mission.cues cues)

include agree

theorem frameAt?_withCues {tick : UInt64} (h : tick ≤ last) :
    (RunResult.ofEngine (mission.after mission.duration)).frameAt? tick =
      (RunResult.ofEngine
        ((mission.withCues cues).after (mission.withCues cues).duration)).frameAt? tick := by
  have hlt : tick.toNat < last.toNat + 1 := Nat.lt_succ_of_le (UInt64.le_iff_toNat_le.mp h)
  rw [frameAt?_duration, frameAt?_duration, mission.getElem?_frames_of_lt hlt,
    (mission.withCues cues).getElem?_frames_of_lt hlt, mission.after_withCues agree le_rfl]
  rfl

/-- A run that ends while the cues agree does not notice which of them it has. -/
theorem ofEngine_withCues (h : (mission.after mission.duration).world.tick ≤ last) :
    RunResult.ofEngine (mission.after mission.duration) =
      RunResult.ofEngine
        ((mission.withCues cues).after (mission.withCues cues).duration) := by
  have hafter := mission.after_withCues agree le_rfl
  have hduration : mission.duration ≤ last.toNat + 1 := by
    have htick := mission.tick_duration
    rw [UInt64.le_iff_toNat_le] at h
    omega
  have hfinished : ((mission.withCues cues).after (last.toNat + 1)).finished = true := by
    rw [hafter, mission.after_of_duration_le hduration]
    exact mission.finished_duration
  have hothers : (mission.withCues cues).duration ≤ last.toNat + 1 := Nat.find_min' _ hfinished
  rw [mission.after_of_duration_le hduration, after_of_duration_le _ hothers] at hafter
  rw [hafter]
  rfl

end Mission

/-- Two runs whose cues agree up to a tick have the same frames up to that tick, and are the same
run if one of them ends by then. -/
theorem simulate_causal (level : Level) (config : Config) {last : UInt64}
    {cues others : List Script.Cue} (agree : Script.AgreeUntil last cues others) :
    (∀ tick ≤ last, (simulate level cues config).frameAt? tick =
      (simulate level others config).frameAt? tick) ∧
    ((simulate level cues config).finalTick ≤ last →
      simulate level cues config = simulate level others config) := by
  have agreed : Script.AgreeUntil last (Mission.of level cues config).cues others := agree
  rw [RunResult.simulate_eq, RunResult.simulate_eq]
  exact ⟨fun _ h => Mission.frameAt?_withCues agreed h, Mission.ofEngine_withCues agreed⟩

/-- The cues of the corridor back to front, after one for which the run does not last. -/
def shuffledCues : List Script.Cue :=
  [{ tick := 2, line := 3, raw := "log(\"late\")", command := .log "late" },
    { tick := 1, line := 2, raw := "", command := .openDoor "gate" },
    { tick := 0, line := 1, raw := "", command := .wait 1 }]

theorem simulate_corridor_shuffled :
    Script.AgreeUntil 1 corridorCues shuffledCues ∧
      (simulate corridor corridorCues { storeDigests := false }).finalTick ≤ 1 ∧
      ((simulate corridor corridorCues { storeDigests := false }).frameAt? 1).isSome ∧
      (simulate corridor corridorCues { storeDigests := false }).frameAt? 1 =
        (simulate corridor shuffledCues { storeDigests := false }).frameAt? 1 ∧
      simulate corridor corridorCues { storeDigests := false } =
        simulate corridor shuffledCues { storeDigests := false } := by
  have agree : Script.AgreeUntil 1 corridorCues shuffledCues := by
    intro tick hle
    have hcases : tick = 0 ∨ tick = 1 := by
      rw [UInt64.le_iff_toNat_le, UInt64.toNat_one] at hle
      rw [← UInt64.toNat_inj, ← UInt64.toNat_inj, UInt64.toNat_zero, UInt64.toNat_one]
      omega
    rcases hcases with rfl | rfl <;> decide
  have hend : (simulate corridor corridorCues { storeDigests := false }).finalTick ≤ 1 := by
    decide +kernel
  obtain ⟨hframes, hresult⟩ := simulate_causal corridor { storeDigests := false } agree
  exact ⟨agree, hend, by decide +kernel, hframes 1 (by decide), hresult hend⟩

end Infiltration
