import Infiltration.Proofs.Run.Causality
import Infiltration.Proofs.Run.WellFormed

/-! # A run played in single steps

Whoever plays a run step by step is told after each step whether the run is decided. After any number
of steps the engine can be left to run on, with the result of the whole run, and steps after the end
change nothing. -/

namespace Infiltration

/-! ## What a step answers -/

namespace Engine

/-- What a step answers: whether the run was over already, or the tick that is played decides it. -/
def answer (engine : Engine) : Bool :=
  engine.finished || decide (engine.mission.verdict engine.closed.1 ≠ .running)

/-- Steps until the first that is answered with yes. The rules do not bound how many these are. -/
inductive PlaysOut : Engine → Engine → Prop
  | last {engine : Engine} (yes : engine.answer = true) : PlaysOut engine engine.step
  | more {engine final : Engine} (no : engine.answer = false) (rest : PlaysOut engine.step final) :
      PlaysOut engine final

theorem PlaysOut.unique {engine final other : Engine} (first : PlaysOut engine final)
    (second : PlaysOut engine other) : final = other := by
  induction first with
  | last yes =>
      cases second with
      | last _ => rfl
      | more no _ => exact absurd (no.symm.trans yes) Bool.false_ne_true
  | more no _ ih =>
      cases second with
      | last yes => exact absurd (no.symm.trans yes) Bool.false_ne_true
      | more _ rest => exact ih rest

end Engine

namespace Mission

variable (mission : Mission)

/-- The answer to a step is whether the run is over after it. -/
theorem answer_after (steps : ℕ) :
    (mission.after steps).answer = (mission.after (steps + 1)).finished := by
  cases running : (mission.after steps).finished with
  | true => rw [after_succ, Engine.step_of_finished running, Engine.answer, running, Bool.true_or]
  | false =>
      have outcome := mission.outcome_closed_after running
      rw [mission.after_succ_of_running running, Engine.answer, running, Bool.false_or,
        Engine.finished, World.decided, Engine.world_play, mission_after]
      by_cases goesOn : mission.verdict (mission.after steps).closed.1 = .running
      · rw [mission.settle_of_running goesOn, goesOn, outcome]
      · rw [mission.settle_of_decided goesOn]

theorem answer_eq_true (steps : ℕ) :
    (mission.after steps).answer = true ↔ mission.duration ≤ steps + 1 := by
  rw [answer_after, duration_le_iff]

/-! ## Running on -/

/-- Wherever a run is taken up, it runs to the same end. -/
theorem run_after (steps : ℕ) : (mission.after steps).run = mission.after mission.duration := by
  -- As long as the run goes on its tick counts the steps, so what is left to the limit suffices.
  have enough : mission.duration ≤
      mission.limit.toNat + 1 - (mission.after steps).world.tick.toNat + steps := by
    cases running : (mission.after steps).finished with
    | true => exact Nat.le_add_left_of_le (mission.duration_le_iff.mpr running)
    | false =>
        have tick := (mission.tick_after running).1
        have bound := mission.duration_le
        omega
  rw [Engine.run, Engine.runFor_eq_iterate, mission_after, ← mission.after_of_duration_le enough]
  exact (Function.iterate_add_apply ..).symm

theorem playsOut_of_le {steps : ℕ} (late : mission.duration ≤ steps + 1) :
    (mission.after steps).PlaysOut (mission.after mission.duration) := by
  rw [← mission.after_of_duration_le late, after_succ]
  exact .last ((mission.answer_eq_true steps).mpr late)

theorem playsOut_duration (steps : ℕ) :
    (mission.after steps).PlaysOut (mission.after mission.duration) := by
  -- Every step that is answered with no leaves one less before the end.
  induction left : mission.duration - steps generalizing steps with
  | zero => exact mission.playsOut_of_le (by omega)
  | succ left ih =>
      by_cases late : mission.duration ≤ steps + 1
      · exact mission.playsOut_of_le late
      · have no := Bool.eq_false_iff.mpr ((mission.answer_eq_true steps).not.mpr late)
        have rest := ih (steps + 1) (by omega)
        rw [after_succ] at rest
        exact .more no rest

/-- Running on is stepping until the first yes. -/
theorem playsOut_iff (steps : ℕ) (final : Engine) :
    (mission.after steps).PlaysOut final ↔ final = (mission.after steps).run := by
  rw [run_after]
  constructor
  · intro h
    exact h.unique (mission.playsOut_duration steps)
  · rintro rfl
    exact mission.playsOut_duration steps

end Mission

/-! ## Whole runs -/

/-- What a run shows to whoever plays it step by step, against its result. The answer of the engine
after some steps is that to the next step. -/
structure RunResult.Stepwise (mission : Mission) (result : RunResult) : Prop where
  run_eq : ∀ steps, RunResult.ofEngine (mission.after steps).run = result
  playsOut_iff : ∀ steps final,
    (mission.after steps).PlaysOut final ↔ final = (mission.after steps).run
  /-- As many steps as the number of the last tick are answered with no, all others with yes. -/
  answer_iff : ∀ steps, (mission.after steps).answer = true ↔ result.finalTick.toNat ≤ steps
  finished_iff : ∀ steps, (mission.after steps).finished = true ↔ result.finalTick.toNat < steps
  frames_eq : ∀ steps, (mission.after steps).frames = result.frames.take steps
  log_eq : ∀ steps, (mission.after steps).log = (result.frames.take steps).flatMap Frame.events
  frame_at : ∀ tick ≤ result.finalTick.toNat, ∃ frame, result.frames[tick]? = some frame ∧
    (mission.after (tick + 1)).world.player = frame.snapshot.player ∧
    (mission.after (tick + 1)).world.devices = frame.snapshot.devices
  unchanged : ∀ steps, (mission.after steps).finished = true →
    ∀ more, mission.after (steps + more) = mission.after steps

theorem Mission.stepwise_duration (mission : Mission) :
    (RunResult.ofEngine (mission.after mission.duration)).Stepwise mission where
  run_eq steps := by rw [mission.run_after]
  playsOut_iff := mission.playsOut_iff
  answer_iff steps := by
    have tick := mission.tick_duration
    rw [mission.answer_eq_true, RunResult.finalTick_ofEngine]
    omega
  finished_iff steps := by
    have tick := mission.tick_duration
    rw [← mission.duration_le_iff, RunResult.finalTick_ofEngine]
    omega
  frames_eq steps := (mission.take_frames steps).symm
  log_eq steps := by
    rw [RunResult.frames_ofEngine, mission.take_frames, mission.log_eq_flatMap_frames]
  frame_at := by
    intro step h
    have tick := mission.tick_duration
    rw [RunResult.finalTick_ofEngine] at h
    have early : step < mission.duration := by omega
    exact ⟨_, mission.getElem?_frames_eq_some early, mission.player_after_succ early,
      mission.devices_after_succ early⟩
  unchanged := by
    intro steps ended more
    have late := mission.duration_le_iff.mpr ended
    rw [mission.after_of_duration_le late,
      mission.after_of_duration_le (Nat.le_add_right_of_le late)]

/-- Stepping agrees with running, wherever the stepping stops. -/
theorem simulate_stepwise (level : Level) (cues : List Script.Cue) (config : Config) :
    (simulate level cues config).Stepwise (Mission.of level cues config) := by
  rw [RunResult.simulate_eq]
  exact Mission.stepwise_duration (Mission.of level cues config)

end Infiltration
