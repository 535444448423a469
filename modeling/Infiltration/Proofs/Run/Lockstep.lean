import Infiltration.Proofs.Failure
import Infiltration.Proofs.Run.Trace
import Mathlib.Data.List.Forall2

/-! # Two runs in lockstep

If the engines of two runs are alike at the start and each played tick leaves them alike, and engines
that are alike are decided together, then the runs take the same number of steps. What the two ticks of
each step have in common, the frames and the logs have in common. -/

namespace Infiltration.Mission

/-- The engines of two runs are alike at the start and stay so, and the runs end together. -/
structure Lockstep (alike : Engine → Engine → Prop) (mission other : Mission) : Prop where
  start : alike (Engine.start mission) (Engine.start other)
  finished : ∀ {a b : Engine}, alike a b → a.finished = b.finished
  play : ∀ {a b : Engine}, alike a b → a.finished = false → alike a.play b.play

namespace Lockstep

variable {alike : Engine → Engine → Prop} {mission other : Mission}
  (lockstep : Lockstep alike mission other)

include lockstep

theorem after (steps : ℕ) : alike (mission.after steps) (other.after steps) := by
  induction steps with
  | zero => exact lockstep.start
  | succ steps ih =>
      have hfinished := lockstep.finished ih
      rw [after_succ, after_succ]
      cases h : (mission.after steps).finished with
      | true =>
          rwa [Engine.step_of_finished h, Engine.step_of_finished (hfinished.symm.trans h)]
      | false =>
          rw [Engine.step_of_not_finished h, Engine.step_of_not_finished (hfinished.symm.trans h)]
          exact lockstep.play ih h

theorem duration_eq : mission.duration = other.duration := by
  have hdone (steps : ℕ) : (mission.after steps).finished = (other.after steps).finished :=
    lockstep.finished (lockstep.after steps)
  apply Nat.le_antisymm
  · exact Nat.find_min' _ ((hdone _).trans other.finished_duration)
  · exact Nat.find_min' _ ((hdone _).symm.trans mission.finished_duration)

/-- The engines are alike when the runs end. -/
theorem final : alike (mission.after mission.duration) (other.after other.duration) := by
  have h := lockstep.after mission.duration
  rwa [lockstep.duration_eq] at h ⊢

/-- What the frames of every tick have in common, the frames of the runs have. -/
theorem frames {similar : Frame → Frame → Prop}
    (scene : ∀ step < mission.duration,
      similar (mission.after step).scene (other.after step).scene) :
    List.Forall₂ similar (mission.after mission.duration).frames
      (other.after other.duration).frames := by
  rw [mission.frames_after le_rfl, other.frames_after le_rfl, ← lockstep.duration_eq,
    List.forall₂_map_left_iff, List.forall₂_map_right_iff, List.forall₂_same]
  intro step member
  exact scene step (List.mem_range.mp member)

theorem tick_eq {step : ℕ} (h : step < mission.duration) :
    (mission.after step).world.tick = (other.after step).world.tick := by
  have hother : step < other.duration := lockstep.duration_eq ▸ h
  rw [← UInt64.toNat_inj, (mission.tick_after (mission.running_of_lt h)).1,
    (other.tick_after (other.running_of_lt hother)).1]

/-- If the steps tell the same of some kinds, so do the logs, up to the numbers. -/
theorem bare_log {kinds : EventKind → Bool}
    (told : ∀ step < mission.duration,
      ((mission.after step).occurrences.filter fun occurrence => kinds occurrence.kind) =
        (other.after step).occurrences.filter fun occurrence => kinds occurrence.kind) :
    (mission.after mission.duration).log.bare kinds =
      (other.after other.duration).log.bare kinds := by
  rw [mission.log_after le_rfl, other.log_after le_rfl, ← lockstep.duration_eq, Log.bare_flatMap,
    Log.bare_flatMap]
  apply List.flatMap_congr
  intro step member
  have hstep := List.mem_range.mp member
  rw [Engine.entries, Engine.entries, Log.bare_enterFrom, Log.bare_enterFrom, told step hstep,
    lockstep.tick_eq hstep]

/-- If the runs end alike and the steps tell the same of the kinds that a failure is told from, then the
failures are told alike. -/
theorem failureSummary_eq
    (outcome : (mission.after mission.duration).world.outcome =
      (other.after other.duration).world.outcome)
    (told : ∀ step < mission.duration,
      ((mission.after step).occurrences.filter fun occurrence => occurrence.kind.telling) =
        (other.after step).occurrences.filter fun occurrence => occurrence.kind.telling) :
    (RunResult.ofEngine (mission.after mission.duration)).failureSummary =
      (RunResult.ofEngine (other.after other.duration)).failureSummary := by
  have hevidence : (mission.after mission.duration).log.evidence =
      (other.after other.duration).log.evidence := lockstep.bare_log told
  rw [RunResult.failureSummary_ofEngine, RunResult.failureSummary_ofEngine, outcome,
    ← FailureSummary.ofLog_evidence, hevidence, FailureSummary.ofLog_evidence]

end Lockstep

end Infiltration.Mission
