import Infiltration.Proofs.Run.Causality
import Infiltration.Proofs.Run.Ending

/-! # A limit only cuts a run off

Under a lower limit a run is the same up to that limit. There it ends, and tells so after all that
the longer run tells of the tick. -/

namespace Infiltration

attribute [local irreducible] Mission.opening Mission.closing

namespace Mission

def withLimit (mission : Mission) (limit : UInt64) : Mission := { mission with limit }

theorem verdict_withLimit {mission : Mission} {limit : UInt64} {world : World}
    (before : world.tick < limit) (early : world.tick < mission.limit) :
    (mission.withLimit limit).verdict world = mission.verdict world := by
  have hbefore : ¬ limit ≤ world.tick := UInt64.not_le.mpr before
  have hearly : ¬ mission.limit ≤ world.tick := UInt64.not_le.mpr early
  simp [verdict, withLimit, hbefore, hearly]

theorem settle_withLimit {mission : Mission} {limit : UInt64} {world : World}
    (before : world.tick < limit) (early : world.tick < mission.limit) :
    (mission.withLimit limit).settle world = mission.settle world := by
  simp only [settle, verdict_withLimit before early]

/-- The tick on which the player gets out is the last one. -/
theorem duration_of_exit {mission : Mission} {step : ℕ} (h : step < mission.duration)
    (out : (mission.after step).closed.1.player.reachedExit = true) :
    mission.duration = step + 1 := by
  by_contra hne
  have hlt : step + 1 < mission.duration := by omega
  have running := mission.running_of_lt hlt
  have inside := (mission.verdict_eq_running.mp (mission.verdict_of_running running)).1
  rw [out] at inside
  exact Bool.false_ne_true inside.symm

end Mission

/-! ## One tick -/

namespace Engine

/-- The engine as it stands, to be stopped by another limit. -/
def withLimit (engine : Engine) (limit : UInt64) : Engine :=
  { engine with mission := engine.mission.withLimit limit }

variable {engine : Engine} {limit : UInt64}

theorem opened_withLimit : (engine.withLimit limit).opened = engine.opened := by
  simp only [opened, Mission.opening]
  rfl

theorem world_closed_withLimit : (engine.withLimit limit).closed.1 = engine.closed.1 := by
  rw [world_closed, world_closed]
  rfl

/-- All that a tick tells before it looks at the clock. -/
def told (engine : Engine) : List Occurrence :=
  engine.cued.2 ++ engine.stirred.2 ++ engine.walked.2

theorem occurrences_eq_told (labelled : engine.world.devices.Labelled) :
    engine.occurrences = engine.told ++
      if engine.mission.limit ≤ engine.world.tick then [.timedOut engine.mission.limit]
      else [] := by
  rw [occurrences_eq, ← world_closed, Tick.timeOut, tick_closed labelled]
  rfl

theorem occurrences_withLimit (labelled : engine.world.devices.Labelled) :
    (engine.withLimit limit).occurrences = engine.told ++
      if limit ≤ engine.world.tick then [.timedOut limit] else [] :=
  @occurrences_eq_told (engine.withLimit limit) labelled

theorem entries_withLimit (labelled : engine.world.devices.Labelled)
    (before : engine.world.tick < limit) (early : engine.world.tick < engine.mission.limit) :
    (engine.withLimit limit).entries = engine.entries := by
  have hoccurrences : (engine.withLimit limit).occurrences = engine.occurrences := by
    rw [occurrences_withLimit labelled, occurrences_eq_told labelled,
      if_neg (UInt64.not_le.mpr before), if_neg (UInt64.not_le.mpr early)]
  rw [entries, hoccurrences]
  rfl

/-- Under another limit a tick can differ in its events only. -/
theorem scene_withLimit :
    (engine.withLimit limit).scene =
      { engine.scene with events := (engine.withLimit limit).entries } := by
  rw [scene, world_closed_withLimit]
  rfl

/-- Before both limits a tick takes no notice of them. -/
theorem play_withLimit (labelled : engine.world.devices.Labelled)
    (before : engine.world.tick < limit) (early : engine.world.tick < engine.mission.limit) :
    (engine.withLimit limit).play = engine.play.withLimit limit := by
  have htick : engine.closed.1.tick = engine.world.tick := tick_closed labelled
  have hentries := entries_withLimit labelled before early
  have hsettle : (engine.mission.withLimit limit).settle engine.closed.1 =
      engine.mission.settle engine.closed.1 := by
    apply Mission.settle_withLimit <;> rwa [htick]
  have hscene : (engine.withLimit limit).scene = engine.scene := by
    rw [scene_withLimit, hentries]
    rfl
  rw [play_eq, play_eq, opened_withLimit, world_closed_withLimit, hentries, hscene]
  simp only [withLimit, hsettle]

/-- On the tick of the lower limit the end of the time is told, and nothing else is new. -/
theorem entries_at_limit (labelled : engine.world.devices.Labelled)
    (now : engine.world.tick = limit) (early : limit < engine.mission.limit) :
    ∃ notice : Event, notice.kind = .runTimeout ∧ notice.tick = limit ∧
      (engine.withLimit limit).entries = engine.entries ++ [notice] := by
  have hnotice : (engine.withLimit limit).occurrences = engine.occurrences ++ [.timedOut limit] := by
    rw [occurrences_withLimit labelled, occurrences_eq_told labelled, now,
      if_pos (UInt64.le_refl limit), if_neg (UInt64.not_le.mpr early), List.append_nil]
  refine ⟨Occurrence.event (.timedOut limit)
    (UInt64.ofNat (engine.entered + engine.occurrences.length + 1)) engine.world.tick, rfl, now, ?_⟩
  rw [entries, hnotice, enterFrom_append]
  rfl

end Engine

/-! ## Runs -/

namespace Mission

variable {mission : Mission} {limit : UInt64} (le : limit ≤ mission.limit)

include le

/-- Up to the lower limit both runs go through the same engines. -/
theorem after_withLimit {steps : ℕ} (h : steps ≤ limit.toNat) :
    (mission.withLimit limit).after steps = (mission.after steps).withLimit limit := by
  induction steps with
  | zero => rfl
  | succ steps ih =>
      rw [after_succ, after_succ, ih (Nat.le_of_succ_le h)]
      apply Engine.step_commute (fun engine => engine.withLimit limit) rfl
      intro running
      have htick := (mission.tick_after running).1
      rw [UInt64.le_iff_toNat_le] at le
      apply Engine.play_withLimit (mission.labelled_after steps)
      · rw [UInt64.lt_iff_toNat_lt]
        omega
      · rw [mission_after, UInt64.lt_iff_toNat_lt]
        omega

theorem finished_withLimit {steps : ℕ} (h : steps ≤ limit.toNat) :
    ((mission.withLimit limit).after steps).finished = (mission.after steps).finished := by
  rw [after_withLimit le h]
  rfl

/-- The lower limit ends the run if nothing has ended it before. -/
theorem duration_withLimit :
    (mission.withLimit limit).duration = min mission.duration (limit.toNat + 1) := by
  have hiff {steps : ℕ} (h : steps ≤ limit.toNat) :
      (mission.withLimit limit).duration ≤ steps ↔ mission.duration ≤ steps := by
    rw [duration_le_iff, duration_le_iff, finished_withLimit le h]
  have hle : (mission.withLimit limit).duration ≤ limit.toNat + 1 := duration_le _
  by_cases hlong : mission.duration ≤ limit.toNat
  · have hshort := (hiff hlong).mpr le_rfl
    have hagain := (hiff (hshort.trans hlong)).mp le_rfl
    omega
  · have hshort : ¬ (mission.withLimit limit).duration ≤ limit.toNat := by
      rwa [hiff le_rfl]
    omega

/-- What the frame of a tick has in the run with the lower limit. -/
theorem getElem?_frames_withLimit {step : ℕ} (h : step < (mission.withLimit limit).duration) :
    (((mission.withLimit limit).after (mission.withLimit limit).duration).frames[step]? =
      some ((mission.after step).withLimit limit).scene) ∧
    ((mission.after mission.duration).frames[step]? = some (mission.after step).scene) := by
  have hstep : step ≤ limit.toNat ∧ step < mission.duration := by
    rw [duration_withLimit le] at h
    omega
  rw [getElem?_frames_eq_some _ h, getElem?_frames_eq_some _ hstep.2, ← after_withLimit le hstep.1]
  exact ⟨rfl, rfl⟩

theorem last_withLimit :
    (mission.withLimit limit).last =
      (mission.after ((mission.withLimit limit).duration - 1)).withLimit limit := by
  have hduration := duration_withLimit le
  exact after_withLimit le (by omega)

/-- If the player gets out under the lower limit, the lower limit was not needed. -/
theorem duration_of_success
    (success : ((mission.withLimit limit).after (mission.withLimit limit).duration).world.outcome =
      .success) :
    mission.duration = (mission.withLimit limit).duration ∧
      (mission.after mission.duration).world.outcome = .success := by
  have hduration := duration_withLimit le
  have hpos := (mission.withLimit limit).duration_pos
  rw [outcome_eq_success, last_withLimit le, Engine.world_closed_withLimit] at success
  have hlong := duration_of_exit (by omega) success
  have heq : mission.duration = (mission.withLimit limit).duration := by omega
  refine ⟨heq, ?_⟩
  rw [outcome_eq_success, last, heq]
  exact success

end Mission

/-! ## Results -/

/-- A log is another one, or, if the run is cut off, that and a last event which tells the end of the
time. -/
def Log.Closes (cutOff : Prop) (limit : UInt64) (log other : Log) : Prop :=
  log = other ∨ cutOff ∧ ∃ notice : Event, notice.kind = .runTimeout ∧ notice.tick = limit ∧
    log = other ++ [notice]

theorem Log.Closes.append_left {cutOff : Prop} {limit : UInt64} {log other : Log}
    (h : Log.Closes cutOff limit log other) (front : Log) :
    Log.Closes cutOff limit (front ++ log) (front ++ other) := by
  rcases h with rfl | ⟨late, notice, hkind, htick, rfl⟩
  · exact .inl rfl
  · exact .inr ⟨late, notice, hkind, htick, (List.append_assoc ..).symm⟩

/-- The result of a run under a lower limit beside that of the same run under a higher one. -/
structure RunResult.Truncates (limit : UInt64) (short long : RunResult) : Prop where
  finalTick_eq : short.finalTick.toNat = min long.finalTick.toNat limit.toNat
  frames_eq : ∀ tick ≤ short.finalTick, ∃ frame again,
    short.frameAt? tick = some frame ∧ long.frameAt? tick = some again ∧
    frame.snapshot = again.snapshot ∧ frame.executedLines = again.executedLines ∧
    frame.storedDigest = again.storedDigest ∧
    Log.Closes (tick = limit ∧ limit < long.tickLimit) limit frame.events again.events
  events_eq : Log.Closes (short.finalTick = limit ∧ limit < long.tickLimit) limit short.events
    (long.events.filter fun event => event.tick ≤ short.finalTick)
  early : long.finalTick < limit → short = { long with tickLimit := limit }
  success : short.outcome = .success →
    long.outcome = .success ∧ long.finalTick = short.finalTick

namespace Mission

variable {mission : Mission} {limit : UInt64} (le : limit ≤ mission.limit)

include le

theorem entries_after_withLimit {step : ℕ} (h : step ≤ limit.toNat)
    (running : (mission.after step).finished = false) :
    Log.Closes (step = limit.toNat ∧ limit < mission.limit) limit
      ((mission.after step).withLimit limit).entries (mission.after step).entries := by
  have labelled := mission.labelled_after step
  have htick := (mission.tick_after running).1
  rcases UInt64.le_iff_lt_or_eq.mp le with hlt | rfl
  · by_cases hnow : step = limit.toNat
    · refine .inr ⟨⟨hnow, hlt⟩, ?_⟩
      apply Engine.entries_at_limit labelled
      · rw [← UInt64.toNat_inj, htick, hnow]
      · rwa [mission_after]
    · left
      rw [UInt64.lt_iff_toNat_lt] at hlt
      apply Engine.entries_withLimit labelled
      · rw [UInt64.lt_iff_toNat_lt]
        omega
      · rw [mission_after, UInt64.lt_iff_toNat_lt]
        omega
  · rw [← after_withLimit le h]
    exact .inl rfl

section

variable {step : ℕ} (hlast : (mission.withLimit limit).duration = step + 1)

include hlast

/-- The last step of the shorter run is one of both. -/
theorem last_le : step ≤ limit.toNat ∧ step < mission.duration := by
  rw [duration_withLimit le] at hlast
  omega

/-- The log of the shorter run ends with what its last step tells. -/
theorem log_last_withLimit :
    ((mission.withLimit limit).after (mission.withLimit limit).duration).log =
      (mission.after step).log ++ ((mission.after step).withLimit limit).entries := by
  obtain ⟨hlimit, hstep⟩ := last_le le hlast
  have running := (finished_withLimit le hlimit).trans (mission.running_of_lt hstep)
  rw [hlast, after_succ_of_running _ running, Engine.log_play, after_withLimit le hlimit]
  rfl

/-- In the log of the longer run this step is followed by later ticks. -/
theorem log_cut {tick : UInt64} (htick : tick.toNat = step) :
    ((mission.after mission.duration).log.filter fun event => event.tick ≤ tick) =
      (mission.after step).log ++ (mission.after step).entries := by
  have hstep := (last_le le hlast).2
  rw [← Engine.log_play, ← mission.after_succ_of_running (mission.running_of_lt hstep),
    ← mission.log_before (Nat.succ_le_of_lt hstep) le_rfl]
  apply List.filter_congr
  intro event _
  rw [decide_eq_decide, UInt64.le_iff_toNat_le]
  omega

end

/-- The log of the shorter run has the events of the longer one up to its last tick. -/
theorem log_withLimit {tick : UInt64}
    (htick : ((mission.withLimit limit).after (mission.withLimit limit).duration).world.tick =
      tick) :
    Log.Closes (tick = limit ∧ limit < mission.limit) limit
      ((mission.withLimit limit).after (mission.withLimit limit).duration).log
      ((mission.after mission.duration).log.filter fun event => event.tick ≤ tick) := by
  obtain ⟨step, hlast⟩ := Nat.exists_eq_add_of_lt (mission.withLimit limit).duration_pos
  rw [Nat.zero_add] at hlast
  obtain ⟨hlimit, hstep⟩ := last_le le hlast
  have hnow : tick.toNat = step := by
    have hlate := (mission.withLimit limit).tick_duration
    rw [htick] at hlate
    omega
  rw [log_last_withLimit le hlast, log_cut le hlast hnow, ← UInt64.toNat_inj, hnow]
  exact (entries_after_withLimit le hlimit (mission.running_of_lt hstep)).append_left _

theorem truncates_duration :
    (RunResult.ofEngine
        ((mission.withLimit limit).after (mission.withLimit limit).duration)).Truncates limit
      (RunResult.ofEngine (mission.after mission.duration)) := by
  have hshort := (mission.withLimit limit).tick_duration
  have hlong := mission.tick_duration
  have hduration := duration_withLimit le
  constructor
  case finalTick_eq =>
    rw [RunResult.finalTick_ofEngine, RunResult.finalTick_ofEngine]
    omega
  case frames_eq =>
    intro tick htick
    rw [RunResult.finalTick_ofEngine, UInt64.le_iff_toNat_le] at htick
    have hstep : tick.toNat < (mission.withLimit limit).duration := by omega
    have hlimit : tick.toNat ≤ limit.toNat := by omega
    obtain ⟨hframe, hagain⟩ := getElem?_frames_withLimit le hstep
    rw [frameAt?_duration, frameAt?_duration, hframe, hagain]
    refine ⟨_, _, rfl, rfl, ?_⟩
    rw [Engine.scene_withLimit, RunResult.tickLimit_ofEngine, mission_after, ← UInt64.toNat_inj]
    exact ⟨rfl, rfl, rfl,
      entries_after_withLimit le hlimit (mission.running_of_lt (by omega))⟩
  case events_eq =>
    rw [RunResult.tickLimit_ofEngine, mission_after]
    exact log_withLimit le rfl
  case early =>
    intro hearly
    rw [RunResult.finalTick_ofEngine, UInt64.lt_iff_toNat_lt] at hearly
    have heq : (mission.withLimit limit).duration = mission.duration := by omega
    rw [heq, after_withLimit le (by omega)]
    rfl
  case success =>
    intro success
    obtain ⟨heq, hsuccess⟩ := duration_of_success le success
    refine ⟨hsuccess, ?_⟩
    rw [RunResult.finalTick_ofEngine, RunResult.finalTick_ofEngine, ← UInt64.toNat_inj]
    omega

end Mission

/-- Of two runs on the same level with the same cues, the one under the lower limit is the other up
to that limit. -/
theorem simulate_truncates (level : Level) (cues : List Script.Cue) (storeDigests : Bool)
    {ceiling more : UInt64}
    (le : level.constraints.limitUnder ceiling ≤ level.constraints.limitUnder more) :
    (simulate level cues { ceiling, storeDigests }).Truncates (level.constraints.limitUnder ceiling)
      (simulate level cues { ceiling := more, storeDigests }) := by
  rw [RunResult.simulate_eq, RunResult.simulate_eq]
  exact @Mission.truncates_duration (Mission.of level cues { ceiling := more, storeDigests }) _ le

/-- Under a limit of one tick the player gets out of the corridor just when the time is over. -/
theorem simulate_corridor_hurried :
    corridor.constraints.limitUnder 1 ≤ corridor.constraints.limitUnder 300 ∧
      (simulate corridor corridorCues { ceiling := 1, storeDigests := false }).Truncates 1
        (simulate corridor corridorCues { ceiling := 300, storeDigests := false }) ∧
      (simulate corridor corridorCues { ceiling := 1, storeDigests := false }).outcome = .success ∧
      (simulate corridor corridorCues { ceiling := 1, storeDigests := false }).events.length =
        (simulate corridor corridorCues { ceiling := 300, storeDigests := false }).events.length + 1 := by
  have le : corridor.constraints.limitUnder 1 ≤ corridor.constraints.limitUnder 300 := by decide
  exact ⟨le, simulate_truncates corridor corridorCues false le, by decide +kernel, by decide +kernel⟩

end Infiltration
