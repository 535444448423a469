import Infiltration.Proofs.Run.Trace

/-! # How a run ends

The player's death, the way out and the end of the time are told in the last tick only, death and
exit together at most once, and what the log tells of them agrees with the last frame and the
outcome. -/

namespace Infiltration

attribute [local irreducible] Mission.opening Mission.closing

/-! ## Counting occurrences -/

/-- How many of the occurrences are of a kind. -/
def tally (kind : EventKind) (occurrences : List Occurrence) : ℕ :=
  occurrences.countP fun occurrence => occurrence.kind = kind

@[simp] theorem tally_nil (kind : EventKind) : tally kind [] = 0 := rfl

@[simp] theorem tally_append (kind : EventKind) (front back : List Occurrence) :
    tally kind (front ++ back) = tally kind front + tally kind back :=
  List.countP_append

theorem tally_eq_zero {kind : EventKind} {occurrences : List Occurrence} :
    tally kind occurrences = 0 ↔ ∀ occurrence ∈ occurrences, occurrence.kind ≠ kind := by
  simp [tally, List.countP_eq_zero]

theorem length_ofKind_enterFrom (kind : EventKind) (entered : ℕ) (tick : UInt64)
    (occurrences : List Occurrence) :
    (Log.ofKind (enterFrom entered tick occurrences) kind).length = tally kind occurrences := by
  induction occurrences generalizing entered with
  | nil => rfl
  | cons occurrence rest ih =>
      have hrest := ih (entered + 1)
      simp only [Log.ofKind, tally] at hrest ⊢
      by_cases hkind : occurrence.kind = kind
      · simp [enterFrom, Occurrence.event, hkind, hrest]
      · simp [enterFrom, Occurrence.event, hkind, hrest]

theorem exists_kind_iff {log : Log} {kind : EventKind} :
    (∃ event ∈ log, event.kind = kind) ↔ 0 < (log.ofKind kind).length := by
  simp [Log.ofKind, List.length_pos_iff_exists_mem]

/-! ## Deeds that decide -/

/-- The player is not both dead and out. -/
def Player.OneFate (player : Player) : Prop := player.alive = true ∨ player.reachedExit = false

/-- No device tells of a death or an exit. -/
theorem Device.Deed.undecisive {world : World} {key : String} {stage : Stage}
    {device device' : Device} {occurrences : List Occurrence}
    (deed : Deed world key stage device occurrences device') :
    tally .playerKilled occurrences = 0 ∧ tally .playerReachedExit occurrences = 0 := by
  cases deed with
  | held =>
      simp only [Turret.announceLock]
      split <;> exact ⟨rfl, rfl⟩
  | fired =>
      simp only [Turret.announceLock]
      split <;> exact ⟨rfl, rfl⟩
  | _ => exact ⟨rfl, rfl⟩

/-- Only the clock tells of the end of the time. -/
theorem Occurrence.kind_ne_timeout {occurrence : Occurrence} (h : occurrence.stage ≠ .clock) :
    occurrence.kind ≠ .runTimeout := by
  cases occurrence <;> simp_all [stage, kind]

namespace Deed

variable {stage : Stage} {world next : World} {occurrences : List Occurrence}

theorem tally_killed (deed : Deed stage world occurrences next) :
    tally .playerKilled occurrences + next.player.alive.toNat = world.player.alive.toNat := by
  cases deed with
  | device _ deed => simp [deed.undecisive.1]
  | killed turret alive => simp [tally, Occurrence.kind, alive]
  | blocked door => split <;> simp [tally, Occurrence.kind]
  | _ => simp [tally, Occurrence.kind]

theorem tally_exit (deed : Deed stage world occurrences next) :
    world.player.reachedExit.toNat + tally .playerReachedExit occurrences =
      next.player.reachedExit.toNat := by
  cases deed with
  | device _ deed => simp [deed.undecisive.2]
  | exited alive inside => simp [tally, Occurrence.kind, inside]
  | blocked door => split <;> simp [tally, Occurrence.kind]
  | _ => simp [tally, Occurrence.kind]

theorem reachedExit_eq (deed : Deed stage world occurrences next) (h : stage ≠ .walk) :
    next.player.reachedExit = world.player.reachedExit := by
  cases deed with
  | blocked => rfl
  | moved => rfl
  | exited => exact absurd rfl h
  | _ => rfl

theorem oneFate (deed : Deed stage world occurrences next) (h : stage ≠ .turrets)
    (oneFate : world.player.OneFate) : next.player.OneFate := by
  cases deed with
  | killed => exact absurd rfl h
  | exited alive => exact .inl alive
  | _ => exact oneFate

end Deed

namespace Deeds

variable {stages : Set Stage} {world last : World} {occurrences : List Occurrence}

theorem tally_killed (deeds : Deeds stages world occurrences last) :
    tally .playerKilled occurrences + last.player.alive.toNat = world.player.alive.toNat := by
  induction deeds with
  | nil => simp
  | cons _ deed _ ih =>
      have h := deed.tally_killed
      rw [tally_append]
      omega

theorem tally_exit (deeds : Deeds stages world occurrences last) :
    world.player.reachedExit.toNat + tally .playerReachedExit occurrences =
      last.player.reachedExit.toNat := by
  induction deeds with
  | nil => simp
  | cons _ deed _ ih =>
      have h := deed.tally_exit
      rw [tally_append]
      omega

theorem tally_timeout (deeds : Deeds stages world occurrences last) (h : .clock ∉ stages) :
    tally .runTimeout occurrences = 0 :=
  tally_eq_zero.mpr fun occurrence member =>
    occurrence.kind_ne_timeout (deeds.stage_ne h occurrence member)

theorem reachedExit_eq (deeds : Deeds stages world occurrences last) (h : .walk ∉ stages) :
    last.player.reachedExit = world.player.reachedExit :=
  deeds.keeps (P := fun next => next.player.reachedExit = world.player.reachedExit)
    (fun admitted deed heq =>
      (deed.reachedExit_eq (by rintro rfl; exact h admitted)).trans heq) rfl

theorem oneFate (deeds : Deeds stages world occurrences last) (h : .turrets ∉ stages)
    (oneFate : world.player.OneFate) : last.player.OneFate :=
  deeds.keeps (P := fun next => next.player.OneFate)
    (fun admitted deed heq => deed.oneFate (by rintro rfl; exact h admitted) heq) oneFate

end Deeds

/-! ## One tick -/

namespace Engine

variable {engine : Engine}

/-- What the tick tells of the player's end is what becomes of the player. -/
theorem tally_play (labelled : engine.world.devices.Labelled)
    (alive : engine.world.player.alive = true) (inside : engine.world.player.reachedExit = false) :
    tally .playerKilled engine.occurrences + engine.closed.1.player.alive.toNat = 1 ∧
      tally .playerReachedExit engine.occurrences = engine.closed.1.player.reachedExit.toNat := by
  have hkilled := (play_deeds labelled).tally_killed
  have hexit := (play_deeds labelled).tally_exit
  rw [alive] at hkilled
  rw [inside] at hexit
  exact ⟨hkilled, by simpa using hexit⟩

/-- Turrets act while the player is inside, and who walks out is alive. -/
theorem oneFate_closed (labelled : engine.world.devices.Labelled)
    (inside : engine.world.player.reachedExit = false) : engine.closed.1.player.OneFate := by
  have hcued := engine.cued_deeds.reachedExit_eq (by simp [Tick.scripted])
  have hstirred := (engine.stirred_deeds labelled).reachedExit_eq (by simp [Tick.automatic])
  rw [world_closed]
  exact engine.walked_deeds.oneFate (by simp) (.inr ((hstirred.trans hcued).trans inside))

/-- The end of the time is told last, when the limit is reached. -/
theorem occurrences_clock (labelled : engine.world.devices.Labelled) :
    ∃ told, tally .runTimeout told = 0 ∧
      engine.occurrences = told ++
        if engine.mission.limit ≤ engine.world.tick then [.timedOut engine.mission.limit]
        else [] := by
  refine ⟨engine.cued.2 ++ engine.stirred.2 ++ engine.walked.2, ?_, ?_⟩
  · rw [tally_append, tally_append, engine.cued_deeds.tally_timeout (by simp [Tick.scripted]),
      (engine.stirred_deeds labelled).tally_timeout (by simp [Tick.automatic]),
      engine.walked_deeds.tally_timeout (by simp)]
  · rw [← tick_closed labelled, world_closed]
    exact engine.occurrences_eq

end Engine

namespace Mission

variable (mission : Mission)

theorem verdict_eq_running {world : World} :
    mission.verdict world = .running ↔
      world.player.reachedExit = false ∧ world.player.alive = true ∧
        world.tick < mission.limit := by
  unfold verdict
  cases world.player.reachedExit <;> cases world.player.alive <;> simp

theorem verdict_eq_success {world : World} :
    mission.verdict world = .success ↔ world.player.reachedExit = true := by
  unfold verdict
  cases world.player.reachedExit
  · simp only [Bool.false_eq_true, ite_false, iff_false]
    split <;> simp
  · simp

theorem verdict_eq_failure {world : World} :
    mission.verdict world = .failure ↔
      world.player.reachedExit = false ∧
        (world.player.alive = false ∨ mission.limit ≤ world.tick) := by
  unfold verdict
  cases world.player.reachedExit <;> cases world.player.alive <;> simp

/-- As long as a run is undecided the player is alive and inside. -/
theorem player_after {steps : ℕ} (running : (mission.after steps).finished = false) :
    (mission.after steps).world.player.alive = true ∧
      (mission.after steps).world.player.reachedExit = false := by
  cases steps with
  | zero => exact ⟨rfl, rfl⟩
  | succ steps =>
      have hbefore := mission.running_of_le (Nat.le_succ steps) running
      have hverdict := mission.verdict_of_running running
      have hworld := Engine.world_play (mission.after steps)
      rw [mission_after, mission.settle_of_running hverdict] at hworld
      rw [mission.after_succ_of_running hbefore, hworld]
      obtain ⟨inside, alive, -⟩ := mission.verdict_eq_running.mp hverdict
      exact ⟨alive, inside⟩

theorem oneFate_scene {step : ℕ} (h : step < mission.duration) :
    (mission.after step).scene.snapshot.player.OneFate := by
  rw [Engine.player_scene]
  exact Engine.oneFate_closed (mission.labelled_after step)
    (mission.player_after (mission.running_of_lt h)).2

/-- A tick after which the run goes on tells nothing that would decide it. -/
theorem undecisive_scene {step : ℕ} (h : step + 1 < mission.duration) :
    let scene := (mission.after step).scene
    scene.snapshot.player.alive = true ∧ scene.snapshot.player.reachedExit = false ∧
      ∀ event ∈ scene.events, event.kind ≠ .playerKilled ∧
        event.kind ≠ .playerReachedExit ∧ event.kind ≠ .runTimeout := by
  have running := mission.running_of_lt (Nat.lt_of_succ_lt h)
  have labelled := mission.labelled_after step
  obtain ⟨inside, alive, early⟩ :=
    mission.verdict_eq_running.mp (mission.verdict_of_running (mission.running_of_lt h))
  obtain ⟨halive, hinside⟩ := mission.player_after running
  obtain ⟨hkilled, hexit⟩ := Engine.tally_play labelled halive hinside
  rw [alive] at hkilled
  rw [inside] at hexit
  obtain ⟨told, htold, hclock⟩ := Engine.occurrences_clock labelled
  rw [mission_after, if_neg, List.append_nil] at hclock
  · rw [← hclock] at htold
    simp only [Engine.player_scene, Engine.events_scene]
    refine ⟨alive, inside, ?_⟩
    intro event member
    obtain ⟨occurrence, hmember, id, rfl⟩ := mem_enterFrom member
    exact ⟨tally_eq_zero.mp (by simpa using hkilled) occurrence hmember,
      tally_eq_zero.mp (by simpa using hexit) occurrence hmember,
      tally_eq_zero.mp htold occurrence hmember⟩
  · rw [← mission.tick_closed_after]
    exact UInt64.not_le.mpr early

/-! ## The last tick -/

/-- The kinds of events that tell of an end. -/
def decisive (kind : EventKind) : Prop :=
  kind = .playerKilled ∨ kind = .playerReachedExit ∨ kind = .runTimeout

/-- The log of a run closes with the events of its last tick, and only these tell of an end. -/
theorem log_duration :
    ∃ front, (mission.after mission.duration).log = front ++ mission.last.entries ∧
      ∀ event ∈ front, ¬ decisive event.kind := by
  have hsucc : mission.duration = mission.duration - 1 + 1 :=
    (Nat.sub_add_cancel mission.duration_pos).symm
  refine ⟨(List.range (mission.duration - 1)).flatMap fun step => (mission.after step).entries,
    ?_, ?_⟩
  · rw [mission.log_after le_rfl]
    conv_lhs => rw [hsucc, List.range_succ, List.flatMap_append, List.flatMap_singleton]
    rfl
  · intro event member
    obtain ⟨step, hstep, member⟩ := List.mem_flatMap.mp member
    rw [List.mem_range] at hstep
    obtain ⟨-, -, hkind⟩ := mission.undecisive_scene (Nat.add_lt_of_lt_sub hstep)
    obtain ⟨hkilled, hexit, htimeout⟩ := hkind event member
    simp [decisive, hkilled, hexit, htimeout]

theorem length_ofKind_duration {kind : EventKind} (h : decisive kind) :
    (Log.ofKind (mission.after mission.duration).log kind).length =
      tally kind mission.last.occurrences := by
  obtain ⟨front, hlog, hfront⟩ := mission.log_duration
  have hnone : Log.ofKind front kind = [] := by
    apply List.filter_eq_nil_iff.mpr
    intro event member heq
    exact hfront event member (by simpa [of_decide_eq_true heq] using h)
  rw [hlog, Log.ofKind, List.filter_append, List.length_append]
  change (Log.ofKind front kind).length + (Log.ofKind mission.last.entries kind).length = _
  rw [hnone, Engine.entries, length_ofKind_enterFrom, List.length_nil, Nat.zero_add]

theorem tally_last :
    tally .playerKilled mission.last.occurrences +
        mission.last.closed.1.player.alive.toNat = 1 ∧
      tally .playerReachedExit mission.last.occurrences =
        mission.last.closed.1.player.reachedExit.toNat := by
  obtain ⟨alive, inside⟩ := mission.player_after mission.running_last
  exact Engine.tally_play mission.labelled_last alive inside

theorem tick_last : (mission.after mission.duration).world.tick = mission.last.closed.1.tick := by
  rw [mission.world_duration]

theorem oneFate_last : mission.last.closed.1.player.OneFate :=
  Engine.oneFate_closed mission.labelled_last (mission.player_after mission.running_last).2

/-- The time has run out if the last tick is the one at the limit. -/
theorem limit_le_iff :
    mission.limit ≤ mission.last.world.tick ↔
      (mission.after mission.duration).world.tick = mission.limit := by
  have hle := (mission.tick_after mission.running_last).2
  rw [tick_last, tick_closed_last]
  constructor
  · exact fun h => UInt64.le_antisymm hle h
  · exact fun h => UInt64.le_of_eq h.symm

theorem occurrences_last :
    ∃ told, tally .runTimeout told = 0 ∧
      mission.last.occurrences = told ++
        if (mission.after mission.duration).world.tick = mission.limit then
          [.timedOut mission.limit]
        else [] := by
  obtain ⟨told, htold, hclock⟩ := Engine.occurrences_clock mission.labelled_last
  refine ⟨told, htold, ?_⟩
  rw [mission_last] at hclock
  simpa only [limit_le_iff] using hclock

/-! ## The log and the last world -/

theorem exists_killed_iff :
    (∃ event ∈ (mission.after mission.duration).log, event.kind = .playerKilled) ↔
      mission.last.closed.1.player.alive = false := by
  have hkilled := mission.tally_last.1
  rw [exists_kind_iff, mission.length_ofKind_duration (.inl rfl)]
  cases halive : mission.last.closed.1.player.alive <;> simp_all

theorem exists_exit_iff :
    (∃ event ∈ (mission.after mission.duration).log, event.kind = .playerReachedExit) ↔
      mission.last.closed.1.player.reachedExit = true := by
  have hexit := mission.tally_last.2
  rw [exists_kind_iff, mission.length_ofKind_duration (.inr (.inl rfl))]
  cases hout : mission.last.closed.1.player.reachedExit <;> simp_all

/-- Death and exit are told at most once, and not both. -/
theorem length_ends_le_one :
    (Log.ofKind (mission.after mission.duration).log .playerReachedExit).length +
      (Log.ofKind (mission.after mission.duration).log .playerKilled).length ≤ 1 := by
  obtain ⟨hkilled, hexit⟩ := mission.tally_last
  rw [mission.length_ofKind_duration (.inr (.inl rfl)),
    mission.length_ofKind_duration (.inl rfl), hexit]
  rcases mission.oneFate_last with alive | inside
  · rw [alive, Bool.toNat_true] at hkilled
    have hle := Bool.toNat_le mission.last.closed.1.player.reachedExit
    omega
  · rw [inside, Bool.toNat_false]
    omega

theorem exists_timeout_iff :
    (∃ event ∈ (mission.after mission.duration).log, event.kind = .runTimeout) ↔
      (mission.after mission.duration).world.tick = mission.limit := by
  obtain ⟨told, htold, hlast⟩ := mission.occurrences_last
  rw [exists_kind_iff, mission.length_ofKind_duration (.inr (.inr rfl)), hlast, tally_append, htold]
  split <;> simp_all [tally, Occurrence.kind]

/-- A run that is out of time closes its log with that. -/
theorem log_of_timeout (h : (mission.after mission.duration).world.tick = mission.limit) :
    ∃ front timeout, (mission.after mission.duration).log = front ++ [timeout] ∧
      timeout.kind = .runTimeout ∧ ∀ event ∈ front, event.kind ≠ .runTimeout := by
  obtain ⟨front, hlog, hfront⟩ := mission.log_duration
  obtain ⟨told, htold, hlast⟩ := mission.occurrences_last
  rw [if_pos h] at hlast
  rw [Engine.entries, hlast, enterFrom_append, ← List.append_assoc] at hlog
  refine ⟨_, _, hlog, rfl, ?_⟩
  intro event member
  rcases List.mem_append.mp member with member | member
  · exact fun heq => hfront event member (.inr (.inr heq))
  · obtain ⟨occurrence, hmember, id, rfl⟩ := mem_enterFrom member
    exact tally_eq_zero.mp htold occurrence hmember

theorem outcome_duration :
    (mission.after mission.duration).world.outcome = mission.verdict mission.last.closed.1 := by
  rw [mission.world_duration]

theorem outcome_decided :
    (mission.after mission.duration).world.outcome = .success ∨
      (mission.after mission.duration).world.outcome = .failure := by
  have hverdict := mission.verdict_last
  rw [outcome_duration]
  cases h : mission.verdict mission.last.closed.1 with
  | running => exact absurd h hverdict
  | success => exact .inl rfl
  | failure => exact .inr rfl

theorem outcome_eq_success :
    (mission.after mission.duration).world.outcome = .success ↔
      mission.last.closed.1.player.reachedExit = true := by
  rw [outcome_duration]
  exact mission.verdict_eq_success

theorem outcome_eq_failure :
    (mission.after mission.duration).world.outcome = .failure ↔
      mission.last.closed.1.player.reachedExit = false ∧
        (mission.last.closed.1.player.alive = false ∨
          (mission.after mission.duration).world.tick = mission.limit) := by
  rw [outcome_duration, verdict_eq_failure, ← limit_le_iff, tick_closed_last]

end Mission

/-! ## Whole runs -/

/-- The outcome, the last frame and the log of a run agree on how it ended. -/
structure RunResult.Concluded (result : RunResult) (last : Frame) : Prop where
  before_last : ∀ (tick : ℕ) (frame : Frame), result.frames[tick]? = some frame →
    tick + 1 < result.frames.length →
    frame.snapshot.player.alive = true ∧ frame.snapshot.player.reachedExit = false ∧
      ∀ event ∈ frame.events, event.kind ≠ .playerKilled ∧ event.kind ≠ .playerReachedExit
  not_both : ∀ frame ∈ result.frames,
    ¬ (frame.snapshot.player.alive = false ∧ frame.snapshot.player.reachedExit = true)
  decided : result.outcome = .success ∨ result.outcome = .failure
  success_iff : result.outcome = .success ↔ last.snapshot.player.reachedExit = true
  exit_iff : (∃ event ∈ result.events, event.kind = .playerReachedExit) ↔
    last.snapshot.player.reachedExit = true
  killed_iff : (∃ event ∈ result.events, event.kind = .playerKilled) ↔
    last.snapshot.player.alive = false
  one_end : (result.events.ofKind .playerReachedExit).length +
    (result.events.ofKind .playerKilled).length ≤ 1
  timeout_iff : (∃ event ∈ result.events, event.kind = .runTimeout) ↔
    result.finalTick = result.tickLimit
  timeout_last : result.finalTick = result.tickLimit →
    ∃ front timeout, result.events = front ++ [timeout] ∧ timeout.kind = .runTimeout ∧
      ∀ event ∈ front, event.kind ≠ .runTimeout
  failure_cause : result.outcome = .failure →
    last.snapshot.player.alive = false ∨ result.finalTick = result.tickLimit
  summary_iff : result.failureSummary.isSome = true ↔ result.outcome = .failure

namespace Mission

variable (mission : Mission)

theorem limit_duration : (mission.after mission.duration).mission.limit = mission.limit := by
  rw [mission_after]

theorem concluded_duration :
    (RunResult.ofEngine (mission.after mission.duration)).Concluded mission.last.scene where
  before_last := by
    intro tick frame hframe hbefore
    obtain ⟨-, rfl⟩ := mission.getElem?_frames hframe
    rw [RunResult.frames_ofEngine, mission.length_frames] at hbefore
    obtain ⟨alive, inside, hkinds⟩ := mission.undecisive_scene hbefore
    refine ⟨alive, inside, fun event member => ?_⟩
    exact ⟨(hkinds event member).1, (hkinds event member).2.1⟩
  not_both := by
    intro frame member
    obtain ⟨tick, htick⟩ := List.mem_iff_getElem?.mp member
    obtain ⟨hlt, rfl⟩ := mission.getElem?_frames htick
    rintro ⟨dead, out⟩
    rcases mission.oneFate_scene hlt with alive | inside
    · exact absurd (dead.symm.trans alive) Bool.false_ne_true
    · exact absurd (inside.symm.trans out) Bool.false_ne_true
  decided := mission.outcome_decided
  success_iff := by
    rw [RunResult.outcome_ofEngine, Engine.player_scene]
    exact mission.outcome_eq_success
  exit_iff := by
    rw [RunResult.events_ofEngine, Engine.player_scene]
    exact mission.exists_exit_iff
  killed_iff := by
    rw [RunResult.events_ofEngine, Engine.player_scene]
    exact mission.exists_killed_iff
  one_end := mission.length_ends_le_one
  timeout_iff := by
    rw [RunResult.tickLimit_ofEngine, mission.limit_duration]
    exact mission.exists_timeout_iff
  timeout_last := by
    rw [RunResult.tickLimit_ofEngine, mission.limit_duration]
    exact mission.log_of_timeout
  failure_cause := by
    rw [RunResult.tickLimit_ofEngine, mission.limit_duration, RunResult.outcome_ofEngine,
      Engine.player_scene]
    exact fun h => (mission.outcome_eq_failure.mp h).2
  summary_iff := by
    rw [RunResult.failureSummary_ofEngine, RunResult.outcome_ofEngine]
    split
    · simp [*]
    · simp [*]

end Mission

theorem simulate_concluded (level : Level) (cues : List Script.Cue) (config : Config) :
    ∃ last, (simulate level cues config).frames.getLast? = some last ∧
      (simulate level cues config).Concluded last := by
  rw [RunResult.simulate_eq]
  exact ⟨_, Mission.getLast?_frames _, Mission.concluded_duration _⟩

end Infiltration
