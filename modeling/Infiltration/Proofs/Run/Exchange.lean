import Infiltration.Proofs.Run.Causality
import Infiltration.Proofs.Run.Lockstep
import Infiltration.Proofs.Run.Parts
import Infiltration.Proofs.Run.WellFormed
import Infiltration.Proofs.Tick.Exchange

/-! # Cues in the other order

Two cues of one tick, one right after the other on that tick, that do not name one device can change
places. The run stays the same but for the order in which that tick lists the two lines and tells what
they do. -/

namespace Infiltration

open scoped List

attribute [local irreducible] Mission.opening Mission.closing

namespace Script

/-- Cues among which two of one tick have no other cue of that tick between them and do not name one
device. -/
structure Exchange where
  front : List Cue
  first : Cue
  middle : List Cue
  second : Cue
  back : List Cue
  same_tick : second.tick = first.tick
  consecutive : ∀ cue ∈ middle, cue.tick ≠ first.tick
  apart : ∀ id, first.command.device? = some id → second.command.device? ≠ some id

namespace Exchange

variable (exchange : Exchange)

/-- The cues with the two in each other's place. -/
def swap : Exchange where
  front := exchange.front
  first := exchange.second
  middle := exchange.middle
  second := exchange.first
  back := exchange.back
  same_tick := exchange.same_tick.symm
  consecutive := by
    rw [exchange.same_tick]
    exact exchange.consecutive
  apart := fun id named other => exchange.apart id other named

def cues : List Cue :=
  exchange.front ++ exchange.first :: (exchange.middle ++ exchange.second :: exchange.back)

def tick : UInt64 := exchange.first.tick

/-- The cues of the tick, in their order. -/
def due : List Cue :=
  (exchange.front.filter fun cue => cue.tick = exchange.tick) ++
    exchange.first :: exchange.second :: exchange.back.filter fun cue => cue.tick = exchange.tick

@[simp] theorem tick_swap : exchange.swap.tick = exchange.tick := exchange.same_tick

theorem due_swap :
    exchange.swap.due = (exchange.front.filter fun cue => cue.tick = exchange.tick) ++
      exchange.second :: exchange.first ::
        exchange.back.filter fun cue => cue.tick = exchange.tick := by
  rw [due, tick_swap]
  rfl

theorem cues_swap_perm : exchange.swap.cues.Perm exchange.cues := by
  apply List.Perm.append_left
  calc exchange.second :: (exchange.middle ++ exchange.first :: exchange.back)
    _ ~ exchange.second :: exchange.first :: (exchange.middle ++ exchange.back) :=
        List.perm_middle.cons _
    _ ~ exchange.first :: exchange.second :: (exchange.middle ++ exchange.back) := .swap ..
    _ ~ exchange.first :: (exchange.middle ++ exchange.second :: exchange.back) :=
        List.perm_middle.symm.cons _

theorem filter_cues : (exchange.cues.filter fun cue => cue.tick = exchange.tick) = exchange.due := by
  have hmiddle : (exchange.middle.filter fun cue => cue.tick = exchange.tick) = [] := by
    apply List.filter_eq_nil_iff.mpr
    intro cue member
    exact mt of_decide_eq_true (exchange.consecutive cue member)
  have hfirst : exchange.first.tick = exchange.tick := rfl
  have hsecond : exchange.second.tick = exchange.tick := exchange.same_tick
  simp only [cues, due, List.filter_append, List.filter_cons, hfirst, hsecond, hmiddle, decide_true,
    if_true, List.nil_append]

theorem filter_cues_of_ne {tick : UInt64} (h : tick ≠ exchange.tick) :
    (exchange.swap.cues.filter fun cue => cue.tick = tick) =
      exchange.cues.filter fun cue => cue.tick = tick := by
  have hfirst : exchange.first.tick ≠ tick := h.symm
  have hsecond : exchange.second.tick ≠ tick := exchange.same_tick ▸ h.symm
  simp only [cues, swap, List.filter_append, List.filter_cons, hfirst, hsecond, decide_false,
    Bool.false_eq_true, if_false]

end Exchange

/-- What a level's log tells of a cue, whatever has been done before: that its line is carried out, and
its effect. -/
def Cue.group (level : Level) (cue : Cue) : List Occurrence :=
  (Tick.runCue cue (World.start level)).2

end Script

/-! ## What the two runs have in common -/

/-- Frames of two runs of which the second has the two cues in each other's place. -/
structure Frame.Exchanged (level : Level) (exchange : Script.Exchange) (frame other : Frame) :
    Prop where
  tick_eq : other.tick = frame.tick
  snapshot_eq : other.snapshot = frame.snapshot
  storedDigest_eq : other.storedDigest = frame.storedDigest
  ids_eq : other.events.map Event.id = frame.events.map Event.id
  elsewhere : frame.tick ≠ exchange.tick → other = frame
  executedLines : frame.tick = exchange.tick →
    frame.executedLines = exchange.due.map Script.Cue.line ∧
      other.executedLines = exchange.swap.due.map Script.Cue.line
  events : frame.tick = exchange.tick → ∃ entered rest,
    frame.events =
      enterFrom entered frame.tick (exchange.due.flatMap (Script.Cue.group level) ++ rest) ∧
    other.events =
      enterFrom entered frame.tick (exchange.swap.due.flatMap (Script.Cue.group level) ++ rest) ∧
    ∀ occurrence ∈ rest, occurrence.line? = none

/-- Results of two runs of which the second has the two cues in each other's place. -/
structure RunResult.Exchanged (level : Level) (exchange : Script.Exchange)
    (result other : RunResult) : Prop where
  outcome_eq : other.outcome = result.outcome
  finalTick_eq : other.finalTick = result.finalTick
  tickLimit_eq : other.tickLimit = result.tickLimit
  failureSummary_eq : other.failureSummary = result.failureSummary
  frames : List.Forall₂ (Frame.Exchanged level exchange) result.frames other.frames
  events_eq : result.events = result.frames.flatMap Frame.events
  other_events_eq : other.events = other.frames.flatMap Frame.events

theorem Frame.eq_of_parts {frame other : Frame} (tick : other.tick = frame.tick)
    (snapshot : other.snapshot = frame.snapshot) (events : other.events = frame.events)
    (executedLines : other.executedLines = frame.executedLines)
    (storedDigest : other.storedDigest = frame.storedDigest) : other = frame := by
  cases frame
  cases other
  simp_all

/-! ## One tick -/

theorem map_id_enterFrom {front back : List Occurrence} (h : front.length = back.length)
    (entered : ℕ) (tick : UInt64) :
    (enterFrom entered tick front).map Event.id = (enterFrom entered tick back).map Event.id := by
  induction front generalizing back entered with
  | nil =>
      obtain rfl := List.eq_nil_of_length_eq_zero h.symm
      rfl
  | cons occurrence rest ih =>
      cases back with
      | nil => simp at h
      | cons other back =>
          rw [enterFrom, enterFrom, List.map_cons, List.map_cons, ih (Nat.succ.inj h) (entered + 1)]
          rfl

theorem Tick.not_telling_of_mem_runCue {cue : Script.Cue} {world : World} {occurrence : Occurrence}
    (member : occurrence ∈ (runCue cue world).2) : occurrence.kind.telling = false := by
  rcases List.mem_cons.mp member with rfl | member
  · rfl
  · have told := World.mem_tale_of_mem_perform member
    cases h : cue.command <;>
      simp_all [Script.Command.tale, Occurrence.kind, EventKind.telling]

namespace Engine

/-- What a tick tells after its script lines. -/
def remainder (engine : Engine) : List Occurrence :=
  engine.stirred.2 ++ engine.walked.2 ++ (Tick.timeOut engine.mission.limit engine.walked.1).2

theorem occurrences_eq_remainder (engine : Engine) :
    engine.occurrences = engine.cued.2 ++ engine.remainder := by
  rw [occurrences_eq, remainder, List.append_assoc, List.append_assoc, List.append_assoc]

theorem line?_remainder {engine : Engine} (labelled : engine.world.devices.Labelled) :
    ∀ occurrence ∈ engine.remainder, occurrence.line? = none := by
  obtain ⟨rest, heq, hdeeds⟩ := rest_deeds labelled
  rw [occurrences_eq_remainder] at heq
  rw [List.append_cancel_left heq]
  intro occurrence member
  obtain ⟨stage, hstage, hline⟩ := hdeeds.line?_eq occurrence member
  exact hline.trans hstage

/-- A failure is told from nothing that script lines tell. -/
theorem filter_telling_occurrences (engine : Engine) :
    (engine.occurrences.filter fun occurrence => occurrence.kind.telling) =
      engine.remainder.filter fun occurrence => occurrence.kind.telling := by
  have hcued : (engine.cued.2.filter fun occurrence => occurrence.kind.telling) = [] := by
    apply List.filter_eq_nil_iff.mpr
    intro occurrence member
    rw [cued, Tick.told_runCues _ _ rfl] at member
    obtain ⟨cue, -, member⟩ := List.mem_flatMap.mp member
    simp [Tick.not_telling_of_mem_runCue member]
  rw [occurrences_eq_remainder, List.filter_append, hcued, List.nil_append]

/-- Engines that differ in the order of the two cues, and in what they have recorded. -/
structure Twin (exchange : Script.Exchange) (engine other : Engine) : Prop where
  cues_eq : engine.mission.cues = exchange.cues
  mission_eq : other.mission = engine.mission.withCues exchange.swap.cues
  world_eq : other.world = engine.world
  watching_eq : other.watching = engine.watching
  entered_eq : other.entered = engine.entered

namespace Twin

variable {exchange : Script.Exchange} {engine other : Engine} (twin : Twin exchange engine other)

include twin

theorem cuesAt_eq (tick : UInt64) :
    other.mission.cuesAt tick = exchange.swap.cues.filter fun cue => cue.tick = tick := by
  rw [twin.mission_eq]
  rfl

theorem cued_of_ne (h : engine.world.tick ≠ exchange.tick) : other.cued = engine.cued := by
  rw [cued, cued, twin.cuesAt_eq, twin.world_eq, exchange.filter_cues_of_ne h, Mission.cuesAt,
    twin.cues_eq]

theorem world_cued : other.cued.1 = engine.cued.1 := by
  by_cases h : engine.world.tick = exchange.tick
  · rw [cued, cued, twin.cuesAt_eq, twin.world_eq, Mission.cuesAt, twin.cues_eq, h,
      exchange.filter_cues, ← exchange.tick_swap, exchange.swap.filter_cues, exchange.due_swap]
    exact (Tick.world_runCues_exchange _ _ exchange.apart _).symm
  · rw [twin.cued_of_ne h]

/-- The ticks tell as much. -/
theorem length_cued : other.cued.2.length = engine.cued.2.length := by
  rw [cued, cued, twin.cuesAt_eq, twin.world_eq, Tick.told_runCues _ _ rfl, Tick.told_runCues _ _ rfl,
    Mission.cuesAt, twin.cues_eq]
  exact ((exchange.cues_swap_perm.filter _).flatMap_right _).length_eq

theorem remainder_eq : other.remainder = engine.remainder := by
  simp only [remainder, walked, stirred, twin.world_cued, twin.watching_eq, twin.mission_eq]
  rfl

theorem closed_eq : other.closed.1 = engine.closed.1 := by
  simp only [world_closed, walked, stirred, twin.world_cued, twin.watching_eq, twin.mission_eq]
  rfl

theorem sightings_eq : other.opened.1.sightings = engine.opened.1.sightings := by
  simp only [world_opened, woken, twin.world_cued]

theorem length_occurrences : other.occurrences.length = engine.occurrences.length := by
  rw [occurrences_eq_remainder, occurrences_eq_remainder, List.length_append, List.length_append,
    twin.length_cued, twin.remainder_eq]

end Twin

end Engine

namespace Mission

variable {mission : Mission} {exchange : Script.Exchange}

theorem lockstep_exchange (cues : mission.cues = exchange.cues) :
    Lockstep (Engine.Twin exchange) mission (mission.withCues exchange.swap.cues) where
  start := ⟨cues, rfl, rfl, rfl, rfl⟩
  finished := by
    intro a b twin
    rw [Engine.finished, Engine.finished, twin.world_eq]
  play := by
    intro a b twin _
    refine ⟨twin.cues_eq, twin.mission_eq, ?_, twin.sightings_eq, ?_⟩
    · rw [Engine.world_play, Engine.world_play, twin.closed_eq, twin.mission_eq]
      rfl
    · rw [Engine.entered_play, Engine.entered_play, twin.length_occurrences, twin.entered_eq]

end Mission

namespace Engine.Twin

variable {exchange : Script.Exchange} {engine other : Engine}

/-- The records of a tick by two engines that differ in the order of the two cues. -/
theorem scene (twin : Twin exchange engine other) (labelled : engine.world.devices.Labelled)
    {level : Level}
    (types : engine.world.devices.view Device.type = (World.start level).devices.view Device.type) :
    engine.scene.Exchanged level exchange other.scene := by
  -- The frames are dated by the worlds at the end of the tick, the events by those at its start.
  have htick : engine.scene.tick = engine.world.tick := tick_closed labelled
  have hother : other.scene.tick = engine.scene.tick := congrArg World.tick twin.closed_eq
  have hsnapshot : other.scene.snapshot = engine.scene.snapshot :=
    congrArg Snapshot.ofWorld twin.closed_eq
  have hdigest : other.scene.storedDigest = engine.scene.storedDigest := by
    change (if other.mission.storeDigests then some other.scene.snapshot.digest else none) = _
    rw [hsnapshot, twin.mission_eq]
    rfl
  have hlines : engine.scene.executedLines =
      (exchange.cues.filter fun cue => cue.tick = engine.scene.tick).map Script.Cue.line := by
    rw [← twin.cues_eq]
    rfl
  have hlines' : other.scene.executedLines =
      (exchange.swap.cues.filter fun cue => cue.tick = engine.scene.tick).map Script.Cue.line := by
    rw [← twin.cuesAt_eq, ← hother]
    rfl
  have htold (cues : List Script.Cue) :
      (Tick.runCues cues engine.world).2 = cues.flatMap (Script.Cue.group level) :=
    Tick.told_runCues cues engine.world types
  refine ⟨hother, hsnapshot, hdigest, ?_, ?_, ?_, ?_⟩
  · rw [events_scene, events_scene, entries, entries, twin.entered_eq, twin.world_eq]
    exact map_id_enterFrom twin.length_occurrences _ _
  · intro h
    have hevents : other.scene.events = engine.scene.events := by
      rw [events_scene, events_scene, entries, entries, occurrences_eq_remainder,
        occurrences_eq_remainder, twin.cued_of_ne (htick ▸ h), twin.remainder_eq, twin.entered_eq,
        twin.world_eq]
    rw [exchange.filter_cues_of_ne h, ← hlines] at hlines'
    exact Frame.eq_of_parts hother hsnapshot hevents hlines' hdigest
  · intro h
    rw [hlines, hlines', h, exchange.filter_cues, ← exchange.tick_swap, exchange.swap.filter_cues]
    exact ⟨rfl, rfl⟩
  · intro h
    have hcued : engine.cued.2 = exchange.due.flatMap (Script.Cue.group level) := by
      rw [cued, Mission.cuesAt, twin.cues_eq, ← htick, h, exchange.filter_cues, htold]
    have hcued' : other.cued.2 = exchange.swap.due.flatMap (Script.Cue.group level) := by
      rw [cued, twin.cuesAt_eq, twin.world_eq, ← htick, h, ← exchange.tick_swap,
        exchange.swap.filter_cues, htold]
    refine ⟨engine.entered, engine.remainder, ?_, ?_, line?_remainder labelled⟩
    · rw [events_scene, entries, occurrences_eq_remainder, hcued, htick]
    · rw [events_scene, entries, occurrences_eq_remainder, hcued', twin.remainder_eq, twin.entered_eq,
        twin.world_eq, htick]

end Engine.Twin

theorem Mission.exchanged (mission : Mission) {exchange : Script.Exchange}
    (cues : mission.cues = exchange.cues) :
    (RunResult.ofEngine (mission.after mission.duration)).Exchanged mission.level exchange
      (RunResult.ofEngine ((mission.withCues exchange.swap.cues).after
        (mission.withCues exchange.swap.cues).duration)) := by
  let other := mission.withCues exchange.swap.cues
  have lockstep : Lockstep (Engine.Twin exchange) mission other := lockstep_exchange cues
  have houtcome := congrArg World.outcome lockstep.final.world_eq
  constructor
  · exact houtcome
  · exact congrArg World.tick lockstep.final.world_eq
  · rw [RunResult.tickLimit_ofEngine, RunResult.tickLimit_ofEngine, mission_after, mission_after]
    rfl
  · apply (lockstep.failureSummary_eq houtcome.symm _).symm
    intro step _
    rw [Engine.filter_telling_occurrences, Engine.filter_telling_occurrences,
      (lockstep.after step).remainder_eq]
  · apply lockstep.frames
    intro step _
    exact (lockstep.after step).scene (mission.labelled_after step) (mission.types_after step)
  · exact mission.log_eq_frames
  · exact other.log_eq_frames

/-- If two cues of one tick, of which one comes right after the other on that tick, do not name one
device, then a run with the two in each other's place is the same run, but for the order in which that
tick lists the two lines and enters what they tell. -/
theorem simulate_exchanged (level : Level) (config : Config) (exchange : Script.Exchange) :
    (simulate level exchange.cues config).Exchanged level exchange
      (simulate level exchange.swap.cues config) := by
  rw [RunResult.simulate_eq, RunResult.simulate_eq]
  exact (Mission.of level exchange.cues config).exchanged rfl

/-- The door of the corridor opens right before a message. -/
def gateExchange : Script.Exchange where
  front := [{ tick := 0, line := 1, raw := "", command := .wait 1 }]
  first := { tick := 1, line := 2, raw := "", command := .openDoor "gate" }
  middle := [{ tick := 2, line := 4, raw := "", command := .closeDoor "gate" }]
  second := { tick := 1, line := 3, raw := "", command := .log "now" }
  back := []
  same_tick := rfl
  consecutive := by decide
  apart := by simp [Script.Command.device?]

/-- The run tells of the message before it tells of the door. -/
theorem simulate_corridor_exchanged :
    (simulate corridor gateExchange.cues { storeDigests := false }).Exchanged corridor gateExchange
        (simulate corridor gateExchange.swap.cues { storeDigests := false }) ∧
      (simulate corridor gateExchange.cues { storeDigests := false }).outcome = .success ∧
      (simulate corridor gateExchange.cues { storeDigests := false }).events.map Event.kind =
        [.scriptLineExecuted, .playerBlockedByDoor, .scriptLineExecuted, .doorOpened,
          .scriptLineExecuted, .log, .playerReachedExit] ∧
      (simulate corridor gateExchange.swap.cues { storeDigests := false }).events.map Event.kind =
        [.scriptLineExecuted, .playerBlockedByDoor, .scriptLineExecuted, .log,
          .scriptLineExecuted, .doorOpened, .playerReachedExit] :=
  ⟨simulate_exchanged corridor { storeDigests := false } gateExchange, by decide +kernel,
    by decide +kernel, by decide +kernel⟩

end Infiltration
