import Infiltration.Proofs.Run.Lockstep
import Infiltration.Proofs.Run.Parts
import Infiltration.Proofs.Tick.Tags

/-! # Commands without influence

Messages, waits and tags leave a run as it is. Without some of them it takes the same course: the frames
show the same up to tags, and the log tells the same up to what it tells of these commands and of the
lines that are carried out. -/

namespace Infiltration

attribute [local irreducible] Mission.opening Mission.closing

/-- Events that tell that a line is carried out, or what a passive command has done. -/
def EventKind.note : EventKind → Bool
  | scriptLineExecuted | log | deviceTagged => true
  | _ => false

namespace Script

/-- The cues whose commands are not passive. -/
def active (cues : List Cue) : List Cue := cues.filter fun cue => !cue.command.passive

/-- Cues, and what is left of them without some of the passive ones. -/
inductive Pruned : List Cue → List Cue → Prop where
  | nil : Pruned [] []
  | keep (cue : Cue) {cues others : List Cue} (rest : Pruned cues others) :
      Pruned (cue :: cues) (cue :: others)
  | drop {cue : Cue} (passive : cue.command.passive = true) {cues others : List Cue}
      (rest : Pruned cues others) : Pruned (cue :: cues) others

theorem Pruned.active_eq {cues others : List Cue} (pruned : Pruned cues others) :
    active cues = active others := by
  induction pruned with
  | nil => rfl
  | keep cue rest ih =>
      simp only [active] at ih ⊢
      rw [List.filter_cons, List.filter_cons, ih]
  | drop passive rest ih =>
      rw [← ih, active, active, List.filter_cons_of_neg]
      simp [passive]

end Script

/-! ## The cues of one tick -/

/-- What was done, up to tags, and what was told, apart from notes. -/
def Tick.gist (done : World × List Occurrence) : World × List Occurrence :=
  (done.1.untagged, done.2.filter fun occurrence => !occurrence.kind.note)

namespace World

variable {world : World} {command : Script.Command}

/-- Passive commands tell only notes. -/
theorem note_of_mem_perform (passive : command.passive = true) {line : UInt32}
    {occurrence : Occurrence} (member : occurrence ∈ (world.perform line command).2) :
    occurrence.kind.note = true := by
  have told := mem_tale_of_mem_perform member
  cases command <;>
    simp_all [Script.Command.passive, Script.Command.tale, Occurrence.kind, EventKind.note]

end World

namespace Tick

theorem gist_runCues_cons (cue : Script.Cue) (cues : List Script.Cue) (world : World) :
    gist (runCues (cue :: cues) world) =
      ((gist (runCues cues (runCue cue world).1)).1,
        (gist (runCue cue world)).2 ++ (gist (runCues cues (runCue cue world).1)).2) := by
  simp only [runCues, List.map_cons, inOrder_cons, gist, List.filter_append]

/-- Passive cues do nothing but write tags, and tell nothing but notes. -/
theorem gist_runCues (cues : List Script.Cue) (world : World) :
    gist (runCues cues world) = gist (runCues (Script.active cues) world.untagged) := by
  -- The two worlds drift apart in tags with every passive cue, so the world is left open.
  induction cues generalizing world with
  | nil => exact congrArg (·, []) world.untagged_untagged.symm
  | cons cue rest ih =>
      rw [gist_runCues_cons, ih]
      cases passive : cue.command.passive with
      | true =>
          have hworld : (runCue cue world).1.untagged = world.untagged :=
            world.untagged_perform passive cue.line
          have htold : (gist (runCue cue world)).2 = [] := by
            apply List.filter_eq_nil_iff.mpr
            intro occurrence member
            rcases List.mem_cons.mp member with rfl | member
            · simp [Occurrence.kind, EventKind.note]
            · simp [World.note_of_mem_perform passive member]
          have hactive : Script.active (cue :: rest) = Script.active rest :=
            List.filter_cons_of_neg (by simp [passive])
          rw [hworld, htold, hactive]
          rfl
      | false =>
          have hactive : Script.active (cue :: rest) = cue :: Script.active rest :=
            List.filter_cons_of_pos (by simp [passive])
          rw [hactive, gist_runCues_cons, tagBlind_runCue passive world]
          rfl

/-- What a phase that reads no tags does to worlds that differ in tags. -/
theorem TagBlind.congr {phase : Phase} (blind : TagBlind phase) {a b : World}
    (h : a.untagged = b.untagged) :
    (phase a).1.untagged = (phase b).1.untagged ∧ (phase a).2 = (phase b).2 := by
  have heq := (blind a).symm.trans ((congrArg phase h).trans (blind b))
  exact Prod.mk.inj heq

end Tick

/-! ## Engines in lockstep -/

namespace Engine

/-- Engines that may differ in passive cues, in tags, and in what they have recorded. -/
structure Alike (engine other : Engine) : Prop where
  level_eq : engine.mission.level = other.mission.level
  limit_eq : engine.mission.limit = other.mission.limit
  active_eq : Script.active engine.mission.cues = Script.active other.mission.cues
  world_eq : engine.world.untagged = other.world.untagged
  watching_eq : engine.watching = other.watching

namespace Alike

variable {engine other : Engine} (alike : Alike engine other)

include alike

theorem tick_eq : engine.world.tick = other.world.tick := by
  have h := congrArg World.tick alike.world_eq
  exact h

theorem gist_cued : Tick.gist engine.cued = Tick.gist other.cued := by
  have hactive (cues : List Script.Cue) (tick : UInt64) :
      Script.active (cues.filter fun cue => cue.tick = tick) =
        (Script.active cues).filter fun cue => cue.tick = tick := by
    rw [Script.active, Script.active, List.filter_comm]
  rw [cued, cued, Tick.gist_runCues, Tick.gist_runCues (other.mission.cuesAt _), Mission.cuesAt,
    Mission.cuesAt, hactive, hactive, alike.active_eq, alike.world_eq, alike.tick_eq]

theorem cued_eq : engine.cued.1.untagged = other.cued.1.untagged :=
  congrArg Prod.fst alike.gist_cued

theorem sightings_eq : engine.opened.1.sightings = other.opened.1.sightings := by
  have hwoken := (Tick.tagBlind_wakeCameras.congr alike.cued_eq).1
  have hmoved := (Tick.tagBlind_moveDrones.congr hwoken).1
  have h := congrArg World.sightings hmoved
  rw [World.sightings_untagged, World.sightings_untagged] at h
  rwa [world_opened, world_opened]

theorem stirred_eq :
    engine.stirred.1.untagged = other.stirred.1.untagged ∧ engine.stirred.2 = other.stirred.2 := by
  rw [stirred, stirred, ← alike.watching_eq]
  apply Tick.TagBlind.congr _ alike.cued_eq
  apply Tick.tagBlind_inOrder
  intro phase member
  simp only [List.mem_cons, List.not_mem_nil, or_false] at member
  rcases member with rfl | rfl | rfl | rfl | rfl
  · exact Tick.tagBlind_wakeCameras
  · exact Tick.tagBlind_moveDrones
  · exact Tick.tagBlind_reportSightings _
  · exact Tick.tagBlind_escalate
  · exact Tick.tagBlind_runTurrets

theorem walked_eq :
    engine.walked.1.untagged = other.walked.1.untagged ∧ engine.walked.2 = other.walked.2 := by
  rw [walked, walked, ← alike.level_eq]
  exact (Tick.tagBlind_walk _).congr alike.stirred_eq.1

theorem closed_eq : engine.closed.1.untagged = other.closed.1.untagged := by
  rw [world_closed, world_closed]
  exact alike.walked_eq.1

/-- Apart from notes the ticks tell the same. -/
theorem told_eq :
    (engine.occurrences.filter fun occurrence => !occurrence.kind.note) =
      other.occurrences.filter fun occurrence => !occurrence.kind.note := by
  have hcued := congrArg Prod.snd alike.gist_cued
  have hclock : (Tick.timeOut engine.mission.limit engine.walked.1).2 =
      (Tick.timeOut other.mission.limit other.walked.1).2 := by
    rw [← alike.limit_eq]
    exact ((Tick.tagBlind_timeOut _).congr alike.walked_eq.1).2
  simp only [Tick.gist] at hcued
  simp only [occurrences_eq, List.filter_append, hcued, alike.stirred_eq.2, alike.walked_eq.2, hclock]

end Alike

end Engine

namespace Mission

theorem untagged_settle (mission : Mission) (world : World) :
    (mission.settle world).untagged = mission.settle world.untagged := by
  have hverdict : mission.verdict world.untagged = mission.verdict world := rfl
  rw [settle, settle, hverdict]
  split <;> rfl

theorem settle_congr {mission other : Mission} (h : mission.limit = other.limit) (world : World) :
    mission.settle world = other.settle world := by
  simp only [settle, verdict, h]

theorem lockstep_of_active {mission other : Mission} (level : mission.level = other.level)
    (limit : mission.limit = other.limit)
    (active : Script.active mission.cues = Script.active other.cues) :
    Lockstep Engine.Alike mission other where
  start := ⟨level, limit, active, by simp [Engine.start, level], rfl⟩
  finished := by
    intro a b alike
    have h := congrArg World.decided alike.world_eq
    exact h
  play := by
    intro a b alike _
    refine ⟨alike.level_eq, alike.limit_eq, alike.active_eq, ?_, alike.sightings_eq⟩
    rw [Engine.world_play, Engine.world_play, untagged_settle, untagged_settle, alike.closed_eq,
      settle_congr alike.limit_eq]

end Mission

/-! ## Whole runs -/

def Snapshot.untagged (snapshot : Snapshot) : Snapshot :=
  { snapshot with devices := snapshot.devices.untagged }

/-- The events apart from notes, without their numbers. -/
def Log.bareDeeds (log : Log) : List Event := log.bare fun kind => !kind.note

/-- Frames of the same tick that show the same up to tags, and tell the same apart from notes. -/
structure Frame.SameCourse (frame other : Frame) : Prop where
  tick_eq : frame.tick = other.tick
  snapshot_eq : frame.snapshot.untagged = other.snapshot.untagged
  events_eq : Log.bareDeeds frame.events = Log.bareDeeds other.events

/-- Results of runs that differ in nothing but tags and notes. -/
structure RunResult.SameCourse (result other : RunResult) : Prop where
  outcome_eq : result.outcome = other.outcome
  finalTick_eq : result.finalTick = other.finalTick
  length_eq : result.frames.length = other.frames.length
  frames : List.Forall₂ Frame.SameCourse result.frames other.frames
  events_eq : result.events.bareDeeds = other.events.bareDeeds
  failureSummary_eq : result.failureSummary = other.failureSummary

namespace Engine.Alike

theorem scene {engine other : Engine} (alike : Alike engine other) :
    engine.scene.SameCourse other.scene where
  tick_eq := by
    have h := congrArg World.tick alike.closed_eq
    exact h
  snapshot_eq := by
    have hlevel := congrArg World.alarmLevel alike.closed_eq
    rw [World.alarmLevel_untagged, World.alarmLevel_untagged] at hlevel
    have hsnapshot (world : World) : (Snapshot.ofWorld world).untagged =
        { Snapshot.ofWorld world.untagged with alarmLevel := world.alarmLevel } := rfl
    change (Snapshot.ofWorld engine.closed.1).untagged = (Snapshot.ofWorld other.closed.1).untagged
    rw [hsnapshot, hsnapshot, alike.closed_eq, hlevel]
  events_eq := by
    rw [events_scene, events_scene, entries, entries, Log.bareDeeds, Log.bareDeeds, Log.bare_enterFrom,
      Log.bare_enterFrom, alike.told_eq, alike.tick_eq]

end Engine.Alike

/-- What a failure is told from is not a note. -/
theorem Occurrence.filter_telling (occurrences : List Occurrence) :
    (occurrences.filter fun occurrence => occurrence.kind.telling) =
      (occurrences.filter fun occurrence => !occurrence.kind.note).filter
        fun occurrence => occurrence.kind.telling := by
  rw [List.filter_filter]
  congr 1
  funext occurrence
  cases occurrence.kind <;> rfl

theorem Mission.sameCourse_of_active {mission other : Mission} (level : mission.level = other.level)
    (limit : mission.limit = other.limit)
    (active : Script.active mission.cues = Script.active other.cues) :
    (RunResult.ofEngine (mission.after mission.duration)).SameCourse
      (RunResult.ofEngine (other.after other.duration)) := by
  have lockstep := lockstep_of_active level limit active
  have houtcome := congrArg World.outcome lockstep.final.world_eq
  rw [World.outcome_untagged, World.outcome_untagged] at houtcome
  have hframes := lockstep.frames fun step _ => (lockstep.after step).scene
  refine ⟨houtcome, lockstep.final.tick_eq, hframes.length_eq, hframes, ?_, ?_⟩
  · exact lockstep.bare_log fun step _ => (lockstep.after step).told_eq
  · apply lockstep.failureSummary_eq houtcome
    intro step _
    rw [Occurrence.filter_telling, (lockstep.after step).told_eq, ← Occurrence.filter_telling]

/-- Without some of its messages, waits and tags a run takes the same course. -/
theorem simulate_pruned (level : Level) (config : Config) {cues others : List Script.Cue}
    (pruned : Script.Pruned cues others) :
    (simulate level cues config).SameCourse (simulate level others config) := by
  rw [RunResult.simulate_eq, RunResult.simulate_eq]
  exact Mission.sameCourse_of_active rfl rfl pruned.active_eq

/-- The door of the corridor opens among a message and a tag. -/
def notedCues : List Script.Cue :=
  [{ tick := 0, line := 1, raw := "", command := .wait 1 },
    { tick := 1, line := 2, raw := "", command := .log "now" },
    { tick := 1, line := 3, raw := "", command := .openDoor "gate" },
    { tick := 1, line := 4, raw := "", command := .tagDevice "gate" "mine" }]

/-- The door opens, and the message stays. -/
def tersedCues : List Script.Cue :=
  [{ tick := 1, line := 2, raw := "", command := .log "now" },
    { tick := 1, line := 3, raw := "", command := .openDoor "gate" }]

/-- The tag shows in the snapshots, and in nothing else but the notes. -/
theorem simulate_corridor_pruned :
    Script.Pruned notedCues tersedCues ∧
      (simulate corridor notedCues { storeDigests := false }).SameCourse
        (simulate corridor tersedCues { storeDigests := false }) ∧
      (simulate corridor notedCues { storeDigests := false }).outcome = .success ∧
      (simulate corridor notedCues { storeDigests := false }).frames.map Frame.snapshot ≠
        (simulate corridor tersedCues { storeDigests := false }).frames.map Frame.snapshot := by
  have pruned : Script.Pruned notedCues tersedCues :=
    .drop rfl (.keep _ (.keep _ (.drop rfl .nil)))
  exact ⟨pruned, simulate_pruned corridor { storeDigests := false } pruned, by decide +kernel,
    by decide +kernel⟩

end Infiltration
