import Infiltration.Proofs.Level
import Infiltration.Proofs.Run.Causality
import Infiltration.Proofs.Run.Parts
import Infiltration.Proofs.Run.WellFormed
import Infiltration.Proofs.Tick.Escalation
import Mathlib.Data.List.Forall2

/-! # What provokes the red alarm

Where the alarm starts green, a lockdown or an act of a turret that waits for red has a history: a
camera reported the player, then the alarm turned yellow, then red. A player whom no camera reports
is safe from all of these. -/

namespace Infiltration

/-! ## Reading events -/

namespace Event

/-- A camera reports the player. -/
def IsSighting (event : Event) : Prop := event.kind = .cameraDetectedPlayer

def IsAlarmChange (old new : AlarmLevel) (event : Event) : Prop :=
  event.kind = .alarmStateChanged ∧ event.text? "from" = some old.name ∧
    event.text? "to" = some new.name

/-- The alarm closes a door. -/
def IsLockdown (event : Event) : Prop :=
  event.kind = .doorClosed ∧ event.text? "reason" = some "alarm_lockdown"

/-- A turret locks on a target, fires, kills the player or destroys a drone. -/
def IsActOf (turret : String) (event : Event) : Prop :=
  event.kind ∈ [.turretTargetLock, .turretFired, .playerKilled, .droneDestroyed] ∧
    event.text? "turretId" = some turret

instance (event : Event) : Decidable event.IsLockdown := inferInstanceAs (Decidable (_ ∧ _))

instance (turret : String) (event : Event) : Decidable (event.IsActOf turret) :=
  inferInstanceAs (Decidable (_ ∧ _))

end Event

/-- The turret of this id may engage only while the alarm is red. -/
def Level.WaitsForRed (level : Level) (turret : String) : Prop :=
  (World.start level).devices.part? turret Device.trigger? = some .red

instance (level : Level) (turret : String) : Decidable (level.WaitsForRed turret) :=
  inferInstanceAs (Decidable (_ = _))

/-- A lockdown, or an act of a turret that waits for red. -/
def Event.NeedsRed (level : Level) (event : Event) : Prop :=
  event.IsLockdown ∨ ∃ turret, level.WaitsForRed turret ∧ event.IsActOf turret

/-- How red-gated events come about: all that must come before one of them is there, in its order; the
frame of its tick shows a red alarm; and a player who is never reported never causes one. Event
numbers are words, so they order the events as long as these are fewer than there are words. -/
structure RunResult.RedProvoked (level : Level) (result : RunResult) : Prop where
  provoked : ∀ front event back, result.events = front ++ event :: back → event.NeedsRed level →
    ∃ sighting alert alarm, [sighting, alert, alarm].Sublist front ∧ sighting.IsSighting ∧
      alert.IsAlarmChange .green .yellow ∧ alarm.IsAlarmChange .yellow .red ∧
        (result.events.length < UInt64.size →
          sighting.id < alert.id ∧ alert.id < alarm.id ∧ alarm.id < event.id)
  red : ∀ event ∈ result.events, event.NeedsRed level → ∃ frame,
    result.frameAt? event.tick = some frame ∧ event ∈ frame.events ∧
      frame.snapshot.alarmLevel = .red
  unseen : (∀ event ∈ result.events, ¬event.IsSighting) →
    (∀ frame ∈ result.frames, frame.snapshot.alarmLevel = .green) ∧
      ∀ event ∈ result.events, ¬event.NeedsRed level

/-! ### Entries of occurrences -/

namespace Occurrence

variable (occurrence : Occurrence) (id tick : UInt64)

theorem isLockdown_event :
    (occurrence.event id tick).IsLockdown ↔ ∃ door, occurrence.lockedDoor? = some door := by
  cases occurrence <;>
    simp [Event.IsLockdown, lockedDoor?, event, kind, facts, Event.text?, Payload.text?,
      Payload.ofList, Payload.get?_insert_of_ne, Fact.text?]

theorem isActOf_event (turret : String) :
    (occurrence.event id tick).IsActOf turret ↔ occurrence.shooter? = some turret := by
  cases occurrence <;>
    simp [Event.IsActOf, shooter?, event, kind, facts, Event.text?, Payload.text?,
      Payload.ofList, Payload.get?_insert_of_ne, Fact.text?]

theorem isAlarmChange_event (old new : AlarmLevel) :
    ((alarmChanged old new).event id tick).IsAlarmChange old new := by
  simp [Event.IsAlarmChange, event, kind, facts, Event.text?, Payload.text?, Payload.ofList,
    Payload.get?_insert_of_ne, Fact.text?]

variable {occurrence} {level : Level}

theorem needsRed_event : (occurrence.event id tick).NeedsRed level ↔
    (∃ door, occurrence.lockedDoor? = some door) ∨
      ∃ turret, level.WaitsForRed turret ∧ occurrence.shooter? = some turret := by
  simp only [Event.NeedsRed, isLockdown_event, isActOf_event]

theorem Peaceful.not_needsRed (h : occurrence.Peaceful) :
    ¬(occurrence.event id tick).NeedsRed level := by
  simp [needsRed_event, h.1, h.2]

/-- In the world of a level a warranted act needs red only if the alarm is red. -/
theorem red_of_needsRed {world : World}
    (same : world.devices.view Device.trigger? = (World.start level).devices.view Device.trigger?)
    (warranted : Tick.Warranted world occurrence) (h : (occurrence.event id tick).NeedsRed level) :
    world.alarmLevel = .red := by
  obtain ⟨key, trigger, hshooter, hpart, hwarrant⟩ := warranted
  have hpeace : occurrence.lockedDoor? = none := by
    cases occurrence <;> simp_all [shooter?, lockedDoor?]
  simp only [needsRed_event, hpeace, hshooter, reduceCtorEq, exists_false, false_or,
    Option.some.injEq, exists_eq_right'] at h
  rw [Roster.part?_of_view_eq same, h, Option.some.injEq] at hpart
  exact hwarrant.resolve_left (by simp [← hpart])

end Occurrence

/-! ## Histories -/

/-- A log has events as asked for, in this order. -/
def Log.Tells (log : Log) (steps : List (Event → Prop)) : Prop :=
  List.SublistForall₂ (fun step event => step event) steps log

/-- What has to happen for an alarm that was green to come to a level. -/
def AlarmLevel.story : AlarmLevel → List (Event → Prop)
  | green => []
  | yellow => [Event.IsSighting, Event.IsAlarmChange .green .yellow]
  | red => [Event.IsSighting, Event.IsAlarmChange .green .yellow, Event.IsAlarmChange .yellow .red]

namespace Log

variable {level : Level} {before front back log : Log} {steps more : List (Event → Prop)}

theorem Tells.mono (h : front.Tells steps) (sub : front.Sublist log) : log.Tells steps := by
  obtain ⟨told, hsteps, hsub⟩ := List.sublistForall₂_iff.mp h
  exact List.sublistForall₂_iff.mpr ⟨told, hsteps, hsub.trans sub⟩

theorem Tells.append (h : front.Tells steps) (hmore : back.Tells more) :
    Tells (front ++ back) (steps ++ more) := by
  obtain ⟨told, hsteps, hsub⟩ := List.sublistForall₂_iff.mp h
  obtain ⟨told', hsteps', hsub'⟩ := List.sublistForall₂_iff.mp hmore
  exact List.sublistForall₂_iff.mpr ⟨told ++ told', List.rel_append hsteps hsteps', hsub.append hsub'⟩

theorem tells_singleton {step : Event → Prop} {event : Event} (member : event ∈ log)
    (h : step event) : log.Tells [step] :=
  List.sublistForall₂_iff.mpr ⟨[event], .cons h .nil, List.singleton_sublist.mpr member⟩

/-- Without a sighting only the story of a green alarm is told. -/
theorem Tells.eq_green {alarmLevel : AlarmLevel} (h : log.Tells alarmLevel.story)
    (unseen : ∀ event ∈ log, ¬event.IsSighting) : alarmLevel = .green := by
  obtain ⟨told, hsteps, hsub⟩ := List.sublistForall₂_iff.mp h
  cases alarmLevel with
  | green => rfl
  | yellow =>
      obtain - | ⟨hsighting, -⟩ := hsteps
      exact absurd hsighting (unseen _ (hsub.subset List.mem_cons_self))
  | red =>
      obtain - | ⟨hsighting, -⟩ := hsteps
      exact absurd hsighting (unseen _ (hsub.subset List.mem_cons_self))

theorem Tells.exists_of_red (h : log.Tells AlarmLevel.red.story) :
    ∃ sighting alert alarm, [sighting, alert, alarm].Sublist log ∧ sighting.IsSighting ∧
      alert.IsAlarmChange .green .yellow ∧ alarm.IsAlarmChange .yellow .red := by
  obtain ⟨told, hsteps, hsub⟩ := List.sublistForall₂_iff.mp h
  obtain - | ⟨hsighting, - | ⟨halert, - | ⟨halarm, ⟨⟩⟩⟩⟩ := hsteps
  exact ⟨_, _, _, hsub, hsighting, halert, halarm⟩

/-- Every red-gated event of a log stands where the alarm's whole story has been told. -/
def Justified (level : Level) (log : Log) : Prop :=
  ∀ front event back, log = front ++ event :: back → event.NeedsRed level →
    Tells front AlarmLevel.red.story

theorem Justified.append (h : Justified level front)
    (hback : ∀ event ∈ back, event.NeedsRed level → front.Tells AlarmLevel.red.story) :
    Justified level (front ++ back) := by
  intro first event last heq needs
  rcases List.append_eq_append_iff.mp heq with ⟨middle, rfl, hlast⟩ | ⟨middle, rfl, hlast⟩
  · exact (hback event (by simp [hlast]) needs).mono (List.sublist_append_left front middle)
  · cases middle with
    | nil =>
        obtain rfl : event :: last = back := hlast
        simpa using hback event List.mem_cons_self needs
    | cons other middle =>
        obtain ⟨rfl, -⟩ := List.cons.inj hlast
        exact h first event middle rfl needs

end Log

/-! ## One tick -/

section Tick

variable {level : Level} {before : Log} {entered : ℕ} {tick : UInt64} {occurrences : List Occurrence}

theorem not_needsRed_of_peaceful (peaceful : ∀ occurrence ∈ occurrences, occurrence.Peaceful) :
    ∀ event ∈ enterFrom entered tick occurrences, ¬event.NeedsRed level := by
  intro event member
  obtain ⟨occurrence, hmem, id, rfl⟩ := mem_enterFrom member
  exact (peaceful occurrence hmem).not_needsRed id tick

theorem Log.Justified.peace (h : Log.Justified level before)
    (peaceful : ∀ occurrence ∈ occurrences, occurrence.Peaceful) :
    Log.Justified level (before ++ enterFrom entered tick occurrences) :=
  h.append fun event member needs => absurd needs (not_needsRed_of_peaceful peaceful event member)

theorem event_mem_enterFrom (entered : ℕ) (tick : UInt64) {occurrence : Occurrence}
    (member : occurrence ∈ occurrences) :
    ∃ id, occurrence.event id tick ∈ enterFrom entered tick occurrences := by
  obtain ⟨place, hplace⟩ := List.mem_iff_getElem?.mp member
  exact ⟨_, List.mem_of_getElem? (by rw [getElem?_enterFrom, hplace, Option.map_some])⟩

/-- The alarm's changes go on with its story, and what comes after the last of them is justified. -/
theorem Tick.Escalation.tells {world next : World} (rise : Escalation world next occurrences)
    (entered : ℕ) (tick : UInt64) (told : before.Tells world.alarmLevel.story)
    (reported : world.sightings ≠ [] → before.Tells [Event.IsSighting])
    (justified : Log.Justified level before) :
    Log.Tells (before ++ enterFrom entered tick occurrences) next.alarmLevel.story ∧
      Log.Justified level (before ++ enterFrom entered tick occurrences) := by
  have hchange (old new entered) : Log.Tells (enterFrom entered tick [.alarmChanged old new])
      [Event.IsAlarmChange old new] :=
    Log.tells_singleton List.mem_cons_self (Occurrence.isAlarmChange_event _ _ old new)
  -- All that follows the change to red is justified by the story up to there.
  have hred {changes locks : Log} (story : Log.Tells (before ++ changes) AlarmLevel.red.story)
      (quiet : Log.Justified level (before ++ changes)) :
      Log.Tells (before ++ (changes ++ locks)) AlarmLevel.red.story ∧
        Log.Justified level (before ++ (changes ++ locks)) := by
    rw [← List.append_assoc]
    exact ⟨story.mono (List.sublist_append_left _ locks), quiet.append fun _ _ _ => story⟩
  cases rise with
  | none same => simpa [enterFrom, same] using ⟨told, justified⟩
  | toYellow calm seen yellow =>
      rw [yellow]
      exact ⟨(reported seen).append (hchange _ _ _), justified.peace (by simp)⟩
  | toRed locks alerted red =>
      rw [alerted] at told
      rw [red, ← List.singleton_append, enterFrom_append]
      exact hred (told.append (hchange _ _ _)) (justified.peace (by simp))
  | through locks calm seen red =>
      have hyellow := (reported seen).append (hchange .green .yellow entered)
      have hstory := hyellow.append (hchange .yellow .red (entered + 1))
      have hboth : Log.Justified level (before ++
          enterFrom entered tick [.alarmChanged .green .yellow, .alarmChanged .yellow .red]) :=
        justified.peace (by simp)
      rw [List.append_assoc] at hstory
      rw [red]
      exact hred hstory hboth

end Tick

namespace Engine

variable {engine : Engine}

theorem sighted_deeds (labelled : engine.world.devices.Labelled) :
    Deeds Stage.peaceful engine.world (engine.opened.2 ++ engine.sighted) engine.opened.1 :=
  (early_deeds labelled).mono fun _ early => ⟨early.1, early.2.1⟩

theorem departed_deeds :
    Deeds Stage.peaceful engine.engaged.1 engine.departed.2 engine.departed.1 :=
  late_deeds.mono (by simp [Stage.late, Stage.peaceful, Set.insert_subset_iff])

theorem alarmLevel_departed : engine.departed.1.alarmLevel = engine.escalated.1.alarmLevel :=
  (departed_deeds.alarmLevel_eq (by simp [Stage.peaceful])).trans
    (Tick.alarmLevel_of_turrets (Tick.runTurrets_deeds _))

theorem triggers_escalated (labelled : engine.world.devices.Labelled) :
    engine.escalated.1.devices.view Device.trigger? =
      engine.world.devices.view Device.trigger? := by
  have hopened := sighted_deeds labelled
  exact (Tick.escalate_deeds (hopened.labelled labelled)).triggers_eq.trans hopened.triggers_eq

theorem triggers_closed (labelled : engine.world.devices.Labelled) :
    engine.closed.1.devices.view Device.trigger? =
      engine.world.devices.view Device.trigger? :=
  (play_deeds labelled).triggers_eq

/-- What the log of a run that goes on accounts for: the level of the alarm, the cameras that were
watching, and every red-gated event that it has. -/
structure Accounted (engine : Engine) : Prop where
  alarm : engine.log.Tells engine.world.alarmLevel.story
  watching : engine.watching ≠ [] → engine.log.Tells [Event.IsSighting]
  acts : Log.Justified engine.mission.level engine.log
  triggers : engine.world.devices.view Device.trigger? =
    (World.start engine.mission.level).devices.view Device.trigger?

/-- The log when the alarm's turn comes. -/
def preface (engine : Engine) : Log :=
  engine.log ++ enterFrom engine.entered engine.world.tick (engine.opened.2 ++ engine.sighted)

theorem entries_departed : ∃ second third fourth,
    engine.log ++ engine.entries =
      engine.preface ++ enterFrom second engine.world.tick engine.escalated.2 ++
        enterFrom third engine.world.tick engine.engaged.2 ++
          enterFrom fourth engine.world.tick engine.departed.2 := by
  rw [entries, occurrences_departed, enterFrom_append, enterFrom_append, enterFrom_append,
    ← List.append_assoc, ← List.append_assoc, ← List.append_assoc]
  exact ⟨_, _, _, rfl⟩

namespace Accounted

variable (h : engine.Accounted) (labelled : engine.world.devices.Labelled)

include h

/-- A camera that sees the player has reported it, on this tick or on an earlier one. -/
theorem sighting_preface (seen : engine.opened.1.sightings ≠ []) :
    engine.preface.Tells [Event.IsSighting] := by
  by_cases watched : engine.watching = []
  · obtain ⟨camera, member⟩ := List.exists_mem_of_ne_nil _ seen
    have hreport : .playerDetected camera ∈ engine.opened.2 ++ engine.sighted := by
      simp [sighted, Tick.reportSightings, watched, member]
    obtain ⟨id, hevent⟩ := event_mem_enterFrom engine.entered engine.world.tick hreport
    exact Log.tells_singleton (List.mem_append_right _ hevent) rfl
  · exact (h.watching watched).mono (List.sublist_append_left _ _)

include labelled

theorem alarm_preface : engine.preface.Tells engine.opened.1.alarmLevel.story := by
  rw [(sighted_deeds labelled).alarmLevel_eq (by simp [Stage.peaceful])]
  exact h.alarm.mono (List.sublist_append_left _ _)

/-- A red-gated event shows that the tick ends with a red alarm. -/
theorem red_closed {event : Event} (member : event ∈ engine.entries)
    (needs : event.NeedsRed engine.mission.level) : engine.closed.1.alarmLevel = .red := by
  obtain ⟨occurrence, hmem, id, rfl⟩ := mem_enterFrom member
  have hviolent : ¬occurrence.Peaceful := fun peaceful =>
    peaceful.not_needsRed id engine.world.tick needs
  rw [world_departed, alarmLevel_departed]
  rw [occurrences_departed, List.mem_append, List.mem_append, List.mem_append] at hmem
  rcases hmem with ((hseen | hrisen) | hacted) | hgone
  · exact absurd ((sighted_deeds labelled).peaceful occurrence hseen) hviolent
  · exact (Tick.escalate_escalation _).red_of_mem hrisen hviolent
  · exact Occurrence.red_of_needsRed id _ ((triggers_escalated labelled).trans h.triggers)
      (Tick.runTurrets_told _ occurrence hacted) needs
  · exact absurd (departed_deeds.peaceful occurrence hgone) hviolent

/-- At the end of the tick the log accounts for the alarm and for every event of the tick. -/
theorem account_closed :
    Log.Tells (engine.log ++ engine.entries) engine.closed.1.alarmLevel.story ∧
      Log.Justified engine.mission.level (engine.log ++ engine.entries) := by
  obtain ⟨second, third, fourth, hentries⟩ := engine.entries_departed
  have hpreface : Log.Justified engine.mission.level engine.preface :=
    h.acts.peace (sighted_deeds labelled).peaceful
  obtain ⟨hstory, hrisen⟩ :=
    (Tick.escalate_escalation engine.opened.1).tells second engine.world.tick
      (h.alarm_preface labelled) h.sighting_preface hpreface
  have hacted : Log.Justified engine.mission.level
      (engine.preface ++ enterFrom second engine.world.tick engine.escalated.2 ++
        enterFrom third engine.world.tick engine.engaged.2) := by
    apply hrisen.append
    intro event member needs
    obtain ⟨occurrence, hmem, id, rfl⟩ := mem_enterFrom member
    have hred : engine.escalated.1.alarmLevel = .red :=
      Occurrence.red_of_needsRed id _ ((triggers_escalated labelled).trans h.triggers)
        (Tick.runTurrets_told _ occurrence hmem) needs
    exact hred ▸ hstory
  rw [hentries, world_departed, alarmLevel_departed]
  refine ⟨hstory.mono ?_, hacted.peace departed_deeds.peaceful⟩
  exact (List.sublist_append_left _ _).trans (List.sublist_append_left _ _)

theorem play : engine.play.Accounted := by
  obtain ⟨hstory, hacts⟩ := h.account_closed labelled
  have hdevices := Mission.devices_play engine
  refine ⟨?_, ?_, ?_, ?_⟩
  · rw [log_play, World.alarmLevel, hdevices]
    exact hstory
  · intro watched
    rw [log_play]
    obtain ⟨second, third, fourth, hentries⟩ := engine.entries_departed
    rw [hentries, List.append_assoc, List.append_assoc]
    exact (h.sighting_preface watched).mono (List.sublist_append_left _ _)
  · rw [log_play]
    exact hacts
  · rw [hdevices]
    exact (triggers_closed labelled).trans h.triggers

end Accounted

end Engine

/-! ## The whole run -/

namespace Mission

variable {mission : Mission} (calm : ∀ alarm ∈ mission.level.alarm?, alarm.level = .green)

include calm

theorem accounted_after (steps : ℕ) : (mission.after steps).Accounted := by
  apply mission.after_induction (P := Engine.Accounted)
  · have hgreen : (World.start mission.level).alarmLevel = .green := by
      cases halarm : mission.level.alarm? with
      | none => simp_all [World.alarmLevel, Roster.alarmLevel, Level.alarm?]
      | some alarm => simp_all [World.alarmLevel, Roster.alarmLevel, Level.alarm?]
    refine ⟨?_, fun watched => absurd rfl watched, ?_, rfl⟩
    · change Log.Tells [] (World.start mission.level).alarmLevel.story
      rw [hgreen]
      exact .nil
    · intro front event back heq
      simp [Engine.start, Engine.log] at heq
  · intro engine labelled h _
    exact h.play labelled

/-- The log that a run has when it has made a frame tells how the alarm came to the frame's level. -/
theorem story_scene {step : ℕ} (h : step < mission.duration) :
    Log.Tells (mission.after (step + 1)).log (mission.after step).scene.snapshot.alarmLevel.story := by
  rw [mission.after_succ_of_running (mission.running_of_lt h), Engine.log_play,
    Engine.alarmLevel_scene]
  exact ((accounted_after calm step).account_closed (mission.labelled_after step)).1

omit calm in
/-- What an event needs and its place in the log agree with the numbers of the log. -/
theorem ids_of_sublist {front back : Log} {event sighting alert alarm : Event}
    (heq : (mission.after mission.duration).log = front ++ event :: back)
    (sub : [sighting, alert, alarm].Sublist front)
    (few : (mission.after mission.duration).log.length < UInt64.size) :
    sighting.id < alert.id ∧ alert.id < alarm.id ∧ alarm.id < event.id := by
  have hsub : [sighting, alert, alarm, event].Sublist (mission.after mission.duration).log := by
    rw [heq]
    exact sub.append (List.singleton_sublist.mpr List.mem_cons_self)
  have hids := (mission.ids_increase few).sublist (hsub.map Event.id)
  simp only [List.map_cons, List.map_nil, List.pairwise_cons, List.mem_cons] at hids
  grind

theorem red_scene {event : Event} (member : event ∈ (mission.after mission.duration).log)
    (needs : event.NeedsRed mission.level) :
    ∃ frame, (RunResult.ofEngine (mission.after mission.duration)).frameAt? event.tick = some frame ∧
      event ∈ frame.events ∧ frame.snapshot.alarmLevel = .red := by
  rw [mission.log_after le_rfl] at member
  obtain ⟨step, hstep, member⟩ := List.mem_flatMap.mp member
  rw [List.mem_range] at hstep
  refine ⟨(mission.after step).scene, ?_, member, ?_⟩
  · rw [mission.frameAt?_duration, mission.tick_of_mem_entries hstep member,
      mission.getElem?_frames_eq_some hstep]
  · rw [Engine.alarmLevel_scene]
    apply (accounted_after calm step).red_closed (mission.labelled_after step) member
    rwa [mission_after]

theorem green_scene (unseen : ∀ event ∈ (mission.after mission.duration).log, ¬event.IsSighting)
    {frame : Frame} (member : frame ∈ (mission.after mission.duration).frames) :
    frame.snapshot.alarmLevel = .green := by
  obtain ⟨step, hframe⟩ := List.mem_iff_getElem?.mp member
  obtain ⟨hstep, rfl⟩ := mission.getElem?_frames hframe
  apply (story_scene calm hstep).eq_green
  intro event hevent
  obtain ⟨back, hlog, -⟩ := mission.log_split (Nat.succ_le_of_lt hstep) le_rfl
  exact unseen event (hlog ▸ List.mem_append_left back hevent)

theorem redProvoked_duration :
    (RunResult.ofEngine (mission.after mission.duration)).RedProvoked mission.level := by
  have hacts : Log.Justified mission.level (mission.after mission.duration).log := by
    have h := (accounted_after calm mission.duration).acts
    rwa [mission_after] at h
  refine ⟨?_, fun _ => red_scene calm, fun unseen => ⟨fun _ => green_scene calm unseen, ?_⟩⟩
  · intro front event back heq needs
    obtain ⟨sighting, alert, alarm, hsub, hsighting, halert, halarm⟩ :=
      (hacts front event back heq needs).exists_of_red
    exact ⟨sighting, alert, alarm, hsub, hsighting, halert, halarm, ids_of_sublist heq hsub⟩
  · intro event member needs
    obtain ⟨front, back, heq⟩ := List.append_of_mem member
    have hred := (hacts front event back heq needs).eq_green fun other hother =>
      unseen other (heq ▸ List.mem_append_left _ hother)
    cases hred

end Mission

/-- A run on a level whose alarm starts green has no red-gated event without a history, and each at a
red alarm. -/
theorem simulate_redProvoked (level : Level) (cues : List Script.Cue) (config : Config)
    (calm : ∀ alarm ∈ level.alarm?, alarm.level = .green) :
    (simulate level cues config).RedProvoked level := by
  have hcalm : ∀ alarm ∈ (Mission.of level cues config).level.alarm?, alarm.level = .green := calm
  rw [RunResult.simulate_eq]
  exact Mission.redProvoked_duration hcalm

/-- Two cells in sight of a camera. The alarm turns red at once, the door to the way out shuts, and the
turret that waits for red needs to hold the player for one tick only. -/
def vault : Level where
  id := "vault"
  map := { width := 2, height := 2 }
  entry := ⟨0, 0⟩
  exit := ⟨1, 0⟩
  playerPath := [⟨0, 0⟩, ⟨1, 0⟩]
  devices :=
    [.newCamera "eye" ⟨0, 1⟩ 2 .up, .newTurret "sentry" ⟨1, 1⟩ 3 1 .red,
      (Device.newDoor "gate" ⟨1, 0⟩ true).withLockdown, .newAlarm "bell" ⟨1, 1⟩ 0]
  networkScope := []
  constraints := { maxLines := 4, maxCommands := 4, maxDelay := 4, tickLimit := 3 }

theorem simulate_vault_provoked :
    (∀ alarm ∈ vault.alarm?, alarm.level = .green) ∧ vault.WaitsForRed "sentry" ∧
      (∃ event ∈ (simulate vault [] { storeDigests := false }).events, event.IsLockdown) ∧
      (∃ event ∈ (simulate vault [] { storeDigests := false }).events,
        event.kind = .playerKilled ∧ event.IsActOf "sentry") ∧
      (simulate vault [] { storeDigests := false }).RedProvoked vault := by
  have calm : ∀ alarm ∈ vault.alarm?, alarm.level = .green := by decide +kernel
  exact ⟨calm, by decide +kernel, by decide +kernel, by decide +kernel,
    simulate_redProvoked vault [] { storeDigests := false } calm⟩

end Infiltration
