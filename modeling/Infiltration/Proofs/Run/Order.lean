import Infiltration.Proofs.Run.Detection
import Infiltration.Proofs.Run.LastSwitch
import Infiltration.Proofs.Run.Lock
import Infiltration.Proofs.Run.Lockdown
import Infiltration.Proofs.Script.Execution
import Infiltration.Proofs.Tick.Orders
import Mathlib.Data.List.Nodup

/-! # The order of the events of a tick

The phases of a tick tell one after the other: the script lines, the cameras that come back, the cameras
that report the player, the alarm with the doors that it closes, the turrets, the player and the clock.
Within a phase the devices tell in their order, each once at most. -/

namespace Infiltration

attribute [local irreducible] Mission.opening Mission.closing

/-! ## Parts of a log -/

/-- A device acts once or not at all. -/
inductive Log.AtMostOnce (Acts : String → Event → Prop) (key : String) : Log → Prop where
  | idle : AtMostOnce Acts key []
  | once {event} (acts : Acts key event) : AtMostOnce Acts key [event]

/-- A turret may lock on a target, and may fire at it and hit it. -/
inductive Log.Round (turret : String) : Log → Prop where
  | idle : Round turret []
  | lock {lock target} (locked : lock.IsLock turret target) : Round turret [lock]
  | fire {shot hit target} (fired : shot.IsShot turret target) (struck : hit.IsHit turret target) :
      Round turret [shot, hit]
  | lockAndFire {lock shot hit target} (locked : lock.IsLock turret target)
      (fired : shot.IsShot turret target) (struck : hit.IsHit turret target) :
      Round turret [lock, shot, hit]

/-- A line of a script is announced. -/
structure Event.Announces (cue : Script.Cue) (event : Event) : Prop where
  kind : event.kind = .scriptLineExecuted
  line : event.line = some cue.line
  command : event.text? "kind" = some cue.command.label

/-- A cue has its effect. -/
structure Event.Effects (cue : Script.Cue) (event : Event) : Prop where
  kind : cue.command.effect? = some event.kind
  line : event.line = some cue.line

/-- A cue is announced, and right after that it has its effect or none. -/
inductive Script.Cue.Told (cue : Cue) : Log → Prop where
  | idle {announcement} (announced : announcement.Announces cue) : Told cue [announcement]
  | effective {announcement effect} (announced : announcement.Announces cue)
      (effected : effect.Effects cue) : Told cue [announcement, effect]

/-! ## The chronicle of a tick -/

/-- The events of a tick, phase by phase. -/
structure Chronicle where
  scripted : Log
  returns : Log
  sightings : Log
  changes : Log
  lockdowns : Log
  rounds : Log
  stride : Log
  clock : Log

/-- What no script line has told. -/
def Chronicle.lineless (chronicle : Chronicle) : Log :=
  chronicle.returns ++ chronicle.sightings ++ (chronicle.changes ++ chronicle.lockdowns) ++
    chronicle.rounds ++ (chronicle.stride ++ chronicle.clock)

def Chronicle.log (chronicle : Chronicle) : Log := chronicle.scripted ++ chronicle.lineless

/-- Every phase tells what belongs to it, in the order of the cues or of the devices. -/
structure Chronicle.Ordered (cues : List Script.Cue) (order : List String) (chronicle : Chronicle) :
    Prop where
  scripted : chronicle.scripted.InParts Script.Cue.Told cues
  returns : chronicle.returns.InParts (Log.AtMostOnce Event.IsReturn) order
  sightings : chronicle.sightings.InParts (Log.AtMostOnce Event.IsDetection) order
  changes : ∀ event ∈ chronicle.changes, event.kind = .alarmStateChanged
  lockdowns : chronicle.lockdowns.InParts (Log.AtMostOnce Event.IsLockdownOf) order
  red : chronicle.lockdowns ≠ [] →
    ∃ event ∈ chronicle.changes.getLast?, event.IsAlarmChange .yellow .red
  rounds : chronicle.rounds.InParts Log.Round order
  stride : chronicle.stride.length ≤ 1 ∧ ∀ event ∈ chronicle.stride,
    event.kind = .playerBlockedByDoor ∨ event.kind = .playerReachedExit
  clock : chronicle.clock.length ≤ 1 ∧ ∀ event ∈ chronicle.clock, event.kind = .runTimeout
  lineless : ∀ event ∈ chronicle.lineless, event.line = none

/-! ## What a device does by itself -/

/-- What a device does by itself, and once in a tick at most. -/
inductive Act where
  | returns
  | detects
  | closes
  | locks
  | fires
  deriving DecidableEq

/-- What a device has done by itself, and which. -/
def Event.act? (event : Event) : Option (Act × String) :=
  match event.line, event.kind with
  | none, .deviceEnabled => (event.text? "deviceId").map fun key => (.returns, key)
  | none, .cameraDetectedPlayer => (event.text? "cameraId").map fun key => (.detects, key)
  | none, .doorClosed => (event.text? "doorId").map fun key => (.closes, key)
  | none, .turretTargetLock => (event.text? "turretId").map fun key => (.locks, key)
  | none, .turretFired => (event.text? "turretId").map fun key => (.fires, key)
  | _, _ => none

namespace Act

/-- What a turret may do in its round. -/
def round (turret : String) : List (Act × String) := [(locks, turret), (fires, turret)]

/-- What the devices may do in a tick, in their order. -/
def all (order : List String) : List (Act × String) :=
  order.map (Prod.mk returns) ++ order.map (Prod.mk detects) ++ order.map (Prod.mk closes) ++
    order.flatMap round

theorem nodup_all {order : List String} (distinct : order.Nodup) : (all order).Nodup := by
  have each (act : Act) : (order.map (Prod.mk act)).Nodup :=
    distinct.map fun _ _ h => (Prod.mk.inj h).2
  have rounds : (order.flatMap round).Nodup := by
    rw [List.nodup_flatMap]
    refine ⟨fun key _ => by simp [round], distinct.imp fun {first second} apart => ?_⟩
    simp [Function.onFun, round, List.Disjoint, apart]
  simp only [all, List.nodup_append, each, rounds, true_and, List.mem_append, List.mem_map,
    List.mem_flatMap, round, List.mem_cons, List.not_mem_nil, or_false]
  refine ⟨⟨?_, ?_⟩, ?_⟩
  · rintro _ ⟨key, -, rfl⟩ _ ⟨other, -, rfl⟩ h
    cases h
  · rintro _ (⟨key, -, rfl⟩ | ⟨key, -, rfl⟩) _ ⟨other, -, rfl⟩ h <;> cases h
  · rintro _ ((⟨key, -, rfl⟩ | ⟨key, -, rfl⟩) | ⟨key, -, rfl⟩) _ ⟨other, -, rfl | rfl⟩ h <;> cases h

end Act

/-- The events of a frame make up a chronicle of its cues and its devices, and no device does the same
thing twice by itself. -/
structure Frame.Ordered (cues : List Script.Cue) (frame : Frame) : Prop where
  chronicle : ∃ chronicle : Chronicle, frame.events = chronicle.log ∧
    chronicle.Ordered (cues.filter fun cue => cue.tick = frame.tick) frame.snapshot.devices.keys
  once : (frame.events.filterMap Event.act?).Nodup

def RunResult.Ordered (cues : List Script.Cue) (result : RunResult) : Prop :=
  ∀ frame ∈ result.frames, frame.Ordered cues

namespace Event

variable {event : Event} {key target : String}

theorem act?_of_line {line : UInt32} (h : event.line = some line) : event.act? = none := by
  simp [act?, h]

theorem act?_return (h : event.IsReturn key) : event.act? = some (.returns, key) := by
  simp [act?, h.1, h.2.1, h.2.2]

variable (lineless : event.line = none)

include lineless

theorem act?_detection (h : event.IsDetection key) : event.act? = some (.detects, key) := by
  simp [act?, lineless, h.1, h.2]

theorem act?_lockdown (h : event.IsLockdownOf key) : event.act? = some (.closes, key) := by
  simp [act?, lineless, h.1.1, h.2]

theorem act?_lock (h : event.IsLock key target) : event.act? = some (.locks, key) := by
  simp [act?, lineless, h.1, h.2.1]

theorem act?_shot (h : event.IsShot key target) : event.act? = some (.fires, key) := by
  simp [act?, lineless, h.1, h.2.1]

omit lineless in
theorem act?_hit (h : event.IsHit key target) : event.act? = none := by
  rcases Log.Volleys.kind_hit h with h | h <;> simp [act?, h]

end Event

namespace Log.InParts

variable {Tells : String → Log → Prop} {order : List String} {log : Log}

theorem idle {Acts : String → Event → Prop} (order : List String) :
    InParts (AtMostOnce Acts) order [] := by
  induction order with
  | nil => exact .nil
  | cons key rest ih => exact .cons .idle ih

/-- What the devices do in their parts they do in their order. -/
theorem acts_sublist (parts : log.InParts Tells order) (acts : String → List (Act × String))
    (each : ∀ key part, (∀ event ∈ part, event.line = none) → Tells key part →
      (part.filterMap Event.act?).Sublist (acts key))
    (lineless : ∀ event ∈ log, event.line = none) :
    (log.filterMap Event.act?).Sublist (order.flatMap acts) := by
  induction parts with
  | nil => exact List.Sublist.refl []
  | cons told _ ih =>
      rw [List.filterMap_append, List.flatMap_cons]
      exact (each _ _ (fun event member => lineless event (List.mem_append_left _ member)) told).append
        (ih fun event member => lineless event (List.mem_append_right _ member))

/-- Where each device acts once at most, they act in their order. -/
theorem once_sublist {Acts : String → Event → Prop} (parts : log.InParts (AtMostOnce Acts) order)
    (act : Act) (each : ∀ key event, event.line = none → Acts key event →
      event.act? = some (act, key)) (lineless : ∀ event ∈ log, event.line = none) :
    (log.filterMap Event.act?).Sublist (order.map (Prod.mk act)) := by
  rw [List.map_eq_flatMap]
  refine parts.acts_sublist (fun key => [(act, key)]) ?_ lineless
  rintro key _ hline (_ | @⟨event, acts⟩)
  · exact List.nil_sublist _
  · rw [List.filterMap_cons, each key event (hline event List.mem_cons_self) acts]
    exact List.Sublist.refl _

theorem rounds_sublist (parts : log.InParts Round order)
    (lineless : ∀ event ∈ log, event.line = none) :
    (log.filterMap Event.act?).Sublist (order.flatMap Act.round) := by
  refine parts.acts_sublist Act.round ?_ lineless
  intro key part hline round
  cases round with
  | idle => exact List.nil_sublist _
  | lock locked => simp [Event.act?_lock (by simpa using hline) locked, Act.round]
  | fire fired struck =>
      simp only [List.mem_cons, List.not_mem_nil, or_false, forall_eq_or_imp, forall_eq] at hline
      simp [Event.act?_shot hline.1 fired, Event.act?_hit struck, Act.round]
  | lockAndFire locked fired struck =>
      simp only [List.mem_cons, List.not_mem_nil, or_false, forall_eq_or_imp, forall_eq] at hline
      simp [Event.act?_lock hline.1 locked, Event.act?_shot hline.2.1 fired, Event.act?_hit struck,
        Act.round]

end Log.InParts

namespace Chronicle.Ordered

variable {cues : List Script.Cue} {order : List String} {chronicle : Chronicle}

/-- What script lines tell is nothing that a device has done by itself. -/
theorem acts_scripted {log : Log} (parts : log.InParts Script.Cue.Told cues) :
    log.filterMap Event.act? = [] := by
  induction parts with
  | nil => rfl
  | cons told _ ih =>
      rw [List.filterMap_append, ih, List.append_nil]
      cases told with
      | idle announced => simp [Event.act?_of_line announced.line]
      | effective announced effected =>
          simp [Event.act?_of_line announced.line, Event.act?_of_line effected.line]

theorem acts_of_kind {log : Log} (idle : ∀ event ∈ log, event.kind ∈
    [.alarmStateChanged, .playerBlockedByDoor, .playerReachedExit, .runTimeout]) :
    log.filterMap Event.act? = [] := by
  rw [List.filterMap_eq_nil_iff]
  intro event member
  have kind := idle event member
  simp only [List.mem_cons, List.not_mem_nil, or_false] at kind
  rcases kind with kind | kind | kind | kind <;> cases h : event.line <;> simp [Event.act?, kind, h]

/-- No device does the same thing twice. -/
theorem once (ordered : chronicle.Ordered cues order) (distinct : order.Nodup) :
    (chronicle.log.filterMap Event.act?).Nodup := by
  obtain ⟨hscripted, hreturns, hsightings, hchanges, hlockdowns, -, hrounds, ⟨-, hstride⟩,
    ⟨-, hclock⟩, hline⟩ := ordered
  simp only [Chronicle.lineless, List.mem_append, or_imp, forall_and] at hline
  obtain ⟨⟨⟨⟨hline₁, hline₂⟩, -, hline₃⟩, hline₄⟩, -⟩ := hline
  have returns := hreturns.once_sublist .returns (fun _ _ _ => Event.act?_return) hline₁
  have sightings := hsightings.once_sublist .detects (fun _ _ => Event.act?_detection) hline₂
  have lockdowns := hlockdowns.once_sublist .closes (fun _ _ => Event.act?_lockdown) hline₃
  have rounds := hrounds.rounds_sublist hline₄
  have changes : chronicle.changes.filterMap Event.act? = [] :=
    acts_of_kind fun event member => by simp [hchanges event member]
  have stride : chronicle.stride.filterMap Event.act? = [] :=
    acts_of_kind fun event member => by rcases hstride event member with h | h <;> simp [h]
  have clock : chronicle.clock.filterMap Event.act? = [] :=
    acts_of_kind fun event member => by simp [hclock event member]
  have acts : chronicle.log.filterMap Event.act? =
      chronicle.returns.filterMap Event.act? ++ chronicle.sightings.filterMap Event.act? ++
        chronicle.lockdowns.filterMap Event.act? ++ chronicle.rounds.filterMap Event.act? := by
    simp only [Chronicle.log, Chronicle.lineless, List.filterMap_append, acts_scripted hscripted,
      changes, stride, clock, List.nil_append, List.append_nil]
  rw [acts]
  exact (Act.nodup_all distinct).sublist
    (((returns.append sightings).append lockdowns).append rounds)

end Chronicle.Ordered

/-! ## Entries of occurrences -/

section Entries

variable {tick : UInt64}

/-- Of devices in their order some tell, each once. -/
theorem inParts_filter {Acts : String → Event → Prop} {told : String → Occurrence}
    (acts : ∀ key id, Acts key ((told key).event id tick)) (p : String → Bool) (entered : ℕ)
    (keys : List String) : Log.InParts (Log.AtMostOnce Acts) keys
      (enterFrom entered tick ((keys.filter p).map told)) := by
  induction keys generalizing entered with
  | nil => exact .nil
  | cons key rest ih =>
      cases h : p key with
      | true =>
          rw [List.filter_cons_of_pos h]
          exact .cons (.once (acts key _)) (ih (entered + 1))
      | false =>
          rw [List.filter_cons_of_neg (by simp [h])]
          exact .cons .idle (ih entered)

theorem round_announceLock (entered : ℕ) (turret : Turret) (key target : String) :
    Log.Round key (enterFrom entered tick (turret.announceLock key target)) := by
  unfold Turret.announceLock
  split
  · exact .idle
  · exact .lock (Occurrence.isLock_event.mpr rfl)

theorem Turret.Turn.round {key : String} {turret next : Turret} {on : Bool} {aim : Option Target}
    {told : List Occurrence} (turn : turret.Turn key on aim told next) (entered : ℕ) :
    Log.Round key (enterFrom entered tick told) := by
  cases turn with
  | off => exact .idle
  | idle => exact .idle
  | @held target => exact round_announceLock entered turret key target.id
  | @fired target =>
      unfold Turret.announceLock
      split
      · exact .fire (Occurrence.isShot_event.mpr rfl) (target.isHit_hit key _ tick)
      · exact .lockAndFire (Occurrence.isLock_event.mpr rfl) (Occurrence.isShot_event.mpr rfl)
          (target.isHit_hit key _ tick)

/-- A command has one effect or none. -/
theorem World.told_perform (world : World) (line : UInt32) (command : Script.Command) :
    (world.perform line command).2 = [] ∨ ∃ effect, (world.perform line command).2 = [effect] ∧
      command.effect? = some effect.kind ∧ effect.line? = some line := by
  have htale : command.tale line = [] ∨ ∃ effect, command.tale line = [effect] ∧
      command.effect? = some effect.kind ∧ effect.line? = some line := by
    cases command with
    | wait => exact .inl rfl
    | _ => exact .inr ⟨_, rfl, rfl, rfl⟩
  cases seat : command.seat? world.bus? with
  | none =>
      rw [perform_of_unseated line seat]
      cases command with
      | delayAlarm => exact .inl rfl
      | _ => exact htale
  | some key =>
      rw [perform_eq line seat]
      split
      · exact htale
      · exact .inl rfl

theorem Tick.tells_runCue (cue : Script.Cue) (world : World) (entered : ℕ) :
    cue.Told (enterFrom entered tick (runCue cue world).2) := by
  have announced (id : UInt64) :
      ((Occurrence.lineExecuted cue.line cue.command).event id tick).Announces cue :=
    ⟨rfl, rfl, by simp [Occurrence.event, Occurrence.facts, Event.text?, Payload.text?,
      Payload.ofList, Payload.get?_insert_of_ne, Fact.text?]⟩
  rcases world.told_perform cue.line cue.command with h | ⟨effect, h, kind, line⟩
  · simp only [runCue, h, enterFrom]
    exact .idle (announced _)
  · simp only [runCue, h, enterFrom]
    exact .effective (announced _) ⟨kind, line⟩

theorem Tick.tells_runCues (cues : List Script.Cue) (world : World) (entered : ℕ) :
    Log.InParts Script.Cue.Told cues (enterFrom entered tick (runCues cues world).2) := by
  induction cues generalizing world entered with
  | nil => exact .nil
  | cons cue rest ih =>
      simp only [runCues, List.map_cons, inOrder_cons, enterFrom_append]
      exact .cons (tells_runCue cue world entered) (ih _ _)

/-- When the alarm turns red it says so, and then closes the doors. -/
theorem Tick.AlarmTurn.entries {world next : World} {told : List Occurrence}
    (turn : AlarmTurn world next told) (entered : ℕ) (tick : UInt64) : ∃ changes lockdowns : Log,
    enterFrom entered tick told = changes ++ lockdowns ∧
      (∀ event ∈ changes, event.kind = .alarmStateChanged) ∧
      lockdowns.InParts (Log.AtMostOnce Event.IsLockdownOf) world.devices.keys ∧
      (lockdowns ≠ [] → ∃ event ∈ changes.getLast?, event.IsAlarmChange .yellow .red) := by
  cases turn with
  | withheld _ _ notes =>
      refine ⟨_, [], (List.append_nil _).symm, fun event member => ?_, .idle _, by simp⟩
      obtain ⟨occurrence, hmem, id, rfl⟩ := mem_enterFrom member
      rw [notes occurrence hmem]
      rfl
  | @turnedRed key alarm notes _ _ only =>
      have parted := enterFrom_append entered tick (notes ++ [.alarmChanged .yellow .red])
        ((world.devices.exposed []).map .doorLockedDown)
      have locks (entered : ℕ) : Log.InParts (Log.AtMostOnce Event.IsLockdownOf) world.devices.keys
          (enterFrom entered tick ((world.devices.exposed []).map .doorLockedDown)) :=
        inParts_filter (fun _ _ => Occurrence.isLockdownOf_event.mpr rfl) _ _ _
      rw [List.append_cons, parted]
      refine ⟨_, _, rfl, fun event member => ?_, locks _, fun _ => ?_⟩
      · obtain ⟨occurrence, hmem, id, rfl⟩ := mem_enterFrom member
        rcases List.mem_append.mp hmem with hmem | hmem
        · rw [only occurrence hmem]
          rfl
        · rw [List.mem_singleton.mp hmem]
          rfl
      · rw [enterFrom_append, enterFrom, enterFrom, List.getLast?_concat]
        exact ⟨_, rfl, Occurrence.isAlarmChange_event_iff.mpr rfl⟩

/-- What is told of some kinds is entered as of these kinds. -/
theorem kinds_enterFrom {P : EventKind → Prop} {occurrences : List Occurrence}
    (told : occurrences.length ≤ 1 ∧ ∀ occurrence ∈ occurrences, P occurrence.kind) (entered : ℕ) :
    (enterFrom entered tick occurrences).length ≤ 1 ∧
      ∀ event ∈ enterFrom entered tick occurrences, P event.kind := by
  rw [length_enterFrom]
  refine ⟨told.1, fun event member => ?_⟩
  obtain ⟨occurrence, hmem, id, rfl⟩ := mem_enterFrom member
  exact told.2 occurrence hmem

theorem Tick.stride_walk (level : Level) (world : World) (entered : ℕ) :
    (enterFrom entered tick (walk level world).2).length ≤ 1 ∧
      ∀ event ∈ enterFrom entered tick (walk level world).2,
        event.kind = .playerBlockedByDoor ∨ event.kind = .playerReachedExit := by
  refine kinds_enterFrom (P := fun kind =>
    kind = .playerBlockedByDoor ∨ kind = .playerReachedExit) ?_ entered
  unfold walk
  split
  · split
    · split
      · unfold stopAt
        split <;> simp [Occurrence.kind]
      · unfold stepTo
        split <;> simp [reachExit, Occurrence.kind]
    · split <;> simp [reachExit, Occurrence.kind]
  · simp

theorem Tick.clock_timeOut (limit : UInt64) (world : World) (entered : ℕ) :
    (enterFrom entered tick (timeOut limit world).2).length ≤ 1 ∧
      ∀ event ∈ enterFrom entered tick (timeOut limit world).2, event.kind = .runTimeout := by
  refine kinds_enterFrom (P := fun kind => kind = .runTimeout) ?_ entered
  unfold timeOut
  split <;> simp [Occurrence.kind]

end Entries

/-! ## One tick -/

namespace Engine

variable (engine : Engine)

/-- What a tick tells after its script lines. -/
def unprompted : List Occurrence :=
  engine.woken.2 ++ engine.sighted ++ engine.escalated.2 ++ engine.engaged.2 ++
    ((Tick.walk engine.mission.level engine.engaged.1).2 ++
      (Tick.timeOut engine.mission.limit (Tick.walk engine.mission.level engine.engaged.1).1).2)

theorem occurrences_unprompted : engine.occurrences = engine.cued.2 ++ engine.unprompted := by
  simp only [occurrences_departed, occurrences_opened, departed, unprompted, Tick.inOrder_cons,
    Tick.inOrder_nil, List.append_nil, List.append_assoc]

variable {engine} (labelled : engine.world.devices.Labelled)

include labelled

theorem line?_unprompted : ∀ occurrence ∈ engine.unprompted, occurrence.line? = none := by
  obtain ⟨rest, told, deeds⟩ := rest_deeds labelled
  obtain rfl := List.append_cancel_left (told.symm.trans engine.occurrences_unprompted)
  intro occurrence member
  rw [← occurrence.line?_stage]
  exact deeds.stage_mem occurrence member

theorem keys_opened : engine.opened.1.devices.keys = engine.world.devices.keys :=
  (opened_deeds labelled).keys_eq

variable (entered : ℕ) (tick : UInt64)

/-- The cameras come back in the order of the devices. -/
theorem returns_woken : Log.InParts (Log.AtMostOnce Event.IsReturn) engine.world.devices.keys
    (enterFrom entered tick engine.woken.2) := by
  rw [woken, Tick.occurrences_wakeCameras,
    Roster.map_id_filter (engine.cued_deeds.labelled labelled), engine.cued_deeds.keys_eq]
  exact inParts_filter (fun _ _ => Occurrence.isReturn_event.mpr rfl) _ _ _

/-- The cameras report in the order of the devices. -/
theorem detections_sighted : Log.InParts (Log.AtMostOnce Event.IsDetection)
    engine.world.devices.keys (enterFrom entered tick engine.sighted) := by
  rw [sighted, Tick.reportSightings, World.sightings,
    Roster.map_id_filter ((opened_deeds labelled).labelled labelled), keys_opened labelled,
    List.filter_filter]
  exact inParts_filter (fun _ _ => Occurrence.isDetection_event.mpr rfl) _ _ _

/-- The turrets act in the order of the devices. -/
theorem rounds_engaged : Log.InParts Log.Round engine.world.devices.keys
    (enterFrom entered tick engine.engaged.2) := by
  have hkeys : engine.escalated.1.devices.keys = engine.world.devices.keys :=
    (escalated_deeds labelled).keys_eq.trans (keys_opened labelled)
  rw [← hkeys]
  exact Tick.inParts_turns entered tick (fun _ => .idle) Turret.Turn.round
    (labelled_escalated labelled) rfl _

omit entered tick

/-- The events of a tick make up a chronicle. -/
theorem exists_chronicle : ∃ chronicle : Chronicle, engine.entries = chronicle.log ∧
    chronicle.Ordered (engine.mission.cuesAt engine.world.tick) engine.world.devices.keys := by
  rw [entries, occurrences_unprompted, enterFrom_append]
  generalize engine.entered + engine.cued.2.length = second
  have hline : ∀ event ∈ enterFrom second engine.world.tick engine.unprompted, event.line = none := by
    intro event member
    obtain ⟨occurrence, hmem, id, rfl⟩ := mem_enterFrom member
    exact line?_unprompted labelled occurrence hmem
  obtain ⟨changes, lockdowns, parted, hchanges, hlockdowns, red⟩ :=
    (alarm_turn labelled).entries
      (second + (engine.woken.2 ++ engine.sighted).length) engine.world.tick
  rw [keys_opened labelled] at hlockdowns
  simp only [unprompted, enterFrom_append, parted] at hline ⊢
  exact ⟨⟨_, _, _, _, _, _, _, _⟩, rfl, {
    scripted := Tick.tells_runCues _ _ _
    returns := returns_woken labelled _ _
    sightings := detections_sighted labelled _ _
    changes := hchanges
    lockdowns := hlockdowns
    red := red
    rounds := rounds_engaged labelled _ _
    stride := Tick.stride_walk _ _ _
    clock := Tick.clock_timeOut _ _ _
    lineless := hline }⟩

end Engine

/-! ## The whole run -/

theorem Mission.ordered_duration (mission : Mission) :
    (RunResult.ofEngine (mission.after mission.duration)).Ordered mission.cues := by
  intro frame member
  obtain ⟨step, -, rfl⟩ := mission.mem_frames member
  have labelled := mission.labelled_after step
  have hkeys : (mission.after step).scene.snapshot.devices.keys =
      (mission.after step).world.devices.keys := (Engine.play_deeds labelled).keys_eq
  have hcues : mission.cues.filter (fun cue => cue.tick = (mission.after step).scene.tick) =
      (mission.after step).mission.cuesAt (mission.after step).world.tick := by
    rw [mission_after, ← mission.tick_closed_after step]
    rfl
  obtain ⟨chronicle, told, ordered⟩ := Engine.exists_chronicle labelled
  rw [← hkeys, ← hcues] at ordered
  refine ⟨⟨chronicle, told, ordered⟩, ?_⟩
  rw [Engine.events_scene, told]
  exact ordered.once (Roster.nodup _)

/-- Every frame of a run tells its events in the order of the phases, and within a phase in the order
of the devices. -/
theorem simulate_ordered (level : Level) (cues : List Script.Cue) (config : Config) :
    (simulate level cues config).Ordered cues := by
  rw [RunResult.simulate_eq]
  exact (Mission.of level cues config).ordered_duration

end Infiltration
