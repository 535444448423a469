import Infiltration.Proofs.Run.Provocation
import Infiltration.Proofs.Tick.Lockdown

/-! # Lockdown

Doors move when script lines ask them to, and once more when the alarm turns red: then those that are
made to close on red are closed, whatever the script lines of the tick have said. The log tells of the
change and right after it of each door that was open, in the order of the devices. -/

namespace Infiltration

attribute [local irreducible] Mission.opening Mission.closing

/-! ## Reading events -/

instance (old new : AlarmLevel) (event : Event) : Decidable (event.IsAlarmChange old new) :=
  inferInstanceAs (Decidable (_ ∧ _))

/-- The alarm closes a door of this id. -/
def Event.IsLockdownOf (door : String) (event : Event) : Prop :=
  event.IsLockdown ∧ event.text? "doorId" = some door

instance (door : String) (event : Event) : Decidable (event.IsLockdownOf door) :=
  inferInstanceAs (Decidable (_ ∧ _))

namespace Occurrence

variable {occurrence : Occurrence} {id tick : UInt64}

theorem isLockdownOf_event {door : String} :
    (occurrence.event id tick).IsLockdownOf door ↔ occurrence = .doorLockedDown door := by
  cases occurrence <;>
    simp [Event.IsLockdownOf, Event.IsLockdown, event, kind, facts, Event.text?, Payload.text?,
      Payload.ofList, Payload.get?_insert_of_ne, Fact.text?]

theorem isAlarmChange_event_iff {old new : AlarmLevel} :
    (occurrence.event id tick).IsAlarmChange old new ↔ occurrence = .alarmChanged old new := by
  have hname {a b : AlarmLevel} : a.name = b.name ↔ a = b := by
    cases a <;> cases b <;> simp [AlarmLevel.name]
  cases occurrence <;>
    simp [Event.IsAlarmChange, event, kind, facts, Event.text?, Payload.text?, Payload.ofList,
      Payload.get?_insert_of_ne, Fact.text?, hname]

end Occurrence

/-- The commands of a tick, in the order of their cues. -/
def Script.commandsOn (cues : List Cue) (tick : ℕ) : List Command :=
  (cues.filter fun cue => cue.tick.toNat = tick).map Cue.command

/-- The alarm turns red. -/
def Frame.turnsRed (frame : Frame) : Bool :=
  frame.events.any fun event => event.IsAlarmChange .yellow .red

/-- What a frame makes of the doors that it starts with, and what it tells of it, where commands are
carried out. -/
structure Frame.LocksDown (before : Snapshot) (commands : List Script.Command) (frame : Frame) :
    Prop where
  /-- A lockdown is told once for each door that is made to close on red and open after the commands,
  if the alarm turns red, and for no other door. -/
  told : ∀ key, frame.events.countP (fun event => event.IsLockdownOf key) =
    if frame.turnsRed ∧ key ∈ before.devices.exposed commands then 1 else 0
  /-- Lockdowns follow on the change to red, in the order of the devices. -/
  in_order : frame.turnsRed → ∃ front change locks back,
    frame.events = front ++ change :: (locks ++ back) ∧ change.IsAlarmChange .yellow .red ∧
      List.Forall₂ (fun door event => Event.IsLockdownOf door event)
        (before.devices.exposed commands) locks ∧
      ∀ event ∈ front ++ back, ¬event.IsLockdown
  /-- Nothing but the commands and the change to red makes anything of a door. -/
  doors : ∀ key device door, before.devices.find? key = some device →
    device.equipment = .door door → frame.snapshot.devices.find? key =
      some
        { device with
          tag := (Script.lastSaid? (Script.Command.tags? key) commands).or device.tag
          equipment := .door
            { door with
              isOpen := (Script.lastSaid? (Script.Command.puts? key) commands).getD door.isOpen &&
                !(frame.turnsRed && door.closesOnRed) } }
  closed : frame.turnsRed → ∀ key device door, frame.snapshot.devices.find? key = some device →
    device.equipment = .door door → door.closesOnRed = true → door.isOpen = false

/-- The alarm turns red once at most, and each frame locks down. -/
structure RunResult.LocksDown (level : Level) (cues : List Script.Cue) (result : RunResult) :
    Prop where
  once : result.events.countP (fun event => event.IsAlarmChange .yellow .red) ≤ 1
  frames : ∀ (tick : ℕ) (before : Snapshot) (frame : Frame),
    (result.snapshots level)[tick]? = some before → result.frames[tick]? = some frame →
      frame.LocksDown before (Script.commandsOn cues tick)

/-! ## One tick -/

theorem Occurrence.lockedDoor?_eq_none {occurrence : Occurrence} (h : occurrence.stage ≠ .alarm) :
    occurrence.lockedDoor? = none := by
  cases occurrence <;> simp_all [stage, lockedDoor?]

/-- Where no occurrence is a lockdown, no entry is. -/
theorem not_isLockdown_of_mem {entered : ℕ} {tick : UInt64} {occurrences : List Occurrence}
    (unlocked : ∀ occurrence ∈ occurrences, occurrence.lockedDoor? = none) :
    ∀ event ∈ enterFrom entered tick occurrences, ¬event.IsLockdown := by
  intro event member
  obtain ⟨occurrence, hmem, id, rfl⟩ := mem_enterFrom member
  rw [Occurrence.isLockdown_event, unlocked occurrence hmem]
  simp

theorem enterFrom_around (entered : ℕ) (tick : UInt64) (front : List Occurrence)
    (occurrence : Occurrence) (middle back : List Occurrence) : ∃ id second third,
    enterFrom entered tick (front ++ occurrence :: (middle ++ back)) =
      enterFrom entered tick front ++ occurrence.event id tick ::
        (enterFrom second tick middle ++ enterFrom third tick back) := by
  rw [enterFrom_append, enterFrom, enterFrom_append]
  exact ⟨_, _, _, rfl⟩

theorem forall₂_lockdowns (entered : ℕ) (tick : UInt64) (doors : List String) :
    List.Forall₂ (fun door event => Event.IsLockdownOf door event) doors
      (enterFrom entered tick (doors.map .doorLockedDown)) := by
  induction doors generalizing entered with
  | nil => exact .nil
  | cons door rest ih => exact .cons (Occurrence.isLockdownOf_event.mpr rfl) (ih _)

namespace Engine

variable (engine : Engine)

/-- The commands of the tick. -/
def commands : List Script.Command :=
  (engine.mission.cuesAt engine.world.tick).map Script.Cue.command

/-- Whether the alarm turns red. -/
def reddens : Bool := .alarmChanged .yellow .red ∈ engine.escalated.2

variable {engine} (labelled : engine.world.devices.Labelled)

include labelled

/-- What belongs to the alarm's stage is told on the alarm's turn. -/
theorem count_occurrences_alarm {occurrence : Occurrence} (h : occurrence.stage = .alarm) :
    engine.occurrences.count occurrence = engine.escalated.2.count occurrence := by
  have hearly : (engine.opened.2 ++ engine.sighted).count occurrence = 0 :=
    List.count_eq_zero.mpr ((early_deeds labelled).not_told (by simp [h, Stage.early]))
  have hengaged : engine.engaged.2.count occurrence = 0 :=
    List.count_eq_zero.mpr (engaged_deeds.not_told (by simp [h]))
  have hdeparted : engine.departed.2.count occurrence = 0 :=
    List.count_eq_zero.mpr (late_deeds.not_told (by simp [h, Stage.late]))
  rw [occurrences_departed, List.count_append, List.count_append, List.count_append]
  omega

theorem alarm_turn : Tick.AlarmTurn engine.opened.1 engine.escalated.1 engine.escalated.2 :=
  Tick.escalate_turn ((opened_deeds labelled).labelled labelled)

theorem turnsRed_scene : engine.scene.turnsRed = engine.reddens := by
  have hcount : engine.occurrences.count (.alarmChanged .yellow .red) = _ :=
    count_occurrences_alarm labelled rfl
  rw [Bool.eq_iff_iff, Frame.turnsRed, List.any_eq_true, reddens, decide_eq_true_iff,
    ← List.count_pos_iff, ← hcount, List.count_pos_iff]
  simp only [decide_eq_true_eq]
  exact (exists_enterFrom_iff (fun _ _ => Occurrence.isAlarmChange_event_iff) _ _).trans (by simp)

variable {key : String} {device : Device} {door : Door}

omit labelled in
theorem gate?_cued (found : engine.world.devices.part? key Device.gate? = some (device, door)) :
    engine.cued.1.devices.part? key Device.gate? =
      some (device.heed door key engine.commands, door.heed key engine.commands) :=
  Tick.gate?_runCues found _

/-- Between the script lines and the alarm's turn nothing moves a door. -/
theorem gates_opened :
    engine.opened.1.devices.view Device.gate? = engine.cued.1.devices.view Device.gate? :=
  ((moved_deeds labelled).gates_of_unscripted (by simp [Stage.line?]) (by simp)).trans
    ((woken_deeds labelled).gates_of_unscripted (by simp [Stage.line?]) (by simp))

theorem exposed_opened :
    engine.opened.1.devices.exposed [] = engine.world.devices.exposed engine.commands := by
  rw [Roster.exposed_of_view_eq (gates_opened labelled), Roster.exposed, Roster.exposed,
    engine.cued_deeds.keys_eq]
  refine List.filter_congr fun key _ => ?_
  rw [Roster.door?_of_gate?, Roster.door?_of_gate?]
  cases found : engine.world.devices.part? key Device.gate? with
  | some gate =>
      rw [gate?_cued found]
      rfl
  | none =>
      have hnone : engine.cued.1.devices.part? key Device.gate? = none := by
        rw [← Option.isNone_iff_eq_none, ← Option.not_isSome, Roster.isSome_gate?,
          engine.cued_deeds.types_eq, ← Roster.isSome_gate?, found]
        rfl
      rw [hnone]
      rfl

/-- After the alarm's turn nothing moves a door. -/
theorem gate?_closed (found : engine.world.devices.part? key Device.gate? = some (device, door)) :
    engine.closed.1.devices.part? key Device.gate? =
      some ({ device.heed door key engine.commands with
          equipment := .door ((door.heed key engine.commands).shut engine.reddens) },
        (door.heed key engine.commands).shut engine.reddens) := by
  have hopened := (Roster.part?_of_view_eq (gates_opened labelled) key).trans (gate?_cued found)
  have hengaged : engine.engaged.1.devices.view Device.gate? =
      engine.escalated.1.devices.view Device.gate? :=
    engaged_deeds.gates_of_unscripted (by simp [Stage.line?]) (by simp)
  have hdeparted : engine.departed.1.devices.view Device.gate? =
      engine.engaged.1.devices.view Device.gate? :=
    late_deeds.gates_of_unscripted (by simp [Stage.late, Stage.line?]) (by simp [Stage.late])
  rw [world_departed, Roster.part?_of_view_eq (hdeparted.trans hengaged),
    (alarm_turn labelled).gate?_eq hopened]
  rfl

/-- The entries of a tick on which the alarm turns red: around the change and the lockdowns there are
no more of these. -/
theorem entries_of_reddens (red : engine.reddens = true) : ∃ front change locks back,
    engine.entries = front ++ change :: (locks ++ back) ∧ change.IsAlarmChange .yellow .red ∧
      List.Forall₂ (fun door event => Event.IsLockdownOf door event)
        (engine.world.devices.exposed engine.commands) locks ∧
      ∀ event ∈ front ++ back, ¬event.IsLockdown := by
  obtain ⟨notes, htold, hnotes⟩ := (alarm_turn labelled).told_eq (of_decide_eq_true red)
  rw [exposed_opened labelled] at htold
  have hoccurrences : engine.occurrences = (engine.opened.2 ++ engine.sighted ++ notes) ++
      .alarmChanged .yellow .red ::
        ((engine.world.devices.exposed engine.commands).map .doorLockedDown ++
          (engine.engaged.2 ++ engine.departed.2)) := by
    rw [occurrences_departed, htold]
    simp
  have hfront : ∀ occurrence ∈ engine.opened.2 ++ engine.sighted ++ notes,
      occurrence.lockedDoor? = none := by
    intro occurrence member
    rcases List.mem_append.mp member with member | member
    · exact occurrence.lockedDoor?_eq_none
        ((early_deeds labelled).stage_ne (by simp [Stage.early]) occurrence member)
    · rw [hnotes occurrence member]
      rfl
  have hback : ∀ occurrence ∈ engine.engaged.2 ++ engine.departed.2,
      occurrence.lockedDoor? = none := by
    intro occurrence member
    rcases List.mem_append.mp member with member | member
    · exact occurrence.lockedDoor?_eq_none (engaged_deeds.stage_ne (by simp) occurrence member)
    · exact occurrence.lockedDoor?_eq_none
        (late_deeds.stage_ne (by simp [Stage.late]) occurrence member)
  obtain ⟨first, second, third, hentries⟩ := enterFrom_around engine.entered engine.world.tick
    (engine.opened.2 ++ engine.sighted ++ notes) (.alarmChanged .yellow .red)
    ((engine.world.devices.exposed engine.commands).map .doorLockedDown)
    (engine.engaged.2 ++ engine.departed.2)
  rw [entries, hoccurrences, hentries]
  refine ⟨_, _, _, _, rfl, Occurrence.isAlarmChange_event_iff.mpr rfl, forall₂_lockdowns _ _ _, ?_⟩
  intro event member
  rcases List.mem_append.mp member with member | member
  · exact not_isLockdown_of_mem hfront event member
  · exact not_isLockdown_of_mem hback event member

theorem count_lockdowns (key : String) :
    engine.entries.countP (fun event => event.IsLockdownOf key) =
      if engine.reddens ∧ key ∈ engine.world.devices.exposed engine.commands then 1 else 0 := by
  have hentries : engine.entries.countP (fun event => event.IsLockdownOf key) =
      engine.occurrences.count (.doorLockedDown key) :=
    countP_enterFrom (fun _ _ => Occurrence.isLockdownOf_event) _ _
  rw [hentries, count_occurrences_alarm labelled rfl, (alarm_turn labelled).count_locks,
    exposed_opened labelled]
  exact if_congr (and_congr_left' decide_eq_true_iff.symm) rfl rfl

/-- A tick on which the alarm turns red uses up the one change to red that there can be. -/
theorem count_changes_add_pending :
    engine.entries.countP (fun event => event.IsAlarmChange .yellow .red) +
      engine.closed.1.pending ≤ engine.world.pending := by
  have hentries : engine.entries.countP (fun event => event.IsAlarmChange .yellow .red) =
      engine.occurrences.count (.alarmChanged .yellow .red) :=
    countP_enterFrom (fun _ _ => Occurrence.isAlarmChange_event_iff) _ _
  have hopened : engine.opened.1.pending = engine.world.pending := by
    rw [World.pending, (opened_deeds labelled).alarmLevel_eq (by simp [Stage.early]), World.pending]
  have hclosed : engine.closed.1.pending = engine.escalated.1.pending := by
    rw [World.pending, world_departed, alarmLevel_departed, World.pending]
  rw [hentries, count_occurrences_alarm labelled rfl, hclosed, ← hopened]
  exact (alarm_turn labelled).count_add_pending

end Engine

/-! ## The whole run -/

namespace Mission

variable {mission : Mission} {step : ℕ}

/-- As long as a run has told of no change to red there can be one, and none after it. -/
theorem count_log_add_pending (mission : Mission) (steps : ℕ) :
    (mission.after steps).log.countP (fun event => event.IsAlarmChange .yellow .red) +
      (mission.after steps).world.pending ≤ 1 := by
  refine mission.after_induction (P := fun engine =>
    engine.log.countP (fun event => event.IsAlarmChange .yellow .red) + engine.world.pending ≤ 1)
    ?_ ?_ steps
  · rw [Engine.start, Engine.log, List.reverse_nil, List.countP_nil, Nat.zero_add, World.pending]
    split <;> simp
  · intro engine labelled h _
    have hlevel : engine.play.world.alarmLevel = engine.closed.1.alarmLevel := by
      rw [World.alarmLevel, devices_play, World.alarmLevel]
    have hplay : engine.play.world.pending = engine.closed.1.pending := by
      rw [World.pending, hlevel, World.pending]
    have hentries := Engine.count_changes_add_pending labelled
    rw [Engine.log_play, List.countP_append, hplay]
    omega

theorem commands_after (h : step < mission.duration) :
    (mission.after step).commands = Script.commandsOn mission.cues step := by
  have htick := (mission.tick_after (mission.running_of_lt h)).1
  rw [Engine.commands, mission_after, mission.cuesAt_eq htick, Script.commandsOn]

theorem locksDown_scene (h : step < mission.duration) {before : Snapshot}
    (same : before.devices = (mission.after step).world.devices) :
    (mission.after step).scene.LocksDown before (Script.commandsOn mission.cues step) := by
  have labelled := mission.labelled_after step
  have hred := Engine.turnsRed_scene labelled
  refine ⟨?_, ?_, ?_, ?_⟩
  · intro key
    rw [Engine.events_scene, Engine.count_lockdowns labelled, hred, same, commands_after h]
  · intro red
    rw [Engine.events_scene, same, ← commands_after h]
    exact Engine.entries_of_reddens labelled (hred ▸ red)
  · intro key device door found kind
    rw [same] at found
    have hclosed := Engine.gate?_closed labelled (Roster.gate?_eq_some.mpr ⟨found, kind⟩)
    rw [Engine.devices_scene, (Roster.gate?_eq_some.mp hclosed).1, commands_after h, hred]
    rfl
  · intro red key device door found kind flagged
    rw [Engine.devices_scene] at found
    have hnow := Roster.gate?_eq_some.mpr ⟨found, kind⟩
    have hbefore : ((mission.after step).world.devices.part? key Device.gate?).isSome = true := by
      rw [Roster.isSome_gate?, ← (Engine.play_deeds labelled).types_eq, ← Roster.isSome_gate?, hnow]
      rfl
    obtain ⟨⟨device', door'⟩, hgate⟩ := Option.isSome_iff_exists.mp hbefore
    have hclosed := (Engine.gate?_closed labelled hgate).symm.trans hnow
    obtain ⟨-, rfl⟩ := Prod.mk.inj (Option.some.inj hclosed)
    rw [← hred, red]
    simpa [Door.shut] using fun _ => flagged

theorem locksDown_duration :
    (RunResult.ofEngine (mission.after mission.duration)).LocksDown mission.level mission.cues where
  once := by
    have hcount := mission.count_log_add_pending mission.duration
    rw [RunResult.events_ofEngine]
    omega
  frames step before frame hbefore hframe := by
    obtain ⟨h, rfl⟩ := mission.getElem?_frames hframe
    obtain ⟨other, hother, -, hdevices⟩ := mission.snapshots_duration h
    obtain rfl := Option.some.inj (hother.symm.trans hbefore)
    exact locksDown_scene h hdevices

theorem reddens_after {frame : Frame}
    (hframe : (RunResult.ofEngine (mission.after mission.duration)).frames[step]? = some frame)
    (red : frame.turnsRed) :
    Tick.Reddens (mission.after step).opened.1 (mission.after step).escalated.1 := by
  obtain ⟨-, rfl⟩ := mission.getElem?_frames hframe
  have labelled := mission.labelled_after step
  rw [Engine.turnsRed_scene labelled] at red
  exact (Engine.alarm_turn labelled).reddens (of_decide_eq_true red)

end Mission

/-- In every run doors are locked down when the alarm turns red, and left to the script otherwise; and
the change to red makes nothing else of the world. -/
theorem simulate_locksDown (level : Level) (cues : List Script.Cue) (config : Config) :
    (simulate level cues config).LocksDown level cues ∧
      ∀ (step : ℕ) (frame : Frame), (simulate level cues config).frames[step]? = some frame →
        frame.turnsRed → Tick.Reddens ((Mission.of level cues config).after step).opened.1
          ((Mission.of level cues config).after step).escalated.1 := by
  rw [RunResult.simulate_eq]
  exact ⟨(Mission.of level cues config).locksDown_duration, fun _ _ => Mission.reddens_after⟩

/-- The vault without its turret, and with another door that the alarm leaves open. -/
def treasury : Level :=
  { vault with
    devices :=
      [.newCamera "eye" ⟨0, 1⟩ 2 .up, .newDoor "side" ⟨1, 1⟩ true,
        (Device.newDoor "gate" ⟨1, 0⟩ true).withLockdown, .newAlarm "bell" ⟨1, 1⟩ 0] }

/-- The gate is closed and opened on the tick on which the alarm turns red, and opened on the next. -/
def treasuryCues : List Script.Cue :=
  [{ tick := 0, line := 1, raw := "door(\"gate\").close()", command := .closeDoor "gate" },
    { tick := 0, line := 2, raw := "door(\"gate\").open()", command := .openDoor "gate" },
    { tick := 1, line := 3, raw := "door(\"gate\").open()", command := .openDoor "gate" }]

theorem simulate_treasury_locksDown :
    (simulate treasury treasuryCues { storeDigests := false }).LocksDown treasury treasuryCues ∧
      (simulate treasury treasuryCues { storeDigests := false }).frames.map
          (fun frame => (frame.turnsRed,
            ["side", "gate"].map fun key =>
              (frame.snapshot.devices.part? key Device.door?).map Door.isOpen)) =
        [(true, [some true, some false]), (false, [some true, some true])] :=
  ⟨(simulate_locksDown treasury treasuryCues { storeDigests := false }).1, by decide +kernel⟩

end Infiltration
