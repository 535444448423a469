import Infiltration.Proofs.Tick.Alarm
import Mathlib.Data.List.Count

/-! # The doors in a tick

Script lines open and close doors. Then, if the alarm turns red, it closes those that are made to close
on red. Nothing else in a tick moves a door. -/

namespace Infiltration

/-! ## Commands to a door -/

namespace Script

/-- Whether a door is to be open, in the words of a command to it. -/
def Command.puts? (door : String) : Command → Option Bool
  | openDoor key => if key = door then some true else none
  | closeDoor key => if key = door then some false else none
  | _ => none

/-- The tag that a command gives to a device. -/
def Command.tags? (device : String) : Command → Option String
  | tagDevice key tag => if key = device then some tag else none
  | _ => none

/-- The last that commands have to say. -/
def lastSaid? {α : Type} (saying : Command → Option α) (commands : List Command) : Option α :=
  (commands.filterMap saying).getLast?

theorem lastSaid?_cons {α : Type} (saying : Command → Option α) (command : Command)
    (rest : List Command) :
    lastSaid? saying (command :: rest) = (lastSaid? saying rest).or (saying command) := by
  rw [lastSaid?, List.filterMap_cons]
  cases saying command with
  | none => rw [Option.or_none, lastSaid?]
  | some said =>
      rw [List.getLast?_cons, lastSaid?]
      cases (rest.filterMap saying).getLast? <;> rfl

end Script

/-- A door after commands in their order. -/
def Door.heed (door : Door) (key : String) (commands : List Script.Command) : Door :=
  { door with isOpen := (Script.lastSaid? (Script.Command.puts? key) commands).getD door.isOpen }

/-- The device that is a door, after commands in their order. -/
def Device.heed (device : Device) (door : Door) (key : String) (commands : List Script.Command) :
    Device :=
  { device with
    tag := (Script.lastSaid? (Script.Command.tags? key) commands).or device.tag
    equipment := .door (door.heed key commands) }

/-- A door after the alarm's turn, on which the alarm has turned red or not. -/
def Door.shut (door : Door) (red : Bool) : Door :=
  { door with isOpen := door.isOpen && !(red && door.closesOnRed) }

/-- A device with the door that it is. -/
def Device.gate? (device : Device) : Option (Device × Door) := device.door?.map fun door => (device, door)

/-- The doors that the alarm closes if it turns red after commands, in their order. -/
def Roster.exposed (roster : Roster) (commands : List Script.Command) : List String :=
  roster.keys.filter fun key => (roster.part? key Device.door?).any fun door =>
    door.closesOnRed && (door.heed key commands).isOpen

section Gates

variable {device : Device} {door : Door} {key : String} {roster a b : Roster}

theorem Device.gate?_eq_some {other : Device} :
    device.gate? = some (other, door) ↔ device = other ∧ device.equipment = .door door := by
  simp [gate?, door?_eq_some, Option.map_eq_some_iff, and_comm]

theorem Device.gate?_of_ne (other : device.type ≠ .door) : device.gate? = none := by
  rw [gate?, Option.map_eq_none_iff, ← Option.not_isSome_iff_eq_none, device.isSome_door?]
  exact other

theorem Roster.gate?_eq_some : roster.part? key Device.gate? = some (device, door) ↔
    roster.find? key = some device ∧ device.equipment = .door door := by
  rw [part?_eq_some]
  constructor
  · rintro ⟨other, found, h⟩
    obtain ⟨rfl, kind⟩ := Device.gate?_eq_some.mp h
    exact ⟨found, kind⟩
  · rintro ⟨found, kind⟩
    exact ⟨device, found, Device.gate?_eq_some.mpr ⟨rfl, kind⟩⟩

theorem Roster.door?_of_gate? (key : String) :
    roster.part? key Device.door? = (roster.part? key Device.gate?).map Prod.snd := by
  have hdoor : Device.door? = fun device => device.gate?.map Prod.snd := by
    funext device
    simp [Device.gate?, Function.comp_def]
  rw [part?, part?, hdoor]
  cases roster.find? key <;> rfl

theorem Roster.isSome_gate? (key : String) : (roster.part? key Device.gate?).isSome =
    ((roster.view Device.type).lookup key).any (· = .door) := by
  rw [lookup_view, part?]
  cases roster.find? key with
  | none => rfl
  | some device =>
      rw [Option.bind_some, Option.map_some, Option.any_some, Bool.eq_iff_iff, Device.gate?,
        Option.isSome_map, device.isSome_door?, decide_eq_true_iff]

theorem Roster.exposed_of_view_eq (h : a.view Device.gate? = b.view Device.gate?)
    (commands : List Script.Command) : a.exposed commands = b.exposed commands := by
  simp only [exposed, keys_of_view_eq h, door?_of_gate?, part?_of_view_eq h]

end Gates

theorem Door.heed_nil (door : Door) (key : String) : door.heed key [] = door := rfl

theorem Door.heed_cons (door : Door) (key : String) (command : Script.Command)
    (rest : List Script.Command) :
    (door.heed key [command]).heed key rest = door.heed key (command :: rest) := by
  simp only [heed, Script.lastSaid?_cons _ command]
  cases Script.lastSaid? (Script.Command.puts? key) rest <;>
    cases command.puts? key <;> rfl

theorem Device.heed_nil {device : Device} {door : Door} (kind : device.equipment = .door door)
    (key : String) : device.heed door key [] = device := by
  cases device
  cases kind
  rfl

theorem Device.heed_cons (device : Device) (door : Door) (key : String) (command : Script.Command)
    (rest : List Script.Command) :
    (device.heed door key [command]).heed (door.heed key [command]) key rest =
      device.heed door key (command :: rest) := by
  simp only [heed, Door.heed_cons, Script.lastSaid?_cons _ command]
  cases Script.lastSaid? (Script.Command.tags? key) rest <;>
    cases command.tags? key <;> rfl

/-! ## Who touches a door -/

/-- A device is tagged, or a door is opened or closed. -/
def Occurrence.Handles (occurrence : Occurrence) : Prop :=
  occurrence.kind = .doorOpened ∨ occurrence.kind = .doorClosed ∨ occurrence.kind = .deviceTagged

/-- Doors are handled by script lines and on the alarm's turn. -/
theorem Occurrence.stage_of_handles {occurrence : Occurrence} (h : occurrence.Handles) :
    occurrence.stage.line? ≠ none ∨ occurrence.stage = .alarm := by
  cases occurrence <;> simp_all [Handles, kind, stage, Stage.line?]

theorem Device.Deed.gate?_eq {world : World} {key : String} {stage : Stage}
    {device device' : Device} {occurrences : List Occurrence}
    (deed : Deed world key stage device occurrences device')
    (idle : ∀ occurrence ∈ occurrences, ¬occurrence.Handles) : device'.gate? = device.gate? := by
  have other (h : device.type ≠ .door) : device'.gate? = device.gate? := by
    rw [gate?_of_ne h, gate?_of_ne (deed.type_eq ▸ h)]
  cases deed with
  | patrolled =>
      rcases device.patrol_eq with h | ⟨drone, -, -, kind, -, -⟩
      · rw [h]
      · exact other (by simp [type, Equipment.type, kind])
  | opened => exact absurd (.inl rfl) (idle _ List.mem_cons_self)
  | closed => exact absurd (.inr (.inl rfl)) (idle _ List.mem_cons_self)
  | lockedDown => exact absurd (.inr (.inl rfl)) (idle _ List.mem_cons_self)
  | tagged => exact absurd (.inr (.inr rfl)) (idle _ List.mem_cons_self)
  | _ => exact other (by simp_all [type, Equipment.type])

namespace Deeds

variable {stages : Set Stage} {world last : World} {occurrences : List Occurrence}

/-- Who handles no door leaves all doors alone. -/
theorem gates_eq (deeds : Deeds stages world occurrences last)
    (idle : ∀ occurrence ∈ occurrences, ¬occurrence.Handles) :
    last.devices.view Device.gate? = world.devices.view Device.gate? := by
  induction deeds with
  | nil => rfl
  | cons _ deed _ ih =>
      rw [ih fun occurrence member => idle occurrence (List.mem_append_right _ member)]
      refine deed.view_eq (fun deed => deed.gate?_eq fun occurrence member =>
        idle occurrence (List.mem_append_left _ member)) fun kind => ?_
      simp [Device.gate?, Device.door?, kind]

theorem gates_of_unscripted (deeds : Deeds stages world occurrences last)
    (unscripted : ∀ stage ∈ stages, stage.line? = none) (calm : .alarm ∉ stages) :
    last.devices.view Device.gate? = world.devices.view Device.gate? := by
  refine deeds.gates_eq fun occurrence member handles => ?_
  have admitted := deeds.stage_mem occurrence member
  rcases occurrence.stage_of_handles handles with scripted | alarm
  · exact scripted (unscripted _ admitted)
  · exact calm (alarm ▸ admitted)

end Deeds

/-! ## Script lines -/

namespace Tick

variable {world : World} {key : String} {device : Device} {door : Door}

theorem gate?_perform (found : world.devices.part? key Device.gate? = some (device, door))
    (line : UInt32) (command : Script.Command) :
    (world.perform line command).1.devices.part? key Device.gate? =
      some (device.heed door key [command], door.heed key [command]) := by
  obtain ⟨hdevice, kind⟩ := Roster.gate?_eq_some.mp found
  have hdoor : world.devices.part? key Device.door? = some door := by
    rw [Roster.door?_of_gate?, found, Option.map_some]
  have same (silent : command.puts? key = none) (untagged : command.tags? key = none)
      (h : (world.perform line command).1.devices.part? key Device.gate? = some (device, door)) :
      (world.perform line command).1.devices.part? key Device.gate? =
        some (device.heed door key [command], door.heed key [command]) := by
    rw [h]
    cases device
    cases kind
    simp [Device.heed, Door.heed, Script.lastSaid?, silent, untagged]
  have untouched (idle : ∀ occurrence ∈ (world.perform line command).2, ¬occurrence.Handles) :
      (world.perform line command).1.devices.part? key Device.gate? = some (device, door) := by
    rw [← found]
    exact Roster.part?_of_view_eq ((perform_deeds world line command).gates_eq idle) key
  have here (change : Device → Device) :
      (world.modifyDevice key change).devices.part? key Device.gate? = (change device).gate? := by
    rw [World.devices_modifyDevice, Roster.part?, Roster.find?_modify_self, hdevice, Option.map_some,
      Option.bind_some]
  have elsewhere {other : String} (h : other ≠ key) (change : Device → Device) :
      (world.modifyDevice other change).devices.part? key Device.gate? = some (device, door) := by
    rw [World.devices_modifyDevice, Roster.part?, Roster.find?_modify_of_ne _ h.symm]
    exact found
  cases command with
  | openDoor other =>
      by_cases h : other = key
      · subst h
        simp only [World.perform, hdoor, World.setEquipment, here]
        simp [Device.gate?_eq_some, Device.heed, Door.heed, Script.lastSaid?, Script.Command.puts?,
          Script.Command.tags?]
      · refine same (if_neg h) rfl ?_
        simp only [World.perform]
        split
        · exact elsewhere h _
        · exact found
  | closeDoor other =>
      by_cases h : other = key
      · subst h
        simp only [World.perform, hdoor, World.setEquipment, here]
        simp [Device.gate?_eq_some, Device.heed, Door.heed, Script.lastSaid?, Script.Command.puts?,
          Script.Command.tags?]
      · refine same (if_neg h) rfl ?_
        simp only [World.perform]
        split
        · exact elsewhere h _
        · exact found
  | tagDevice other tag =>
      by_cases h : other = key
      · subst h
        simp only [World.perform, hdevice, here]
        simp [Device.gate?_eq_some, Device.heed, Door.heed, Script.lastSaid?, Script.Command.puts?,
          Script.Command.tags?, kind]
      · refine same rfl (if_neg h) ?_
        simp only [World.perform]
        split
        · exact elsewhere h _
        · exact found
  | wait => exact same rfl rfl found
  | log => exact same rfl rfl found
  | _ =>
      refine same rfl rfl (untouched ?_)
      simp only [World.perform]
      split <;> simp [Occurrence.Handles, Occurrence.kind]

/-- A door heeds the cues of a tick. -/
theorem gate?_runCues (found : world.devices.part? key Device.gate? = some (device, door))
    (cues : List Script.Cue) :
    (runCues cues world).1.devices.part? key Device.gate? =
      some (device.heed door key (cues.map Script.Cue.command),
        door.heed key (cues.map Script.Cue.command)) := by
  induction cues generalizing world device door with
  | nil =>
      rw [List.map_nil, Device.heed_nil (Roster.gate?_eq_some.mp found).2, Door.heed_nil]
      exact found
  | cons cue rest ih =>
      have hrest := ih (gate?_perform found cue.line cue.command)
      rw [Device.heed_cons, Door.heed_cons] at hrest
      exact hrest

end Tick

/-! ## The alarm closes doors -/

theorem Device.lockDown_of_door {device : Device} {door : Door}
    (kind : device.equipment = .door door) :
    device.lockDown = ({ device with equipment := .door (door.shut true) },
      if door.closesOnRed && door.isOpen then [.doorLockedDown device.id] else []) := by
  cases device
  cases kind
  cases door with
  | mk isOpen closesOnRed => cases isOpen <;> cases closesOnRed <;> rfl

theorem Device.lockDown_of_ne {device : Device} (other : device.type ≠ .door) :
    device.lockDown = (device, []) := by
  cases kind : device.equipment <;> simp_all [lockDown, type, Equipment.type]

theorem Device.lockDown_fst (device : Device) :
    device.lockDown.1 =
      match device.equipment with
      | .door door => { device with equipment := .door (door.shut true) }
      | _ => device := by
  split
  · rename_i door kind
    rw [lockDown_of_door kind]
  · rename_i other
    rw [lockDown_of_ne]
    intro h
    obtain ⟨door, hdoor⟩ := Option.isSome_iff_exists.mp (device.isSome_door?.mpr h)
    exact other door (door?_eq_some.mp hdoor)

namespace Roster

theorem map_modify (roster : Roster) (key : String) (change f : Device → Device) :
    (roster.modify key change).map f =
      roster.mapEntries fun other device => if other = key then f (change device) else f device := by
  apply ext
  simp only [map, modify, mapEntries, List.map_map]
  refine List.map_congr_left fun entry _ => ?_
  by_cases h : entry.1 = key <;> simp [h]

/-- In a roster under ids, the ids of devices are the keys under which they stand. -/
theorem map_id_filter {roster : Roster} (labelled : roster.Labelled) (p : Device → Bool) :
    (roster.devices.filter p).map Device.id =
      roster.keys.filter fun key => (roster.find? key).any p := by
  rw [← map_id_devices labelled, List.filter_map]
  refine congrArg _ (List.filter_congr fun device member => ?_)
  obtain ⟨⟨key, _⟩, hentry, rfl⟩ := List.mem_map.mp member
  have found := find?_eq_some.mpr hentry
  rw [Function.comp_apply, labelled key _ found, found, Option.any_some]

end Roster

namespace Tick

variable {world : World} {key : String}

theorem find?_lockDoors (world : World) (key : String) :
    (lockDoors world).1.devices.find? key =
      (world.devices.find? key).map fun device => device.lockDown.1 := by
  simp [lockDoors, Roster.sweep, Roster.map, Roster.find?_mapEntries]

theorem gate?_lockDoors (world : World) (key : String) :
    (lockDoors world).1.devices.part? key Device.gate? =
      (world.devices.part? key Device.gate?).map fun gate =>
        ({ gate.1 with equipment := .door (gate.2.shut true) }, gate.2.shut true) := by
  rw [Roster.part?, Roster.part?, find?_lockDoors]
  cases world.devices.find? key with
  | none => rfl
  | some device =>
      rw [Option.map_some, Option.bind_some, Option.bind_some]
      by_cases h : device.type = .door
      · obtain ⟨door, hdoor⟩ := Option.isSome_iff_exists.mp (device.isSome_door?.mpr h)
        have kind := Device.door?_eq_some.mp hdoor
        rw [Device.lockDown_of_door kind, Device.gate?_eq_some.mpr ⟨rfl, kind⟩, Option.map_some,
          Device.gate?_eq_some]
        exact ⟨rfl, rfl⟩
      · rw [Device.lockDown_of_ne h, Device.gate?_of_ne h, Option.map_none]

theorem occurrences_lockDoors (labelled : world.devices.Labelled) :
    (lockDoors world).2 = (world.devices.exposed []).map .doorLockedDown := by
  let locks : Device → Bool := fun device =>
    device.door?.any fun door => door.closesOnRed && door.isOpen
  have hvisit (device : Device) :
      device.lockDown.2 = if locks device then [.doorLockedDown device.id] else [] := by
    by_cases h : device.type = .door
    · obtain ⟨door, hdoor⟩ := Option.isSome_iff_exists.mp (device.isSome_door?.mpr h)
      rw [Device.lockDown_of_door (Device.door?_eq_some.mp hdoor)]
      simp [locks, hdoor]
    · have hnone : device.door? = none := by
        rwa [← Option.not_isSome_iff_eq_none, device.isSome_door?]
      simp [Device.lockDown_of_ne h, locks, hnone]
  have hsweep : (lockDoors world).2 =
      ((world.devices.devices.filter locks).map Device.id).map .doorLockedDown := by
    simp only [lockDoors, Roster.sweep, hvisit]
    induction world.devices.devices with
    | nil => rfl
    | cons device rest ih => cases h : locks device <;> simp [h, ih]
  rw [hsweep, Roster.map_id_filter labelled, Roster.exposed]
  refine congrArg _ (List.filter_congr fun key _ => ?_)
  rw [Roster.part?]
  cases world.devices.find? key <;> rfl

end Tick

/-! ## The alarm's turn -/

/-- An alarm that has turned red. If it was green until then, the sight of the player has used up its
buffer. -/
def Alarm.reddened (alarm : Alarm) : Alarm :=
  { alarm with
    level := .red
    redAt := none
    delayBuffer := if alarm.level = .green then 0 else alarm.delayBuffer }

/-- How often the alarm can still turn red. -/
def World.pending (world : World) : ℕ := if world.alarmLevel = .red then 0 else 1

namespace Tick

/-- The alarm turns red, and the doors that are made to close are closed. Nothing else changes. -/
def Reddens (world next : World) : Prop :=
  ∃ key alarm, world.devices.alarmEntry? = some (key, alarm) ∧
    next =
      { world with
        devices := world.devices.mapEntries fun other device =>
          if other = key then { device with equipment := .alarm alarm.reddened }
          else
            match device.equipment with
            | .door door => { device with equipment := .door (door.shut true) }
            | _ => device }

/-- What the alarm's turn makes of the world, and what is told of it. -/
inductive AlarmTurn (world : World) : World → List Occurrence → Prop where
  | withheld {next told} (gates : next.devices.view Device.gate? = world.devices.view Device.gate?)
      (level : next.pending = world.pending)
      (notes : ∀ occurrence ∈ told, occurrence = .alarmChanged .green .yellow) :
      AlarmTurn world next told
  | turnedRed {key alarm told} (first : world.devices.alarmEntry? = some (key, alarm))
      (calm : alarm.level ≠ .red)
      (notes : ∀ occurrence ∈ told, occurrence = .alarmChanged .green .yellow) :
      AlarmTurn world (lockDoors (world.setEquipment key (.alarm alarm.reddened))).1
        (told ++ .alarmChanged .yellow .red :: (world.devices.exposed []).map .doorLockedDown)

theorem gates_setEquipment {world : World} {key : String} {alarm : Alarm}
    (first : world.devices.alarmEntry? = some (key, alarm)) (alarm' : Alarm) :
    (world.setEquipment key (.alarm alarm')).devices.view Device.gate? =
      world.devices.view Device.gate? := by
  obtain ⟨found, hfound, kind⟩ := Roster.alarmEntry?_eq_some first
  refine Roster.view_modify_of_hidden fun device hdevice => ?_
  obtain rfl := Option.some.inj (hfound.symm.trans hdevice)
  simp [Device.gate?, Device.door?, kind]

theorem pending_setEquipment {world : World} {key : String} {alarm alarm' : Alarm}
    (first : world.devices.alarmEntry? = some (key, alarm))
    (same : alarm'.level = .red ↔ alarm.level = .red) :
    (world.setEquipment key (.alarm alarm')).pending = world.pending := by
  simp only [World.pending, World.alarmLevel_setEquipment first, World.alarmLevel_of_first first, same]

theorem turnRed_turn {world : World} {key : String} {alarm alarm' : Alarm} {told : List Occurrence}
    (labelled : world.devices.Labelled) (first : world.devices.alarmEntry? = some (key, alarm))
    (calm : alarm.level ≠ .red)
    (notes : ∀ occurrence ∈ told, occurrence = .alarmChanged .green .yellow)
    (red : alarm'.redden = alarm.reddened) :
    AlarmTurn world (turnRed key alarm' world).1 (told ++ (turnRed key alarm' world).2) := by
  have hlabelled : (world.setEquipment key (.alarm alarm.reddened)).devices.Labelled :=
    labelled.of_view_eq (Roster.view_modify_of_hidden fun _ _ => rfl)
  rw [turnRed, red, occurrences_lockDoors hlabelled,
    Roster.exposed_of_view_eq (gates_setEquipment first _)]
  exact .turnedRed first calm notes

theorem escalate_turn {world : World} (labelled : world.devices.Labelled) :
    AlarmTurn world (escalate world).1 (escalate world).2 := by
  cases first : world.devices.alarmEntry? with
  | none =>
      simp only [escalate, first]
      exact .withheld rfl rfl (by simp)
  | some entry =>
      obtain ⟨key, alarm⟩ := entry
      by_cases rising : alarm.level = .green ∧ world.sightings ≠ []
      · obtain ⟨calm, seen⟩ := rising
        have hseen : world.sightings.isEmpty = false := by simpa using seen
        have htold : (alarm.alert world.tick).2 = [.alarmChanged .green .yellow] := by
          simp [Alarm.alert, calm]
        simp only [escalate, first, hseen, Bool.false_eq_true, ite_false, htold]
        split
        · have hred : (alarm.alert world.tick).1.redden = alarm.reddened := by
            simp [Alarm.alert, Alarm.redden, Alarm.reddened, calm]
          exact turnRed_turn labelled first (by simp [calm]) (by simp) hred
        · exact .withheld (gates_setEquipment first _)
            (pending_setEquipment first (by simp [Alarm.alert, calm])) (by simp)
      · simp only [escalate, first, alert_of_idle rising]
        split
        · rename_i due
          have hyellow : alarm.level = .yellow := by simp_all [Alarm.due]
          have hred : alarm.redden = alarm.reddened := by
            simp [Alarm.redden, Alarm.reddened, hyellow]
          exact turnRed_turn labelled first (by simp [hyellow]) (by simp) hred
        · exact .withheld (gates_setEquipment first _) (pending_setEquipment first Iff.rfl) (by simp)

/-- A note of the alarm is neither its change to red nor a lockdown. -/
theorem count_notes {told : List Occurrence}
    (notes : ∀ occurrence ∈ told, occurrence = .alarmChanged .green .yellow) {occurrence : Occurrence}
    (other : occurrence ≠ .alarmChanged .green .yellow) : told.count occurrence = 0 :=
  List.count_eq_zero.mpr fun member => other (notes occurrence member)

theorem count_doorLockedDown (doors : List String) (key : String) :
    (doors.map Occurrence.doorLockedDown).count (.doorLockedDown key) = doors.count key :=
  List.count_map_of_injective _ _ (fun _ _ => Occurrence.doorLockedDown.inj) key

namespace AlarmTurn

variable {world next : World} {told : List Occurrence} (turn : AlarmTurn world next told)

include turn

/-- The change to red is told before all lockdowns, and these in the order of the doors. -/
theorem told_eq (red : .alarmChanged .yellow .red ∈ told) :
    ∃ notes, told = notes ++ .alarmChanged .yellow .red ::
        (world.devices.exposed []).map .doorLockedDown ∧
      ∀ occurrence ∈ notes, occurrence = .alarmChanged .green .yellow := by
  cases turn with
  | withheld _ _ notes => cases notes _ red
  | turnedRed _ _ notes => exact ⟨_, rfl, notes⟩

theorem note_of_not_red (calm : .alarmChanged .yellow .red ∉ told) :
    ∀ occurrence ∈ told, occurrence = .alarmChanged .green .yellow := by
  cases turn with
  | withheld _ _ notes => exact notes
  | turnedRed => exact absurd (List.mem_append_right _ List.mem_cons_self) calm

theorem count_locks (key : String) :
    told.count (.doorLockedDown key) =
      if .alarmChanged .yellow .red ∈ told ∧ key ∈ world.devices.exposed [] then 1 else 0 := by
  by_cases red : .alarmChanged .yellow .red ∈ told
  · obtain ⟨notes, rfl, hnotes⟩ := turn.told_eq red
    have distinct : (world.devices.exposed []).Nodup := world.devices.nodup.filter _
    rw [List.count_append, count_notes hnotes (by simp), List.count_cons_of_ne (by simp),
      count_doorLockedDown, Nat.zero_add, distinct.count]
    simp only [red, true_and]
  · rw [count_notes (turn.note_of_not_red red) (by simp), if_neg fun h => red h.1]

/-- Each change to red uses up the one that there can be. -/
theorem count_add_pending :
    told.count (.alarmChanged .yellow .red) + next.pending ≤ world.pending := by
  cases turn with
  | withheld _ level notes => rw [count_notes notes (by simp), level, Nat.zero_add]
  | @turnedRed key alarm _ first calm notes =>
      have hlocks : ((world.devices.exposed []).map Occurrence.doorLockedDown).count
          (.alarmChanged .yellow .red) = 0 := List.count_eq_zero.mpr (by simp)
      have hbefore : world.pending = 1 := by
        rw [World.pending, World.alarmLevel_of_first first, if_neg calm]
      have hafter : (lockDoors (world.setEquipment key (.alarm alarm.reddened))).1.pending = 0 := by
        rw [World.pending, alarmLevel_lockDoors, World.alarmLevel_setEquipment first]
        rfl
      rw [List.count_append, count_notes notes (by simp), List.count_cons_self, hlocks, hbefore, hafter]

/-- A door is shut by the change to red if it is made to, and else left alone. -/
theorem gate?_eq {key : String} {device : Device} {door : Door}
    (found : world.devices.part? key Device.gate? = some (device, door)) :
    next.devices.part? key Device.gate? =
      some ({ device with equipment := .door (door.shut (.alarmChanged .yellow .red ∈ told)) },
        door.shut (.alarmChanged .yellow .red ∈ told)) := by
  obtain ⟨-, kind⟩ := Roster.gate?_eq_some.mp found
  cases turn with
  | withheld gates _ notes =>
      have calm : .alarmChanged .yellow .red ∉ told := fun red => by cases notes _ red
      rw [Roster.part?_of_view_eq gates, found, decide_eq_false calm]
      cases device
      cases kind
      simp [Door.shut]
  | turnedRed first _ _ =>
      rw [gate?_lockDoors, Roster.part?_of_view_eq (gates_setEquipment first _), found,
        decide_eq_true (List.mem_append_right _ List.mem_cons_self), Option.map_some]

theorem reddens (red : .alarmChanged .yellow .red ∈ told) : Reddens world next := by
  cases turn with
  | withheld _ _ notes => cases notes _ red
  | @turnedRed key alarm _ first _ _ =>
      refine ⟨key, alarm, first, congrArg (fun devices => { world with devices }) ?_⟩
      refine (Roster.map_modify world.devices key _ fun device => device.lockDown.1).trans ?_
      congr 1
      funext other device
      rw [Device.lockDown_of_ne (by simp [Device.type, Equipment.type]), device.lockDown_fst]

end AlarmTurn

end Tick

end Infiltration
