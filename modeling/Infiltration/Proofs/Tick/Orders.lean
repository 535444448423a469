import Infiltration.Proofs.Script.Compile
import Infiltration.Proofs.Tick.Escalation

/-! # What a command does, in one place

A command is for at most one device: the one that it names, or the alarm that the level listens to. If
that device is there and of the right type, the command alters it and tells so, and otherwise it does
nothing. How it alters the device depends on that device and the tick alone. -/

namespace Infiltration

/-- The key of the alarm that the level listens to. -/
def World.bus? (world : World) : Option String := world.devices.alarmEntry?.map Prod.fst

namespace Script.Command

/-- The key of the device that a command is for, on a level with this alarm. -/
def seat? (bus : Option String) : Command → Option String
  | delayAlarm _ => bus
  | command => command.device?

/-- Whether a command can do something with a device of a type. -/
def fits (command : Command) (type : DeviceType) : Bool :=
  command.requiredType?.all fun required => type = required

/-- What a command makes of the device that it is for. -/
def alter (tick : UInt64) (command : Command) (device : Device) : Device :=
  match command, device.equipment with
  | disableCamera _ duration, .camera camera =>
    { device with
      enabled := false
      equipment := .camera { camera with disabledUntil := duration.map (Capped.add64 tick) } }
  | enableCamera _, .camera camera =>
    { device with enabled := true, equipment := .camera { camera with disabledUntil := none } }
  | delayAlarm ticks, .alarm alarm => { device with equipment := .alarm (alarm.delay ticks) }
  | openDoor _, .door door => { device with equipment := .door { door with isOpen := true } }
  | closeDoor _, .door door => { device with equipment := .door { door with isOpen := false } }
  | retargetTurret _ target, .turret turret =>
    { device with equipment := .turret (turret.retarget target) }
  | tagDevice _ tag, _ => { device with tag := some tag }
  | _, _ => device

/-- What a command tells when it has done something. -/
def tale (line : UInt32) : Command → List Occurrence
  | disableCamera camera duration => [.cameraDisabled line camera duration]
  | enableCamera camera => [.cameraEnabled (some line) camera]
  | delayAlarm ticks => [.alarmDelayed line ticks]
  | openDoor door => [.doorOpened line door]
  | closeDoor door => [.doorClosed line door]
  | retargetTurret turret target => [.turretRetargeted line turret target]
  | tagDevice device tag => [.deviceTagged line device tag]
  | wait _ => []
  | log message => [.logged line message]

/-- What a command tells that finds no device to be for. -/
def idleTale (line : UInt32) : Command → List Occurrence
  | delayAlarm _ => []
  | command => command.tale line

/-- A device of the wrong type stays as it is. -/
theorem alter_of_misfit {command : Command} {device : Device}
    (misfit : command.fits device.type = false) (tick : UInt64) :
    command.alter tick device = device := by
  obtain ⟨id, position, enabled, tag, equipment⟩ := device
  cases command <;> cases equipment <;>
    simp_all [fits, requiredType?, Device.type, Equipment.type, alter]

end Script.Command

namespace World

section

variable {α : Type} {view : Device → Option α} {required : DeviceType} {world : World}
  {command : Script.Command} {key : String}

/-- The device of which a command finds the part that it goes by is of the right type. -/
private theorem found_eq {part : α} {change : Device → Device} {told : List Occurrence}
    (hpart : world.devices.part? key view = some part)
    (typed : command.requiredType? = some required)
    (shown : ∀ device, (view device).isSome ↔ device.type = required)
    (agree : ∀ device, view device = some part →
      change device = command.alter world.tick device) :
    (world.modifyDevice key change, told) =
      if (world.devices.find? key).any fun device => command.fits device.type then
        (world.modifyDevice key (command.alter world.tick), told)
      else (world, []) := by
  obtain ⟨device, found, hview⟩ := Roster.part?_eq_some.mp hpart
  have htype : device.type = required := (shown device).mp (by simp [hview])
  rw [modifyDevice_of_find? found, modifyDevice_of_find? found (command.alter world.tick),
    agree device hview]
  simp [found, Script.Command.fits, typed, htype]

private theorem missing_eq {told : List Occurrence} (hpart : world.devices.part? key view = none)
    (typed : command.requiredType? = some required)
    (shown : ∀ device, (view device).isSome ↔ device.type = required) :
    (world, []) =
      if (world.devices.find? key).any fun device => command.fits device.type then
        (world.modifyDevice key (command.alter world.tick), told)
      else (world, []) := by
  cases found : world.devices.find? key with
  | none => rfl
  | some device =>
      have hview : view device = none := by simpa [Roster.part?, found] using hpart
      have htype : device.type ≠ required := fun h => by simpa [hview] using (shown device).mpr h
      simp [Script.Command.fits, typed, htype]

end

variable {world : World} {command : Script.Command}

/-- A command that is for a device alters it if it is of the right type. -/
theorem perform_eq {key : String} (line : UInt32) (seat : command.seat? world.bus? = some key) :
    world.perform line command =
      if (world.devices.find? key).any fun device => command.fits device.type then
        (world.modifyDevice key (command.alter world.tick), command.tale line)
      else (world, []) := by
  cases command with
  | disableCamera camera duration =>
      obtain rfl : camera = key := Option.some.inj seat
      simp only [perform]
      split
      · exact found_eq ‹_› rfl Device.isSome_camera? fun _ h => by
          simp [Script.Command.alter, Device.camera?_eq_some.mp h]
      · exact missing_eq ‹_› rfl Device.isSome_camera?
  | enableCamera camera =>
      obtain rfl : camera = key := Option.some.inj seat
      simp only [perform]
      split
      · exact found_eq ‹_› rfl Device.isSome_camera? fun _ h => by
          simp [Script.Command.alter, Device.camera?_eq_some.mp h]
      · exact missing_eq ‹_› rfl Device.isSome_camera?
  | openDoor door =>
      obtain rfl : door = key := Option.some.inj seat
      simp only [perform]
      split
      · exact found_eq ‹_› rfl Device.isSome_door? fun _ h => by
          simp [Script.Command.alter, Device.door?_eq_some.mp h]
      · exact missing_eq ‹_› rfl Device.isSome_door?
  | closeDoor door =>
      obtain rfl : door = key := Option.some.inj seat
      simp only [perform]
      split
      · exact found_eq ‹_› rfl Device.isSome_door? fun _ h => by
          simp [Script.Command.alter, Device.door?_eq_some.mp h]
      · exact missing_eq ‹_› rfl Device.isSome_door?
  | retargetTurret turret target =>
      obtain rfl : turret = key := Option.some.inj seat
      simp only [perform]
      split
      · exact found_eq ‹_› rfl Device.isSome_turret? fun _ h => by
          simp [Script.Command.alter, Device.turret?_eq_some.mp h]
      · exact missing_eq ‹_› rfl Device.isSome_turret?
  | tagDevice other tag =>
      obtain rfl : other = key := Option.some.inj seat
      simp only [perform]
      cases found : world.devices.find? other with
      | none => rfl
      | some device => rfl
  | delayAlarm ticks =>
      obtain ⟨⟨other, alarm⟩, first, rfl⟩ := Option.map_eq_some_iff.mp seat
      obtain ⟨device, found, kind⟩ := Roster.alarmEntry?_eq_some first
      have halter : world.setEquipment other (.alarm (alarm.delay ticks)) =
          world.modifyDevice other (Script.Command.alter world.tick (.delayAlarm ticks)) := by
        rw [setEquipment, modifyDevice_of_find? found,
          modifyDevice_of_find? found (Script.Command.alter _ _)]
        simp [Script.Command.alter, kind]
      simp [perform, first, found, halter, Script.Command.fits, Script.Command.requiredType?,
        Script.Command.tale]
  | wait ticks => simp [Script.Command.seat?, Script.Command.device?] at seat
  | log message => simp [Script.Command.seat?, Script.Command.device?] at seat

theorem perform_of_unseated (line : UInt32) (unseated : command.seat? world.bus? = none) :
    world.perform line command = (world, command.idleTale line) := by
  cases command with
  | delayAlarm ticks =>
      rw [perform, Option.map_eq_none_iff.mp unseated]
      rfl
  | wait ticks => rfl
  | log message => rfl
  | _ => simp [Script.Command.seat?, Script.Command.device?] at unseated

theorem world_perform {key : String} (line : UInt32) (seat : command.seat? world.bus? = some key) :
    (world.perform line command).1 = world.modifyDevice key (command.alter world.tick) := by
  rw [perform_eq line seat]
  split
  · rfl
  · rename_i misfit
    have hidle : world.devices.modify key (command.alter world.tick) = world.devices := by
      apply Roster.modify_of_idle
      intro device found
      exact Script.Command.alter_of_misfit (by simpa [found] using misfit) world.tick
    rw [modifyDevice, hidle]

/-- What a command tells, whether it finds its device or not, belongs to its tale. -/
theorem mem_tale_of_mem_perform {line : UInt32} {occurrence : Occurrence}
    (member : occurrence ∈ (world.perform line command).2) : occurrence ∈ command.tale line := by
  cases seat : command.seat? world.bus? with
  | none =>
      rw [perform_of_unseated line seat] at member
      cases command with
      | delayAlarm => exact absurd member List.not_mem_nil
      | _ => exact member
  | some key =>
      rw [perform_eq line seat] at member
      split at member
      · exact member
      · exact absurd member List.not_mem_nil

end World

end Infiltration
