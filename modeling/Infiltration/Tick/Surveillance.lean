import Infiltration.Tick.Commands

/-!
Cameras and the alarm. A camera reports the player when it begins to see it; the alarm turns yellow on
any sight of the player, red at its deadline, and red closes the doors that are made to close.
-/

namespace Infiltration

/-- Whether a device is a working camera with the living player in range and in view. -/
def Device.sees (device : Device) (player : Player) : Bool :=
  match device.equipment with
  | .camera camera =>
    player.alive && device.enabled &&
      device.position.distance player.position ≤ camera.range.toNat &&
      camera.facing.covers device.position player.position
  | _ => false

/-- The cameras that see the player now. -/
def World.sightings (world : World) : List String :=
  (world.devices.devices.filter fun device => device.sees world.player).map Device.id

namespace Alarm

/-- A sight of the player starts a green alarm: the deadline is set and uses up the buffer. -/
def alert (tick : UInt64) (alarm : Alarm) : Alarm × List Occurrence :=
  if alarm.level = .green then
    ({ alarm with
        level := .yellow
        redAt := some (Capped.add64 (Capped.add64 tick alarm.escalation) alarm.delayBuffer)
        delayBuffer := 0 },
      [.alarmChanged .green .yellow])
  else (alarm, [])

/-- Whether a yellow alarm has reached its deadline. -/
def due (tick : UInt64) (alarm : Alarm) : Bool :=
  alarm.level = .yellow && alarm.redAt.any fun deadline => deadline ≤ tick

def redden (alarm : Alarm) : Alarm := { alarm with level := .red, redAt := none }

end Alarm

/-- An open door that is made to close on red closes. -/
def Device.lockDown (device : Device) : Device × List Occurrence :=
  match device.equipment with
  | .door door =>
    if door.closesOnRed && door.isOpen then
      ({ device with equipment := .door { door with isOpen := false } }, [.doorLockedDown device.id])
    else (device, [])
  | _ => (device, [])

namespace Tick

/-- Cameras report the player, except those that were watching it already. -/
def reportSightings (watching : List String) : Phase := fun world =>
  (world, (world.sightings.filter fun camera => !watching.contains camera).map .playerDetected)

def lockDoors : Phase := fun world =>
  let swept := world.devices.sweep Device.lockDown
  ({ world with devices := swept.1 }, swept.2)

/-- The alarm turns red, and doors close. -/
def turnRed (key : String) (alarm : Alarm) : Phase := fun world =>
  let locked := lockDoors (world.setEquipment key (.alarm alarm.redden))
  (locked.1, .alarmChanged .yellow .red :: locked.2)

/-- The alarm takes note of what the cameras see and of its deadline. -/
def escalate : Phase := fun world =>
  match world.devices.alarmEntry? with
  | none => (world, [])
  | some (key, alarm) =>
    let alerted := if world.sightings.isEmpty then (alarm, []) else alarm.alert world.tick
    if alerted.1.due world.tick then
      let reddened := turnRed key alerted.1 world
      (reddened.1, alerted.2 ++ reddened.2)
    else (world.setEquipment key (.alarm alerted.1), alerted.2)

end Tick

end Infiltration
