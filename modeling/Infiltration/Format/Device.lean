import Infiltration.Device
import Infiltration.Json.Members

/-!
The JSON forms of points and devices. A device is one flat object: the common fields, its type, and the
fields that only this type has. It is taken in whole before its fields are looked up, so even a field that
no device has must hold a value; and where a name stands as a key, the value under it may be empty.
-/

namespace Infiltration

open Json

namespace Point

def toJson (p : Point) : Json := .object [("x", ofSigned32 p.x), ("y", ofSigned32 p.y)]

def ofJson? (json : Json) : Option Point := do
  let members ← json.record? ["x", "y"] 2
  let x ← members.required "x" signed32?
  let y ← members.required "y" signed32?
  some { x, y }

end Point

namespace Facing

def toJson (facing : Facing) : Json := .string facing.name

def ofJson? : Json → Option Facing := variantOver? isEmpty all name

end Facing

namespace Trigger

def toJson (trigger : Trigger) : Json := .string trigger.name

def ofJson? : Json → Option Trigger := variantOver? isEmpty all name

end Trigger

namespace AlarmLevel

def toJson (level : AlarmLevel) : Json := .string level.name

def ofJson? : Json → Option AlarmLevel := variant? all name

end AlarmLevel

/-! ## The fields of each type -/

namespace Camera

def members (camera : Camera) : Members :=
  [("range", ofWord32 camera.range), ("facing", camera.facing.toJson),
    ("disabledUntilTick", ofOption ofWord64 camera.disabledUntil)]

def ofJson? (json : Json) : Option Camera := do
  let members ← json.known? ["range", "facing", "disabledUntilTick"]
  let range ← members.required "range" word32?
  let facing ← members.required "facing" Facing.ofJson?
  let disabledUntil ← members.optional "disabledUntilTick" word64?
  some { range, facing, disabledUntil }

end Camera

namespace Turret

def members (turret : Turret) : Members :=
  [("range", ofWord32 turret.range), ("lockDelay", ofWord32 turret.lockDelay),
    ("alarmTrigger", turret.trigger.toJson),
    ("desiredTargetId", ofOption .string turret.desiredTarget),
    ("currentTargetId", ofOption .string turret.currentTarget),
    ("lockTicks", ofWord32 turret.lockTicks)]

def ofJson? (json : Json) : Option Turret := do
  let members ← json.known?
    ["range", "lockDelay", "alarmTrigger", "desiredTargetId", "currentTargetId", "lockTicks"]
  let range ← members.required "range" word32?
  let lockDelay ← members.required "lockDelay" word32?
  let trigger ← members.required "alarmTrigger" Trigger.ofJson?
  let desiredTarget ← members.optional "desiredTargetId" string?
  let currentTarget ← members.optional "currentTargetId" string?
  let lockTicks ← members.withDefault "lockTicks" word32? 0
  some { range, lockDelay, trigger, desiredTarget, currentTarget, lockTicks }

end Turret

namespace Drone

def members (drone : Drone) : Members :=
  [("path", Json.ofList Point.toJson drone.path), ("pathIndex", ofIndex drone.pathIndex),
    ("stepInterval", ofWord32 drone.stepInterval), ("stepTimer", ofWord32 drone.stepTimer),
    ("alive", .bool drone.alive)]

def ofJson? (json : Json) : Option Drone := do
  let members ← json.known? ["path", "pathIndex", "stepInterval", "stepTimer", "alive"]
  let path ← members.required "path" (list? Point.ofJson?)
  let pathIndex ← members.withDefault "pathIndex" index? 0
  let stepInterval ← members.required "stepInterval" word32?
  let stepTimer ← members.withDefault "stepTimer" word32? 0
  let alive ← members.withDefault "alive" bool? true
  some { path, pathIndex, stepInterval, stepTimer, alive }

end Drone

namespace Door

def members (door : Door) : Members :=
  [("isOpen", .bool door.isOpen), ("closesOnAlarmRed", .bool door.closesOnRed)]

def ofJson? (json : Json) : Option Door := do
  let members ← json.known? ["isOpen", "closesOnAlarmRed"]
  let isOpen ← members.required "isOpen" bool?
  let closesOnRed ← members.withDefault "closesOnAlarmRed" bool? false
  some { isOpen, closesOnRed }

end Door

namespace Alarm

def members (alarm : Alarm) : Members :=
  [("state", alarm.level.toJson), ("baseEscalationTicks", ofWord64 alarm.escalation),
    ("redAtTick", ofOption ofWord64 alarm.redAt), ("manualDelayBuffer", ofWord64 alarm.delayBuffer)]

def ofJson? (json : Json) : Option Alarm := do
  let members ← json.known? ["state", "baseEscalationTicks", "redAtTick", "manualDelayBuffer"]
  let level ← members.withDefault "state" (variantOver? isEmpty AlarmLevel.all AlarmLevel.name) .green
  let escalation ← members.required "baseEscalationTicks" word64?
  let redAt ← members.optional "redAtTick" word64?
  let delayBuffer ← members.withDefault "manualDelayBuffer" word64? 0
  some { level, escalation, redAt, delayBuffer }

end Alarm

/-! ## Devices -/

namespace DeviceType

def toJson (type : DeviceType) : Json := .string type.name

/-- A type stands under its name or under its place in the list of types. -/
def ofJson? : Json → Option DeviceType
  | .integer (.ofNat place) => all[place]?
  | json => named? all name json

end DeviceType

namespace Equipment

def members : Equipment → Members
  | .camera part => part.members
  | .turret part => part.members
  | .drone part => part.members
  | .door part => part.members
  | .alarm part => part.members
  | .terminal => []

/-- The equipment of a type, whose fields stand in the device's own object. -/
def ofJson? (type : DeviceType) (json : Json) : Option Equipment :=
  match type with
  | .camera => (Camera.ofJson? json).map .camera
  | .turret => (Turret.ofJson? json).map .turret
  | .drone => (Drone.ofJson? json).map .drone
  | .door => (Door.ofJson? json).map .door
  | .alarm => (Alarm.ofJson? json).map .alarm
  | .terminal => some .terminal

end Equipment

namespace Device

def toJson (device : Device) : Json :=
  .object <|
    [("id", .string device.id), ("x", ofSigned32 device.position.x), ("y", ofSigned32 device.position.y),
      ("enabled", .bool device.enabled)] ++
    memberIf "tag" .string device.tag ++
    ("type", device.type.toJson) :: device.equipment.members

def ofJson? (json : Json) : Option Device := do
  guard json.isHeld
  let members ← json.known? ["id", "x", "y", "enabled", "tag", "type"]
  let id ← members.required "id" string?
  let x ← members.required "x" signed32?
  let y ← members.required "y" signed32?
  let enabled ← members.required "enabled" bool?
  let tag ← members.optional "tag" string?
  let type ← members.required "type" DeviceType.ofJson?
  let equipment ← Equipment.ofJson? type json
  some { id, position := { x, y }, enabled, tag, equipment }

end Device

end Infiltration
