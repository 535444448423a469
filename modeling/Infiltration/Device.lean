import Infiltration.Grid

/-!
Security devices. Every device has an id, a place, a switch and an optional tag; what else it has
depends on its kind.
-/

namespace Infiltration

/-- How far an alarm has escalated. -/
inductive AlarmLevel where
  | green
  | yellow
  | red
  deriving DecidableEq, Repr, Inhabited

namespace AlarmLevel

def all : List AlarmLevel := [green, yellow, red]

def name : AlarmLevel → String
  | green => "GREEN"
  | yellow => "YELLOW"
  | red => "RED"

end AlarmLevel

/-- When a turret may engage. -/
inductive Trigger where
  | always
  | red
  deriving DecidableEq, Repr

namespace Trigger

def all : List Trigger := [always, red]

def name : Trigger → String
  | always => "ALWAYS"
  | red => "RED"

end Trigger

/-! ## What each kind carries -/

/-- A camera that was switched off for a while has the tick at which it comes back. -/
structure Camera where
  range : UInt32
  facing : Facing
  disabledUntil : Option UInt64 := none
  deriving DecidableEq, Repr

/-- A turret fires once it has held one target for as many ticks as its lock delay. -/
structure Turret where
  range : UInt32
  lockDelay : UInt32
  trigger : Trigger
  desiredTarget : Option String := none
  currentTarget : Option String := none
  lockTicks : UInt32 := 0
  deriving DecidableEq, Repr

/-- A drone walks its path round and round, one cell per step interval. -/
structure Drone where
  path : List Point
  pathIndex : Nat := 0
  stepInterval : UInt32
  stepTimer : UInt32 := 0
  alive : Bool := true
  deriving DecidableEq, Repr

structure Door where
  isOpen : Bool
  closesOnRed : Bool := false
  deriving DecidableEq, Repr

/-- A delay that is granted before any detection waits in the buffer. -/
structure Alarm where
  level : AlarmLevel := .green
  escalation : UInt64
  redAt : Option UInt64 := none
  delayBuffer : UInt64 := 0
  deriving DecidableEq, Repr

inductive DeviceType where
  | camera
  | turret
  | drone
  | door
  | alarm
  | terminal
  deriving DecidableEq, Repr

namespace DeviceType

def all : List DeviceType := [camera, turret, drone, door, alarm, terminal]

def name : DeviceType → String
  | camera => "camera"
  | turret => "turret"
  | drone => "drone"
  | door => "door"
  | alarm => "alarm"
  | terminal => "terminal"

end DeviceType

/-- The kind of a device together with what only that kind has. -/
inductive Equipment where
  | camera (camera : Camera)
  | turret (turret : Turret)
  | drone (drone : Drone)
  | door (door : Door)
  | alarm (alarm : Alarm)
  | terminal
  deriving DecidableEq, Repr

def Equipment.type : Equipment → DeviceType
  | .camera _ => .camera
  | .turret _ => .turret
  | .drone _ => .drone
  | .door _ => .door
  | .alarm _ => .alarm
  | .terminal => .terminal

structure Device where
  id : String
  position : Point
  enabled : Bool := true
  tag : Option String := none
  equipment : Equipment
  deriving DecidableEq, Repr

namespace Device

def type (device : Device) : DeviceType := device.equipment.type

/-! ## Views -/

def camera? (device : Device) : Option Camera :=
  match device.equipment with
  | .camera camera => some camera
  | _ => none

def turret? (device : Device) : Option Turret :=
  match device.equipment with
  | .turret turret => some turret
  | _ => none

def drone? (device : Device) : Option Drone :=
  match device.equipment with
  | .drone drone => some drone
  | _ => none

def door? (device : Device) : Option Door :=
  match device.equipment with
  | .door door => some door
  | _ => none

def alarm? (device : Device) : Option Alarm :=
  match device.equipment with
  | .alarm alarm => some alarm
  | _ => none

theorem camera?_eq_some {device : Device} {camera : Camera} :
    device.camera? = some camera ↔ device.equipment = .camera camera := by
  cases h : device.equipment <;> simp [camera?, h]

theorem turret?_eq_some {device : Device} {turret : Turret} :
    device.turret? = some turret ↔ device.equipment = .turret turret := by
  cases h : device.equipment <;> simp [turret?, h]

theorem drone?_eq_some {device : Device} {drone : Drone} :
    device.drone? = some drone ↔ device.equipment = .drone drone := by
  cases h : device.equipment <;> simp [drone?, h]

theorem door?_eq_some {device : Device} {door : Door} :
    device.door? = some door ↔ device.equipment = .door door := by
  cases h : device.equipment <;> simp [door?, h]

theorem alarm?_eq_some {device : Device} {alarm : Alarm} :
    device.alarm? = some alarm ↔ device.equipment = .alarm alarm := by
  cases h : device.equipment <;> simp [alarm?, h]

theorem isSome_camera? (device : Device) : device.camera?.isSome ↔ device.type = .camera := by
  cases h : device.equipment <;> simp [camera?, type, Equipment.type, h]

theorem isSome_turret? (device : Device) : device.turret?.isSome ↔ device.type = .turret := by
  cases h : device.equipment <;> simp [turret?, type, Equipment.type, h]

theorem isSome_door? (device : Device) : device.door?.isSome ↔ device.type = .door := by
  cases h : device.equipment <;> simp [door?, type, Equipment.type, h]

theorem isSome_alarm? (device : Device) : device.alarm?.isSome ↔ device.type = .alarm := by
  cases h : device.equipment <;> simp [alarm?, type, Equipment.type, h]

/-! ## New devices -/

def newCamera (id : String) (position : Point) (range : UInt32) (facing : Facing) : Device :=
  { id, position, equipment := .camera { range, facing } }

def newTurret (id : String) (position : Point) (range lockDelay : UInt32) (trigger : Trigger) : Device :=
  { id, position, equipment := .turret { range, lockDelay, trigger } }

/-- A drone starts on the first cell of its path. -/
def newDrone (id : String) (path : List Point) (stepInterval : UInt32) : Device :=
  { id, position := path.headD default, equipment := .drone { path, stepInterval } }

def newDoor (id : String) (position : Point) (isOpen : Bool) : Device :=
  { id, position, equipment := .door { isOpen } }

def newAlarm (id : String) (position : Point) (escalation : UInt64) : Device :=
  { id, position, equipment := .alarm { escalation } }

def newTerminal (id : String) (position : Point) : Device :=
  { id, position, equipment := .terminal }

/-- Make a door close when the alarm turns red. Other devices stay as they are. -/
def withLockdown (device : Device) : Device :=
  match device.equipment with
  | .door door => { device with equipment := .door { door with closesOnRed := true } }
  | _ => device

end Device

end Infiltration
