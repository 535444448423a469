import Infiltration.Event.Payload

/-!
Events as they stand in a log: numbered, dated, of one kind and category, with the script line that
caused them if one did.
-/

namespace Infiltration

inductive EventKind where
  | scriptLineExecuted
  | deviceDisabled
  | deviceEnabled
  | alarmDelayApplied
  | doorOpened
  | doorClosed
  | turretRetargeted
  | deviceTagged
  | log
  | cameraDetectedPlayer
  | alarmStateChanged
  | turretTargetLock
  | turretFired
  | playerKilled
  | droneDestroyed
  | playerBlockedByDoor
  | playerReachedExit
  | runTimeout
  deriving DecidableEq, Repr

namespace EventKind

def all : List EventKind :=
  [scriptLineExecuted, deviceDisabled, deviceEnabled, alarmDelayApplied, doorOpened, doorClosed,
    turretRetargeted, deviceTagged, log, cameraDetectedPlayer, alarmStateChanged, turretTargetLock,
    turretFired, playerKilled, droneDestroyed, playerBlockedByDoor, playerReachedExit, runTimeout]

def name : EventKind → String
  | scriptLineExecuted => "SCRIPT_LINE_EXECUTED"
  | deviceDisabled => "DEVICE_DISABLED"
  | deviceEnabled => "DEVICE_ENABLED"
  | alarmDelayApplied => "ALARM_DELAY_APPLIED"
  | doorOpened => "DOOR_OPENED"
  | doorClosed => "DOOR_CLOSED"
  | turretRetargeted => "TURRET_RETARGETED"
  | deviceTagged => "DEVICE_TAGGED"
  | log => "LOG"
  | cameraDetectedPlayer => "CAMERA_DETECTED_PLAYER"
  | alarmStateChanged => "ALARM_STATE_CHANGED"
  | turretTargetLock => "TURRET_TARGET_LOCK"
  | turretFired => "TURRET_FIRED"
  | playerKilled => "PLAYER_KILLED"
  | droneDestroyed => "DRONE_DESTROYED"
  | playerBlockedByDoor => "PLAYER_BLOCKED_BY_DOOR"
  | playerReachedExit => "PLAYER_REACHED_EXIT"
  | runTimeout => "RUN_TIMEOUT"

end EventKind

inductive Category where
  | script
  | detection
  | alarm
  | combat
  | movement
  | system
  deriving DecidableEq, Repr

namespace Category

def all : List Category := [script, detection, alarm, combat, movement, system]

def name : Category → String
  | script => "script"
  | detection => "detection"
  | alarm => "alarm"
  | combat => "combat"
  | movement => "movement"
  | system => "system"

end Category

structure Event where
  id : UInt64
  tick : UInt64
  kind : EventKind
  category : Category
  line : Option UInt32 := none
  payload : Payload
  deriving DecidableEq, Repr

namespace Event

/-- The text under a key of the payload. -/
def text? (event : Event) (key : String) : Option String := event.payload.text? key

/-- The tick, the kind and every fact as key and value. -/
def display (event : Event) : String :=
  "[t=" ++ toString event.tick.toNat ++ "] " ++ event.kind.name ++
    String.join (event.payload.entries.map fun entry => " " ++ entry.1 ++ "=" ++ entry.2.display)

end Event

end Infiltration
