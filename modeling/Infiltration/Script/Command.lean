/-!
The commands a script can give, and the forms in which they travel: read from a line, and set to a tick.
-/

namespace Infiltration.Script

inductive Command where
  /-- Without a duration the camera stays off until it is enabled. -/
  | disableCamera (camera : String) (duration : Option UInt64)
  | enableCamera (camera : String)
  | delayAlarm (ticks : UInt64)
  | openDoor (door : String)
  | closeDoor (door : String)
  | retargetTurret (turret target : String)
  | tagDevice (device tag : String)
  | wait (ticks : UInt64)
  | log (message : String)
  deriving DecidableEq, Repr

namespace Command

def label : Command → String
  | disableCamera _ _ => "camera.disable"
  | enableCamera _ => "camera.enable"
  | delayAlarm _ => "alarm.delay"
  | openDoor _ => "door.open"
  | closeDoor _ => "door.close"
  | retargetTurret _ _ => "turret.retarget"
  | tagDevice _ _ => "device.tag"
  | wait _ => "wait"
  | log _ => "log"

/-- The device that the command acts on. -/
def device? : Command → Option String
  | disableCamera camera _ => some camera
  | enableCamera camera => some camera
  | openDoor door => some door
  | closeDoor door => some door
  | retargetTurret turret _ => some turret
  | tagDevice device _ => some device
  | delayAlarm _ => none
  | wait _ => none
  | log _ => none

def target? : Command → Option String
  | retargetTurret _ target => some target
  | _ => none

/-- The free text of the command: a tag or a message. -/
def text? : Command → Option String
  | tagDevice _ tag => some tag
  | log message => some message
  | _ => none

/-- The number of ticks that the command gives. -/
def amount? : Command → Option UInt64
  | disableCamera _ duration => duration
  | delayAlarm ticks => some ticks
  | wait ticks => some ticks
  | _ => none

end Command

/-- A command read from a line of a script; `raw` is the trimmed line. -/
structure Statement where
  line : UInt32
  raw : String
  command : Command
  deriving DecidableEq, Repr

/-- A command set to the tick on which it is carried out. -/
structure Cue where
  tick : UInt64
  line : UInt32
  raw : String
  command : Command
  deriving DecidableEq, Repr

end Infiltration.Script
