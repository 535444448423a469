import Infiltration.Level
import Infiltration.Roster

/-!
The state of a run: the tick, the player, the devices as they are now and the outcome so far.
-/

namespace Infiltration

structure Player where
  position : Point
  /-- The place on the level's path that the player holds. -/
  pathIndex : Nat
  alive : Bool
  reachedExit : Bool
  /-- The door that keeps the player from the next step. -/
  blockedBy : Option String
  deriving DecidableEq, Repr

inductive Outcome where
  | running
  | success
  | failure
  deriving DecidableEq, Repr

namespace Outcome

def all : List Outcome := [running, success, failure]

def name : Outcome → String
  | running => "running"
  | success => "success"
  | failure => "failure"

/-- The outcome as a report writes it. -/
def title : Outcome → String
  | running => "Running"
  | success => "Success"
  | failure => "Failure"

end Outcome

structure World where
  tick : UInt64
  player : Player
  devices : Roster
  outcome : Outcome
  deriving DecidableEq, Repr

namespace World

/-- The player on the entry, the devices as the level has them. -/
def start (level : Level) : World where
  tick := 0
  player :=
    { position := level.entry, pathIndex := 0, alive := true, reachedExit := false, blockedBy := none }
  devices := Roster.ofDevices level.devices
  outcome := .running

def decided (world : World) : Bool := world.outcome ≠ .running

/-- How far the alarm has escalated. -/
def alarmLevel (world : World) : AlarmLevel := world.devices.alarmLevel

/-- Change the device under a key. -/
def modifyDevice (world : World) (key : String) (change : Device → Device) : World :=
  { world with devices := world.devices.modify key change }

end World

end Infiltration
