import Infiltration.Capped
import Infiltration.Device

/-!
Levels: the map, the route through it, the devices on it and the limits set to a script.
-/

namespace Infiltration

structure LevelMap where
  width : Int32
  height : Int32
  walls : List Point := []
  deriving DecidableEq, Repr

/-- Whether a cell lies on the map, whose cells start at zero in both directions. -/
def LevelMap.contains (map : LevelMap) (p : Point) : Bool :=
  0 ≤ p.x.toInt && 0 ≤ p.y.toInt && p.x.toInt < map.width.toInt && p.y.toInt < map.height.toInt

/-- What a script may use and how long a run may last. -/
structure Constraints where
  maxLines : UInt32
  maxCommands : UInt32
  maxDelay : UInt64
  tickLimit : UInt64
  deriving DecidableEq, Repr

/-- Allowances on top of a level's constraints. -/
structure Bonus where
  maxLines : UInt32 := 0
  maxCommands : UInt32 := 0
  maxDelay : UInt64 := 0
  deriving DecidableEq, Repr

namespace Constraints

/-- The script's allowances grow by the bonus; the length of a run stays. -/
def widen (constraints : Constraints) (bonus : Bonus) : Constraints where
  maxLines := Capped.add32 constraints.maxLines bonus.maxLines
  maxCommands := Capped.add32 constraints.maxCommands bonus.maxCommands
  maxDelay := Capped.add64 constraints.maxDelay bonus.maxDelay
  tickLimit := constraints.tickLimit

/-- The tick at which a run times out: the level's own limit or the ceiling, whichever is lower. -/
def limitUnder (constraints : Constraints) (ceiling : UInt64) : UInt64 :=
  min constraints.tickLimit ceiling

end Constraints

/-- The ceiling on the length of a run where none is given. -/
def defaultCeiling : UInt64 := 300

structure Level where
  id : String
  name : String := ""
  brief : String := ""
  map : LevelMap
  entry : Point
  exit : Point
  playerPath : List Point
  devices : List Device
  networkScope : List String
  constraints : Constraints
  suggestedScript : Option String := none
  deriving DecidableEq, Repr

namespace Level

/-- The first device with this id. -/
def device? (level : Level) (id : String) : Option Device :=
  level.devices.find? fun device => device.id = id

def inScope (level : Level) (id : String) : Bool :=
  level.networkScope.contains id

def alarms (level : Level) : List Device :=
  level.devices.filter fun device => device.type = .alarm

def alarmInScope (level : Level) : Bool :=
  level.alarms.any fun device => level.inScope device.id

end Level

end Infiltration
