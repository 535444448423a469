import Infiltration.Level

/-!
What can be wrong with the structure of a level. `Level.fault?` names the first fault in a fixed order:
ids, alarms, the player's path, patrol paths, the network scope, points outside the map.
-/

namespace Infiltration

/-- A place that a level names. -/
inductive Landmark where
  | entry
  | exit
  | playerPath
  | device (id : String)
  | patrol (id : String)
  deriving DecidableEq, Repr

def Landmark.display : Landmark → String
  | entry => "entry"
  | exit => "exit"
  | playerPath => "player path"
  | device id => "device " ++ id
  | patrol id => "drone " ++ id ++ " path"

inductive LevelFault where
  | duplicateDevice (id : String)
  | multipleAlarms (count : Nat)
  | emptyPlayerPath
  | shortPatrol (id : String) (length : Nat)
  | unknownScopeDevice (id : String)
  | outOfBounds (landmark : Landmark) (point : Point) (map : LevelMap)
  deriving DecidableEq, Repr

def LevelFault.message : LevelFault → String
  | duplicateDevice id => "device id '" ++ id ++ "' is used more than once"
  | multipleAlarms count =>
    "level declares " ++ toString count ++ " alarm devices, at most one is allowed"
  | emptyPlayerPath => "player path is empty"
  | shortPatrol id length =>
    "drone '" ++ id ++ "' has a patrol path of " ++ toString length ++
      " point(s), at least 2 are required"
  | unknownScopeDevice id => "network scope names unknown device '" ++ id ++ "'"
  | outOfBounds landmark point map =>
    landmark.display ++ " at " ++ point.display ++ " lies outside the " ++
      toString map.width.toInt ++ "x" ++ toString map.height.toInt ++ " map"

namespace Level

/-- The first name that occurs among the seen names or before itself in the list. -/
def firstRepeat? (seen : List String) : List String → Option String
  | [] => none
  | name :: rest => if name ∈ seen then some name else firstRepeat? (name :: seen) rest

def duplicate? (level : Level) : Option LevelFault :=
  (firstRepeat? [] (level.devices.map Device.id)).map .duplicateDevice

def surplusAlarms? (level : Level) : Option LevelFault :=
  if level.alarms.length > 1 then some (.multipleAlarms level.alarms.length) else none

def emptyPath? (level : Level) : Option LevelFault :=
  if level.playerPath.isEmpty then some .emptyPlayerPath else none

def shortPatrol? (level : Level) : Option LevelFault :=
  level.devices.findSome? fun device =>
    match device.drone? with
    | some drone =>
      if drone.path.length < 2 then some (.shortPatrol device.id drone.path.length) else none
    | none => none

def unknownScope? (level : Level) : Option LevelFault :=
  (level.networkScope.find? fun id => (level.device? id).isNone).map .unknownScopeDevice

/-- Where a device stands, and where it walks if it is a drone. -/
def deviceLandmarks (device : Device) : List (Landmark × Point) :=
  (.device device.id, device.position) ::
    match device.drone? with
    | some drone => drone.path.map fun point => (.patrol device.id, point)
    | none => []

/-- Every point a level names, in the order in which they are looked at. -/
def landmarks (level : Level) : List (Landmark × Point) :=
  (.entry, level.entry) :: (.exit, level.exit) ::
    (level.playerPath.map fun point => (.playerPath, point)) ++
      level.devices.flatMap deviceLandmarks

def outside? (level : Level) : Option LevelFault :=
  (level.landmarks.find? fun mark => !level.map.contains mark.2).map fun mark =>
    .outOfBounds mark.1 mark.2 level.map

/-- The first structural fault, or none if the level is sound. -/
def fault? (level : Level) : Option LevelFault :=
  level.duplicate? <|> level.surplusAlarms? <|> level.emptyPath? <|> level.shortPatrol? <|>
    level.unknownScope? <|> level.outside?

end Level

end Infiltration
