import Infiltration.Tick.Phase

/-!
The player's step along the level's path, and the end of the time.
-/

namespace Infiltration.Tick

def reachExit : Phase := fun world =>
  ({ world with player := { world.player with reachedExit := true } }, [.exitReached])

/-- The player stands before a door. The door is reported when it begins to block. -/
def stopAt (door : String) : Phase := fun world =>
  ({ world with player := { world.player with blockedBy := some door } },
    if world.player.blockedBy = some door then [] else [.playerBlocked door])

/-- The player takes the next cell. -/
def stepTo (level : Level) (cell : Point) : Phase := fun world =>
  let player := world.player
  let moved :=
    { world with
      player := { player with position := cell, pathIndex := player.pathIndex + 1, blockedBy := none } }
  if cell = level.exit then reachExit moved else (moved, [])

/-- A living player takes the next cell unless a closed door stands there, and is out on the exit cell,
also when the path ends there. -/
def walk (level : Level) : Phase := fun world =>
  if world.player.alive && !world.player.reachedExit then
    match level.playerPath[world.player.pathIndex + 1]? with
    | some cell =>
      match world.devices.closedDoorAt cell with
      | some door => stopAt door.id world
      | none => stepTo level cell world
    | none => if world.player.position = level.exit then reachExit world else (world, [])
  else (world, [])

def timeOut (limit : UInt64) : Phase := fun world =>
  (world, if limit ≤ world.tick then [.timedOut limit] else [])

end Infiltration.Tick
