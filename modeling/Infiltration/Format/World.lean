import Infiltration.Format.Device
import Infiltration.World

/-!
The JSON forms of the player, of the devices by id and of a running world. The player's place is spread
out in the player's own object, which like that of a device is taken in whole.
-/

namespace Infiltration

open Json

namespace Player

def toJson (player : Player) : Json :=
  .object [("x", ofSigned32 player.position.x), ("y", ofSigned32 player.position.y),
    ("pathIndex", ofIndex player.pathIndex), ("alive", .bool player.alive),
    ("reachedExit", .bool player.reachedExit), ("blockedByDoorId", ofOption .string player.blockedBy)]

def ofJson? (json : Json) : Option Player := do
  guard json.isHeld
  let members ← json.known? ["x", "y", "pathIndex", "alive", "reachedExit", "blockedByDoorId"]
  let x ← members.required "x" signed32?
  let y ← members.required "y" signed32?
  let pathIndex ← members.required "pathIndex" index?
  let alive ← members.required "alive" bool?
  let reachedExit ← members.required "reachedExit" bool?
  let blockedBy ← members.optional "blockedByDoorId" string?
  some { position := { x, y }, pathIndex, alive, reachedExit, blockedBy }

end Player

namespace Roster

def toJson (roster : Roster) : Json :=
  .object (roster.entries.map fun entry => (entry.1, entry.2.toJson))

def ofJson? : Json → Option Roster
  | .object members =>
    (members.mapM fun member => (Device.ofJson? member.2).map fun device => (member.1, device)).map ofList
  | _ => none

end Roster

namespace Outcome

def toJson (outcome : Outcome) : Json := .string outcome.name

def ofJson? : Json → Option Outcome := variant? all name

end Outcome

namespace World

def toJson (world : World) : Json :=
  .object [("tick", ofWord64 world.tick), ("player", world.player.toJson),
    ("devices", world.devices.toJson), ("outcome", world.outcome.toJson)]

def ofJson? (json : Json) : Option World := do
  let members ← json.record? ["tick", "player", "devices", "outcome"] 4
  let tick ← members.required "tick" word64?
  let player ← members.required "player" Player.ofJson?
  let devices ← members.required "devices" Roster.ofJson?
  let outcome ← members.required "outcome" Outcome.ofJson?
  some { tick, player, devices, outcome }

end World

end Infiltration
