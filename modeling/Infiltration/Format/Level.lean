import Infiltration.Format.Device
import Infiltration.Level

/-!
The JSON form of levels, their constraints and bonuses.
-/

namespace Infiltration

open Json

namespace LevelMap

def toJson (map : LevelMap) : Json :=
  .object [("width", ofSigned32 map.width), ("height", ofSigned32 map.height),
    ("walls", Json.ofList Point.toJson map.walls)]

def ofJson? (json : Json) : Option LevelMap := do
  let members ← json.record? ["width", "height", "walls"] 2
  let width ← members.required "width" signed32?
  let height ← members.required "height" signed32?
  let walls ← members.withDefault "walls" (list? Point.ofJson?) []
  some { width, height, walls }

end LevelMap

namespace Constraints

def toJson (constraints : Constraints) : Json :=
  .object [("maxLines", ofWord32 constraints.maxLines), ("maxCommands", ofWord32 constraints.maxCommands),
    ("maxDelayTicks", ofWord64 constraints.maxDelay), ("tickLimit", ofWord64 constraints.tickLimit)]

def ofJson? (json : Json) : Option Constraints := do
  let members ← json.record? ["maxLines", "maxCommands", "maxDelayTicks", "tickLimit"] 4
  let maxLines ← members.required "maxLines" word32?
  let maxCommands ← members.required "maxCommands" word32?
  let maxDelay ← members.required "maxDelayTicks" word64?
  let tickLimit ← members.required "tickLimit" word64?
  some { maxLines, maxCommands, maxDelay, tickLimit }

end Constraints

namespace Bonus

def toJson (bonus : Bonus) : Json :=
  .object [("maxLines", ofWord32 bonus.maxLines), ("maxCommands", ofWord32 bonus.maxCommands),
    ("maxDelayTicks", ofWord64 bonus.maxDelay)]

def ofJson? (json : Json) : Option Bonus := do
  let members ← json.record? ["maxLines", "maxCommands", "maxDelayTicks"] 0
  let maxLines ← members.withDefault "maxLines" word32? 0
  let maxCommands ← members.withDefault "maxCommands" word32? 0
  let maxDelay ← members.withDefault "maxDelayTicks" word64? 0
  some { maxLines, maxCommands, maxDelay }

end Bonus

namespace Level

def toJson (level : Level) : Json :=
  .object <|
    [("id", .string level.id), ("name", .string level.name), ("brief", .string level.brief),
      ("map", level.map.toJson), ("entry", level.entry.toJson), ("exit", level.exit.toJson),
      ("playerPath", Json.ofList Point.toJson level.playerPath),
      ("devices", Json.ofList Device.toJson level.devices),
      ("networkScope", Json.ofList .string level.networkScope),
      ("constraints", level.constraints.toJson)] ++
    memberIf "suggestedScript" .string level.suggestedScript

def ofJson? (json : Json) : Option Level := do
  let members ← json.record?
    ["id", "name", "brief", "map", "entry", "exit", "playerPath", "devices", "networkScope",
      "constraints", "suggestedScript"] 10
  let id ← members.required "id" string?
  let name ← members.withDefault "name" string? ""
  let brief ← members.withDefault "brief" string? ""
  let map ← members.required "map" LevelMap.ofJson?
  let entry ← members.required "entry" Point.ofJson?
  let exit ← members.required "exit" Point.ofJson?
  let playerPath ← members.required "playerPath" (list? Point.ofJson?)
  let devices ← members.required "devices" (list? Device.ofJson?)
  let networkScope ← members.required "networkScope" (list? string?)
  let constraints ← members.required "constraints" Constraints.ofJson?
  let suggestedScript ← members.optional "suggestedScript" string?
  some
    { id, name, brief, map, entry, exit, playerPath, devices, networkScope, constraints,
      suggestedScript }

end Level

end Infiltration
