import Infiltration.Event.Log
import Infiltration.Json.Members

/-!
The JSON forms of facts, payloads, events and logs. A log is the plain array of its events.
-/

namespace Infiltration

open Json

namespace Fact

def toJson : Fact → Json
  | null => .null
  | flag value => .bool value
  | count value => ofWord64 value
  | text value => .string value

def ofJson? : Json → Option Fact
  | .null => some null
  | .bool value => some (flag value)
  | .string value => some (text value)
  | json => (word64? json).map count

end Fact

namespace Payload

def toJson (payload : Payload) : Json :=
  .object (payload.entries.map fun entry => (entry.1, entry.2.toJson))

def ofJson? : Json → Option Payload
  | .object members =>
    (members.mapM fun member => (Fact.ofJson? member.2).map fun fact => (member.1, fact)).map ofList
  | _ => none

end Payload

namespace Event

def toJson (event : Event) : Json :=
  .object <|
    [("id", ofWord64 event.id), ("tick", ofWord64 event.tick), ("type", .string event.kind.name),
      ("category", .string event.category.name)] ++
    memberIf "line" ofWord32 event.line ++ [("payload", event.payload.toJson)]

def ofJson? (json : Json) : Option Event := do
  let members ← json.record? ["id", "tick", "type", "category", "line", "payload"] 6
  let id ← members.required "id" word64?
  let tick ← members.required "tick" word64?
  let kind ← members.required "type" (variant? EventKind.all EventKind.name)
  let category ← members.required "category" (variant? Category.all Category.name)
  let line ← members.optional "line" word32?
  let payload ← members.required "payload" Payload.ofJson?
  some { id, tick, kind, category, line, payload }

end Event

namespace Log

def toJson (log : Log) : Json := Json.ofList Event.toJson log

def ofJson? : Json → Option Log := list? Event.ofJson?

end Log

end Infiltration
