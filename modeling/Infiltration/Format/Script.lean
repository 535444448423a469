import Infiltration.Json.Members
import Infiltration.Script.Compile

/-!
The JSON forms of commands, of the statements and cues that carry them, and of what reading and compiling
a script gives. A command is an object with its label as `kind`, or an array that begins with it, and it is
taken in whole before its kind decides which fields it has.
-/

namespace Infiltration.Script

open Json

namespace Command

def members : Command → Members
  | disableCamera camera duration =>
    [("deviceId", .string camera), ("duration", ofOption ofWord64 duration)]
  | enableCamera camera => [("deviceId", .string camera)]
  | delayAlarm ticks => [("ticks", ofWord64 ticks)]
  | openDoor door => [("deviceId", .string door)]
  | closeDoor door => [("deviceId", .string door)]
  | retargetTurret turret target => [("deviceId", .string turret), ("targetId", .string target)]
  | tagDevice device tag => [("deviceId", .string device), ("tag", .string tag)]
  | wait ticks => [("ticks", ofWord64 ticks)]
  | log message => [("message", .string message)]

def toJson (command : Command) : Json :=
  .object (("kind", .string command.label) :: command.members)

/-- The kind of a command and the value that holds its fields. -/
def kind? : Json → Option (String × Json)
  | .array (kind :: fields) => (string? kind).map fun kind => (kind, .array fields)
  | json => do
    let members ← json.known? ["kind"]
    let kind ← members.required "kind" string?
    some (kind, json)

/-- The command of a kind, from the value that holds its fields. -/
def ofFields? (kind : String) (fields : Json) : Option Command :=
  match kind with
  | "camera.disable" => do
    let members ← fields.record? ["deviceId", "duration"] 2
    let camera ← members.required "deviceId" string?
    let duration ← members.optional "duration" word64?
    some (disableCamera camera duration)
  | "camera.enable" => do
    let members ← fields.record? ["deviceId"] 1
    let camera ← members.required "deviceId" string?
    some (enableCamera camera)
  | "alarm.delay" => do
    let members ← fields.record? ["ticks"] 1
    let ticks ← members.required "ticks" word64?
    some (delayAlarm ticks)
  | "door.open" => do
    let members ← fields.record? ["deviceId"] 1
    let door ← members.required "deviceId" string?
    some (openDoor door)
  | "door.close" => do
    let members ← fields.record? ["deviceId"] 1
    let door ← members.required "deviceId" string?
    some (closeDoor door)
  | "turret.retarget" => do
    let members ← fields.record? ["deviceId", "targetId"] 2
    let turret ← members.required "deviceId" string?
    let target ← members.required "targetId" string?
    some (retargetTurret turret target)
  | "device.tag" => do
    let members ← fields.record? ["deviceId", "tag"] 2
    let device ← members.required "deviceId" string?
    let tag ← members.required "tag" string?
    some (tagDevice device tag)
  | "wait" => do
    let members ← fields.record? ["ticks"] 1
    let ticks ← members.required "ticks" word64?
    some (wait ticks)
  | "log" => do
    let members ← fields.record? ["message"] 1
    let message ← members.required "message" string?
    some (log message)
  | _ => none

def ofJson? (json : Json) : Option Command := do
  guard json.isHeld
  let (kind, fields) ← kind? json
  ofFields? kind fields

end Command

namespace Statement

def toJson (statement : Statement) : Json :=
  .object [("line", ofWord32 statement.line), ("raw", .string statement.raw),
    ("command", statement.command.toJson)]

def ofJson? (json : Json) : Option Statement := do
  let members ← json.record? ["line", "raw", "command"] 3
  let line ← members.required "line" word32?
  let raw ← members.required "raw" string?
  let command ← members.required "command" Command.ofJson?
  some { line, raw, command }

end Statement

namespace Cue

def toJson (cue : Cue) : Json :=
  .object [("tick", ofWord64 cue.tick), ("line", ofWord32 cue.line), ("raw", .string cue.raw),
    ("command", cue.command.toJson)]

def ofJson? (json : Json) : Option Cue := do
  let members ← json.record? ["tick", "line", "raw", "command"] 4
  let tick ← members.required "tick" word64?
  let line ← members.required "line" word32?
  let raw ← members.required "raw" string?
  let command ← members.required "command" Command.ofJson?
  some { tick, line, raw, command }

end Cue

namespace Diagnostic

def toJson (diagnostic : Diagnostic) : Json :=
  .object [("line", ofWord32 diagnostic.line), ("message", .string diagnostic.message)]

def ofJson? (json : Json) : Option Diagnostic := do
  let members ← json.record? ["line", "message"] 2
  let line ← members.required "line" word32?
  let message ← members.required "message" string?
  some { line, message }

end Diagnostic

namespace Reading

def toJson (reading : Reading) : Json :=
  .object [("commands", Json.ofList Statement.toJson reading.statements),
    ("errors", Json.ofList Diagnostic.toJson reading.errors)]

def ofJson? (json : Json) : Option Reading := do
  let members ← json.record? ["commands", "errors"] 2
  let statements ← members.required "commands" (list? Statement.ofJson?)
  let errors ← members.required "errors" (list? Diagnostic.ofJson?)
  some { statements, errors }

end Reading

namespace Compilation

def toJson (compilation : Compilation) : Json :=
  .object [("commands", Json.ofList Cue.toJson compilation.cues),
    ("errors", Json.ofList Diagnostic.toJson compilation.errors)]

def ofJson? (json : Json) : Option Compilation := do
  let members ← json.record? ["commands", "errors"] 2
  let cues ← members.required "commands" (list? Cue.ofJson?)
  let errors ← members.required "errors" (list? Diagnostic.ofJson?)
  some { cues, errors }

end Compilation

end Infiltration.Script
