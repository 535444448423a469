import Infiltration.Terminal

/-!
The terminal program.
-/

namespace Infiltration

open Terminal

/-- The number of a system error, which may come with its sign turned. -/
def errorNumber (code : UInt32) : UInt32 := if code < 0x80000000 then code else 0 - code

/-- Why the system did not give out a file. -/
def readFault : IO.Error → ReadFault
  | .noFileOrDirectory _ _ _ => .missing
  | .inappropriateType _ code _ => if errorNumber code = 21 then .isFolder else .notFolder
  | .invalidArgument _ code reason => if errorNumber code = 36 then .longName else .other reason
  | .permissionDenied _ _ _ => .other "Permission denied (os error 13)"
  | error => .other (toString error)

def readText (path : String) : IO (Except ReadFault String) := do
  try
    let bytes ← IO.FS.readBinFile path
    match String.fromUTF8? bytes with
    | some text => return .ok text
    | none => return .error (.other "stream did not contain valid UTF-8")
  catch error => return .error (readFault error)

/-- The files that a command line names, with what reading them yields. -/
def readFiles (arguments : List String) : IO (List (String × Except ReadFault String)) :=
  match Request.ofArguments? arguments with
  | some (.run invocation) =>
    (invocation.levelPath :: invocation.scriptPath.toList).mapM fun path => do
      let text ← readText path
      return (path, text)
  | _ => return []

end Infiltration

open Infiltration in
def main (arguments : List String) : IO UInt32 := do
  let files ← readFiles arguments
  let answer := Terminal.answer arguments fun path => (files.lookup path).getD (.error .missing)
  IO.print answer.stdout
  IO.eprint answer.stderr
  return answer.status.toUInt32
