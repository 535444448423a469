import Infiltration.Format.Level
import Infiltration.Format.Run
import Infiltration.Invocation
import Infiltration.Report
import Infiltration.Usage

/-!
The answers of the terminal program: what it prints on its two streams and the status it exits with.
Nothing here reads files; their texts are given, or why they could not be read.
-/

namespace Infiltration

/-- The level that a text spells. -/
def Level.parse? (text : String) : Option Level := (Json.parse text).bind Level.ofJson?

namespace Terminal

structure Answer where
  status : UInt8
  stdout : String := ""
  stderr : String := ""
  deriving DecidableEq, Repr

/-- Why a file cannot be read. -/
inductive ReadFault where
  | missing
  /-- The path leads on through a file. -/
  | notFolder
  | isFolder
  | longName
  | other (reason : String)
  deriving DecidableEq, Repr

def ReadFault.message : ReadFault → String
  | missing => "No such file or directory (os error 2)"
  | notFolder => "Not a directory (os error 20)"
  | isFolder => "Is a directory (os error 21)"
  | longName => "File name too long (os error 36)"
  | other reason => reason

/-- What stopped the program before there was a run to report. -/
inductive Trouble where
  | usage
  | unreadableLevel (path : String) (fault : ReadFault)
  | malformedLevel (path : String)
  | unreadableScript (path : String) (fault : ReadFault)
  | invalidLevel (path : String) (fault : LevelFault)
  | script (errors : List Script.Diagnostic)
  deriving DecidableEq, Repr

/-- A text whose further lines stand as far in as its first. -/
def hanging (indent : Nat) (text : String) : String :=
  String.ofList <| text.toList.flatMap fun c =>
    if c = '\n' then '\n' :: List.replicate indent ' ' else [c]

/-- A failure with the failures behind it. A single cause is not numbered. -/
def causes (failure : String) : List String → List String
  | [cause] => ["Error: " ++ failure, "", "Caused by:", "    " ++ hanging 4 cause]
  | chain =>
    ["Error: " ++ failure, "", "Caused by:"] ++
      chain.mapIdx fun place cause => "    " ++ toString place ++ ": " ++ hanging 7 cause

namespace Trouble

def status : Trouble → UInt8
  | usage => 2
  | script _ => 2
  | _ => 1

def lines : Trouble → List String
  | usage => ["error: unexpected arguments"]
  | unreadableLevel path fault => causes ("reading level " ++ path) [fault.message]
  | malformedLevel path => causes ("parsing level " ++ path) ["malformed level definition"]
  | unreadableScript path fault => causes ("reading script " ++ path) [fault.message]
  | invalidLevel path fault =>
    causes ("level " ++ path) [(RunError.level fault).message, fault.message]
  | script errors => errors.map fun error => "error: " ++ error.display

def answer (trouble : Trouble) : Answer :=
  { status := trouble.status, stderr := Report.unlines trouble.lines }

end Trouble

/-- The report of a run, and the status that tells its outcome. -/
def report (invocation : Invocation) (level : Level) (result : RunResult) : Answer where
  status := if result.succeeded then 0 else 1
  stdout :=
    if invocation.json then result.toJson.indented ++ "\n"
    else Report.unlines (Report.lines level result)

/-- The text of the script, which is empty where none is asked for. -/
def scriptText (invocation : Invocation) (file : String → Except ReadFault String) :
    Except Trouble String :=
  match invocation.scriptPath with
  | none => .ok ""
  | some path => (file path).mapError (.unreadableScript path)

/-- The level that is asked for. -/
def levelOf (invocation : Invocation) (file : String → Except ReadFault String) :
    Except Trouble Level :=
  match file invocation.levelPath with
  | .error fault => .error (.unreadableLevel invocation.levelPath fault)
  | .ok text =>
    match Level.parse? text with
    | some level => .ok level
    | none => .error (.malformedLevel invocation.levelPath)

/-- Load what is asked for and run it. -/
def attempt (invocation : Invocation) (file : String → Except ReadFault String) :
    Except Trouble Answer := do
  let level ← levelOf invocation file
  let source ← scriptText invocation file
  let config : Config := { ceiling := invocation.options.ceiling }
  match runScript level source invocation.options config with
  | .ok result => .ok (report invocation level result)
  | .error (.script errors) => .error (.script errors)
  | .error (.level fault) => .error (.invalidLevel invocation.levelPath fault)

/-- The answer to a command line, given what reading a file yields. -/
def answer (arguments : List String) (file : String → Except ReadFault String) : Answer :=
  match Request.ofArguments? arguments with
  | none => Trouble.usage.answer
  | some .help => { status := 0, stdout := Usage.helpText }
  | some .version => { status := 0, stdout := Usage.versionText }
  | some (.run invocation) =>
    match attempt invocation file with
    | .ok answer => answer
    | .error trouble => trouble.answer

end Terminal

end Infiltration
