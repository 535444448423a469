import Infiltration.Script.Command

/-!
The one-line forms of commands. A line is a command only if it has one of the nine forms exactly: no
blanks inside, ids between double quotes, amounts as plain digits.
-/

namespace Infiltration.Script.Line

/-- A reader takes a part off the front of a line and leaves the rest. -/
abbrev Reader (α : Type) := List Char → Option (α × List Char)

/-! ## Parts of a line -/

/-- Take off a fixed text. -/
def expect (text : List Char) (line : List Char) : Option (List Char) :=
  if text.isPrefixOf line then some (line.drop text.length) else none

def isIdChar (c : Char) : Bool :=
  c.isAlphanum || c = '_' || c = ':' || c = '-'

/-- The text between two double quotes. -/
def quoted : Reader (List Char)
  | '"' :: line =>
    match line.dropWhile (· ≠ '"') with
    | _ :: rest => some (line.takeWhile (· ≠ '"'), rest)
    | [] => none
  | _ => none

/-- A quoted id: at least one character, each a letter, a digit or one of the three marks. -/
def ident : Reader String := fun line => do
  let (text, rest) ← quoted line
  if !text.isEmpty && text.all isIdChar then some (String.ofList text, rest) else none

/-- A quoted text without restriction. -/
def message : Reader String := fun line => do
  let (text, rest) ← quoted line
  some (String.ofList text, rest)

/-- A run of digits whose value is below the size of a word. -/
def amount : Reader UInt64 := fun line =>
  let digits := line.takeWhile Char.isDigit
  let value := Nat.ofDigitChars 10 digits 0
  if !digits.isEmpty && value < UInt64.size then
    some (UInt64.ofNat value, line.dropWhile Char.isDigit)
  else none

/-! ## The nine forms -/

def disableCamera : Reader Command := fun line => do
  let line ← expect "camera(".toList line
  let (camera, line) ← ident line
  let line ← expect ").disable(".toList line
  match expect ")".toList line with
  | some line => some (.disableCamera camera none, line)
  | none =>
    let (ticks, line) ← amount line
    let line ← expect ")".toList line
    some (.disableCamera camera (some ticks), line)

def enableCamera : Reader Command := fun line => do
  let line ← expect "camera(".toList line
  let (camera, line) ← ident line
  let line ← expect ").enable()".toList line
  some (.enableCamera camera, line)

def delayAlarm : Reader Command := fun line => do
  let line ← expect "alarm().delay(".toList line
  let (ticks, line) ← amount line
  let line ← expect ")".toList line
  some (.delayAlarm ticks, line)

def openDoor : Reader Command := fun line => do
  let line ← expect "door(".toList line
  let (door, line) ← ident line
  let line ← expect ").open()".toList line
  some (.openDoor door, line)

def closeDoor : Reader Command := fun line => do
  let line ← expect "door(".toList line
  let (door, line) ← ident line
  let line ← expect ").close()".toList line
  some (.closeDoor door, line)

def retargetTurret : Reader Command := fun line => do
  let line ← expect "turret(".toList line
  let (turret, line) ← ident line
  let line ← expect ").retarget(".toList line
  let (target, line) ← ident line
  let line ← expect ")".toList line
  some (.retargetTurret turret target, line)

def tagDevice : Reader Command := fun line => do
  let line ← expect "device(".toList line
  let (device, line) ← ident line
  let line ← expect ").tag(".toList line
  let (tag, line) ← ident line
  let line ← expect ")".toList line
  some (.tagDevice device tag, line)

def wait : Reader Command := fun line => do
  let line ← expect "wait(".toList line
  let (ticks, line) ← amount line
  let line ← expect ")".toList line
  some (.wait ticks, line)

def log : Reader Command := fun line => do
  let line ← expect "log(".toList line
  let (text, line) ← message line
  let line ← expect ")".toList line
  some (.log text, line)

def forms : List (Reader Command) :=
  [disableCamera, enableCamera, delayAlarm, openDoor, closeDoor, retargetTurret, tagDevice, wait, log]

/-! ## Whole lines -/

/-- What a form reads from a line that it uses up. -/
def readBy (form : Reader Command) (line : List Char) : Option Command :=
  match form line with
  | some (command, []) => some command
  | _ => none

/-- The command that a line spells. -/
def command? (line : List Char) : Option Command :=
  forms.findSome? fun form => readBy form line

/-- Whether a trimmed line is empty or a comment. -/
def skippable (line : List Char) : Bool :=
  line.isEmpty || "//".toList.isPrefixOf line || "#".toList.isPrefixOf line

end Infiltration.Script.Line
