import Infiltration.Script.Line
import Infiltration.Script.Problem
import Infiltration.Text.Blank

/-!
Reading a script line by line. Lines are numbered from one; blank lines and comments count but say
nothing; every other line is a statement or a diagnostic.
-/

namespace Infiltration.Script

structure Reading where
  statements : List Statement
  errors : List Diagnostic
  deriving DecidableEq, Repr

/-- The largest line number stands for all lines after it. -/
def lineNumber (position : Nat) : UInt32 :=
  UInt32.ofNat (min (UInt32.size - 1) position)

/-- The trimmed lines of a script. -/
def trimmedLines (source : String) : List (List Char) :=
  (Text.splitLines source.toList).map Text.trim

/-- What one trimmed line says at its position. -/
def readLine (position : Nat) (raw : List Char) : Option (Except Diagnostic Statement) :=
  if Line.skippable raw then none
  else
    let line := lineNumber position
    let text := String.ofList raw
    match Line.command? raw with
    | some command => some (.ok { line, raw := text, command })
    | none => some (.error ((Problem.unrecognized text).on line))

/-- What the lines say, the first of them at the given position. -/
def readLines (position : Nat) : List (List Char) → List (Except Diagnostic Statement)
  | [] => []
  | raw :: rest => (readLine position raw).toList ++ readLines (position + 1) rest

theorem readLines_append (position : Nat) (front back : List (List Char)) :
    readLines position (front ++ back) =
      readLines position front ++ readLines (position + front.length) back := by
  induction front generalizing position with
  | nil => rfl
  | cons raw rest ih =>
    simp only [List.cons_append, readLines, ih, List.append_assoc, List.length_cons]
    rw [Nat.add_assoc, Nat.add_comm 1]

def statement? : Except Diagnostic Statement → Option Statement
  | .ok statement => some statement
  | .error _ => none

def diagnostic? : Except Diagnostic Statement → Option Diagnostic
  | .ok _ => none
  | .error diagnostic => some diagnostic

/-- Read a whole script. -/
def read (source : String) : Reading :=
  let results := readLines 1 (trimmedLines source)
  { statements := results.filterMap statement?, errors := results.filterMap diagnostic? }

/-- The number of lines that are neither blank nor comments. -/
def countStatements (source : String) : Nat :=
  (trimmedLines source).countP fun raw => !Line.skippable raw

end Infiltration.Script
