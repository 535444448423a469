import Infiltration.Script.Reading
import Infiltration.Script.Rules
import Infiltration.Script.Timetable

/-!
From the text of a script to cues. The script is read, inspected and scheduled; the first of these that
finds fault ends the work, and a script with cues must have its last one before the run's limit.
-/

namespace Infiltration.Script

structure Options where
  bonus : Bonus := {}
  ceiling : UInt64 := defaultCeiling
  deriving DecidableEq, Repr

/-- The cues of a schedule that ends before the limit. -/
def withinLimit (limit : UInt64) (cues : List Cue) : Except (List Diagnostic) (List Cue) :=
  if !cues.isEmpty && limit ≤ lastTick cues then
    .error [(Problem.lateSchedule limit (lastTick cues)).on 1]
  else .ok cues

/-- The cues of a script for a level, or everything that the failing step has found. -/
def compile (level : Level) (options : Options) (source : String) :
    Except (List Diagnostic) (List Cue) :=
  let reading := read source
  if !reading.errors.isEmpty then .error reading.errors
  else
    let found := inspect level (level.constraints.widen options.bonus) reading.statements
    if !found.isEmpty then .error found
    else withinLimit (level.constraints.limitUnder options.ceiling) (schedule reading.statements)

/-- The one-line account of a script that did not compile. -/
def failureMessage (errors : List Diagnostic) : String :=
  "script failed to compile with " ++ toString errors.length ++ " error(s); first: " ++
    match errors with
    | first :: _ => first.display
    | [] => ""

/-- The outcome of a compilation as a document: cues or errors. -/
structure Compilation where
  cues : List Cue
  errors : List Diagnostic
  deriving DecidableEq, Repr

def Compilation.of : Except (List Diagnostic) (List Cue) → Compilation
  | .ok cues => { cues, errors := [] }
  | .error errors => { cues := [], errors }

end Infiltration.Script
