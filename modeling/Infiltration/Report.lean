import Infiltration.Run

/-!
The readable report of a run: how it ended, its events and, if it failed, why.
-/

namespace Infiltration.Report

def headline (level : Level) (result : RunResult) : String :=
  level.id ++ ": " ++ result.outcome.title ++ " at tick " ++ toString result.finalTick.toNat ++
    " (limit " ++ toString result.tickLimit.toNat ++ ")"

def eventLine (event : Event) : String :=
  "  " ++ event.display ++
    match event.line with
    | some line => " (line " ++ toString line.toNat ++ ")"
    | none => ""

/-- The steps of a chain, numbered on from a count of earlier ones. -/
def chainFrom (told : Nat) : List String → List String
  | [] => []
  | step :: rest => ("  " ++ toString (told + 1) ++ ". " ++ step) :: chainFrom (told + 1) rest

def failureLines (summary : FailureSummary) : List String :=
  ["", "cause: " ++ summary.primaryCause] ++ chainFrom 0 summary.causeChain ++
    ["focus: " ++ summary.suggestedFocus]

def lines (level : Level) (result : RunResult) : List String :=
  [headline level result, ""] ++ result.events.map eventLine ++
    match result.failureSummary with
    | some summary => failureLines summary
    | none => []

/-- Lines, each with its end. -/
def unlines (lines : List String) : String := String.join (lines.map (· ++ "\n"))

end Infiltration.Report
