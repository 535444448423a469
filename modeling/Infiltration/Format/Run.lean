import Infiltration.Json.Parser
import Infiltration.Replay.Verification

/-!
The JSON forms of failure stories, results and verifications.
-/

namespace Infiltration

open Json

namespace FailureSummary

def toJson (summary : FailureSummary) : Json :=
  .object [("primaryCause", .string summary.primaryCause),
    ("causeChain", Json.ofList .string summary.causeChain),
    ("suggestedFocus", .string summary.suggestedFocus)]

def ofJson? (json : Json) : Option FailureSummary := do
  let members ← json.record? ["primaryCause", "causeChain", "suggestedFocus"] 3
  let primaryCause ← members.required "primaryCause" string?
  let causeChain ← members.required "causeChain" (list? string?)
  let suggestedFocus ← members.required "suggestedFocus" string?
  some { primaryCause, causeChain, suggestedFocus }

end FailureSummary

namespace RunResult

def toJson (result : RunResult) : Json :=
  .object <|
    [("frames", Json.ofList Frame.toJson result.frames), ("events", Log.toJson result.events),
      ("outcome", result.outcome.toJson), ("finalTick", ofWord64 result.finalTick),
      ("tickLimit", ofWord64 result.tickLimit)] ++
    memberIf "failureSummary" FailureSummary.toJson result.failureSummary

def ofJson? (json : Json) : Option RunResult := do
  let members ← json.record?
    ["frames", "events", "outcome", "finalTick", "tickLimit", "failureSummary"] 5
  let frames ← members.required "frames" (list? Frame.ofJson?)
  let events ← members.required "events" Log.ofJson?
  let outcome ← members.required "outcome" Outcome.ofJson?
  let finalTick ← members.required "finalTick" word64?
  let tickLimit ← members.required "tickLimit" word64?
  let failureSummary ← members.optional "failureSummary" FailureSummary.ofJson?
  some { frames, events, outcome, finalTick, tickLimit, failureSummary }

end RunResult

namespace Divergence

def toJson (divergence : Divergence) : Json :=
  .object [("tick", ofWord64 divergence.tick), ("expectedHash", .string divergence.expected),
    ("actualHash", .string divergence.actual)]

def ofJson? (json : Json) : Option Divergence := do
  let members ← json.record? ["tick", "expectedHash", "actualHash"] 3
  let tick ← members.required "tick" word64?
  let expected ← members.required "expectedHash" string?
  let actual ← members.required "actualHash" string?
  some { tick, expected, actual }

end Divergence

namespace Verification

def toJson (verification : Verification) : Json :=
  .object [("framesMatched", ofIndex verification.framesMatched),
    ("firstDivergence", ofOption Divergence.toJson verification.firstDivergence)]

def ofJson? (json : Json) : Option Verification := do
  let members ← json.record? ["framesMatched", "firstDivergence"] 2
  let framesMatched ← members.required "framesMatched" index?
  let firstDivergence ← members.optional "firstDivergence" Divergence.ofJson?
  some { framesMatched, firstDivergence }

end Verification

end Infiltration
