import Infiltration.Device
import Infiltration.Event.Log

/-!
Why a run failed, told from its log. A death is explained before a closed door, a closed door before the
end of time; the story goes back from the last event of that kind.
-/

namespace Infiltration

structure FailureSummary where
  primaryCause : String
  /-- The steps that led to the failure, the oldest first. -/
  causeChain : List String
  suggestedFocus : String
  deriving DecidableEq, Repr

namespace FailureSummary

/-- The longest chain that is told. -/
def longestChain : Nat := 4

/-- The end of a chain, as long as it may be. -/
def latest (chain : List String) : List String := chain.drop (chain.length - longestChain)

/-- Whether an alarm's change turned it red. -/
def turnedRed (event : Event) : Bool := event.text? "to" = some AlarmLevel.red.name

/-- The alarm's turn to red, if that was its last change until a tick. -/
def redStep (log : Log) (tick : UInt64) : List String :=
  if (log.findLastUntil? .alarmStateChanged tick).any turnedRed then ["Alarm escalated to RED"] else []

/-- The camera that last reported the player until a tick. -/
def lastCamera? (log : Log) (tick : UInt64) : Option String :=
  (log.findLastUntil? .cameraDetectedPlayer tick).bind fun event => event.text? "cameraId"

def cameraStep (log : Log) (tick : UInt64) : List String :=
  match lastCamera? log tick with
  | some camera => ["Camera " ++ camera ++ " detected player"]
  | none => []

def lockStep (log : Log) (tick : UInt64) : List String :=
  match log.findLastUntil? .turretTargetLock tick with
  | some event =>
    ["Turret " ++ (event.text? "turretId").getD "unknown turret" ++ " acquired target " ++
      (event.text? "targetId").getD "unknown target"]
  | none => []

/-- The story of a death. -/
def ofKill (log : Log) (kill : Event) : FailureSummary :=
  let turret := (kill.text? "turretId").getD "unknown turret"
  { primaryCause := "Turret " ++ turret ++ " killed player"
    causeChain :=
      latest (cameraStep log kill.tick ++ redStep log kill.tick ++ lockStep log kill.tick ++
        ["Turret " ++ turret ++ " fired on player"])
    suggestedFocus :=
      match lastCamera? log kill.tick with
      | some camera => "Disable " ++ camera ++ " or delay alarm before turret lock"
      | none => "Retarget " ++ turret ++ " to a drone or keep alarm below RED" }

/-- The story of a closed door. -/
def ofBlock (log : Log) (block : Event) : FailureSummary :=
  let door := (block.text? "doorId").getD "unknown door"
  { primaryCause := "Player was stopped by door " ++ door
    causeChain := redStep log block.tick ++ ["Door " ++ door ++ " blocked movement"]
    suggestedFocus := "Open " ++ door ++ " earlier or prevent alarm-triggered lockdown" }

def ofTimeout : FailureSummary where
  primaryCause := "Run timed out before reaching exit"
  causeChain := ["No successful path completion before tick limit"]
  suggestedFocus := "Reduce waits and unblock doors earlier"

def unexplained : FailureSummary where
  primaryCause := "Run failed"
  causeChain := ["Simulation ended without reaching exit"]
  suggestedFocus := "Inspect event log and adjust script timing"

/-- The story of a failed run. -/
def ofLog (log : Log) : FailureSummary :=
  match log.findLast? .playerKilled with
  | some kill => ofKill log kill
  | none =>
    match log.findLast? .playerBlockedByDoor with
    | some block => ofBlock log block
    | none => if (log.findLast? .runTimeout).isSome then ofTimeout else unexplained

end FailureSummary

end Infiltration
