import Infiltration.Engine
import Infiltration.Failure
import Infiltration.Level.Fault
import Infiltration.Script.Compile

/-!
Whole runs: from a level and cues, or from a level and the text of a script, to a result.
-/

namespace Infiltration

open Json

structure RunResult where
  frames : List Frame
  events : Log
  outcome : Outcome
  finalTick : UInt64
  tickLimit : UInt64
  failureSummary : Option FailureSummary
  deriving DecidableEq, Repr

/-- The eight bytes of a word, the lowest first. -/
def littleEndian (word : UInt64) : List UInt8 :=
  (List.range 8).map fun place => (word >>> UInt64.ofNat (8 * place)).toUInt8

def Event.digest (event : Event) : String := textDigest event.toJson.compact

namespace RunResult

def ofEngine (engine : Engine) : RunResult where
  frames := engine.frames
  events := engine.log
  outcome := engine.world.outcome
  finalTick := engine.world.tick
  tickLimit := engine.mission.limit
  failureSummary :=
    if engine.world.outcome = .failure then some (FailureSummary.ofLog engine.log) else none

def succeeded (result : RunResult) : Bool := result.outcome = .success

/-- The bytes that stand for a run: the digests of its frames and of its events, the outcome and the
final tick. -/
def fingerprint (result : RunResult) : ByteArray :=
  (String.join (result.frames.map Frame.digest) ++ String.join (result.events.map Event.digest) ++
    result.outcome.title).toUTF8 ++ ⟨(littleEndian result.finalTick).toArray⟩

def digest (result : RunResult) : String := Blake3.hex result.fingerprint

end RunResult

/-- Run cues on a level, which need not be sound. -/
def simulate (level : Level) (cues : List Script.Cue) (config : Config) : RunResult :=
  RunResult.ofEngine (Engine.start (Mission.of level cues config)).run

/-- Why a script was not run. -/
inductive RunError where
  | level (fault : LevelFault)
  | script (errors : List Script.Diagnostic)
  deriving DecidableEq, Repr

def RunError.message : RunError → String
  | level fault => "invalid level: " ++ fault.message
  | script errors => Script.failureMessage errors

/-- Check a level, compile a script for it and run that. The schedule must keep both ceilings. -/
def runScript (level : Level) (source : String) (options : Script.Options) (config : Config) :
    Except RunError RunResult :=
  match level.fault? with
  | some fault => .error (.level fault)
  | none =>
    match Script.compile level { options with ceiling := min options.ceiling config.ceiling } source with
    | .error errors => .error (.script errors)
    | .ok cues => .ok (simulate level cues config)

end Infiltration
