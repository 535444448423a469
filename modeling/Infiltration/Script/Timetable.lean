import Infiltration.Capped
import Infiltration.Script.Command

/-!
Setting statements to ticks. A script starts at tick zero; a wait is carried out on the tick it has
reached and sets the commands after it that much later.
-/

namespace Infiltration.Script

/-- The tick at which the next command is carried out. -/
def Command.advance (tick : UInt64) : Command → UInt64
  | wait ticks => Capped.add64 tick ticks
  | _ => tick

/-- Set statements to ticks, the first of them to the given one. -/
def scheduleFrom (tick : UInt64) : List Statement → List Cue
  | [] => []
  | statement :: rest =>
    { tick, line := statement.line, raw := statement.raw, command := statement.command } ::
      scheduleFrom (statement.command.advance tick) rest

def schedule (statements : List Statement) : List Cue := scheduleFrom 0 statements

theorem length_scheduleFrom (tick : UInt64) (statements : List Statement) :
    (scheduleFrom tick statements).length = statements.length := by
  induction statements generalizing tick with
  | nil => rfl
  | cons statement rest ih => simp [scheduleFrom, ih]

/-- The latest tick of all cues; zero if there are none. -/
def lastTick (cues : List Cue) : UInt64 :=
  cues.foldl (fun last cue => max last cue.tick) 0

end Infiltration.Script
