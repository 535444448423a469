import Infiltration.Level
import Infiltration.Script.Command
import Infiltration.Script.Problem

/-!
What a level asks of a script: a budget of lines and commands, delays within bounds, an alarm that the
terminal can reach, and devices that exist, are in scope and are of the verb's type.
-/

namespace Infiltration.Script

/-- The type that the command's device must have. -/
def Command.requiredType? : Command → Option DeviceType
  | disableCamera _ _ => some .camera
  | enableCamera _ => some .camera
  | openDoor _ => some .door
  | closeDoor _ => some .door
  | retargetTurret _ _ => some .turret
  | tagDevice _ _ => none
  | delayAlarm _ => none
  | wait _ => none
  | log _ => none

/-- An amount must be positive and within the level's bound. -/
def delayProblems (constraints : Constraints) (delay : Delay) (ticks : UInt64) : List Problem :=
  (if ticks = 0 then [.zeroDelay delay] else []) ++
    if constraints.maxDelay < ticks then [.longDelay delay ticks constraints.maxDelay] else []

/-- What is wrong with a command's amount, and with the alarm that it calls on. -/
def amountProblems (level : Level) (constraints : Constraints) : Command → List Problem
  | .wait ticks => delayProblems constraints .wait ticks
  | .delayAlarm ticks =>
    (if level.alarmInScope then [] else [.alarmOutOfScope]) ++ delayProblems constraints .alarm ticks
  | .disableCamera _ (some ticks) => delayProblems constraints .camera ticks
  | _ => []

/-- A retarget must name a drone. -/
def targetProblems (level : Level) (target : String) : List Problem :=
  match level.device? target with
  | none => [.unknownTarget target]
  | some device => if device.type = .drone then [] else [.invalidTarget target]

/-- What is wrong with the devices that a command names. A device that is unknown or out of scope
ends the inspection of the command. -/
def deviceProblems (level : Level) (command : Command) : List Problem :=
  match command.device? with
  | none => []
  | some id =>
    match level.device? id with
    | none => [.unknownDevice id]
    | some device =>
      if level.inScope id then
        (match command.requiredType? with
        | some required => if device.type = required then [] else [.wrongType id required]
        | none => []) ++
          match command.target? with
          | some target => targetProblems level target
          | none => []
      else [.deviceOutOfScope id]

def commandProblems (level : Level) (constraints : Constraints) (command : Command) : List Problem :=
  amountProblems level constraints command ++ deviceProblems level command

/-- The budget bounds the number of statements twice. -/
def budgetProblems (constraints : Constraints) (count : Nat) : List Problem :=
  (if constraints.maxLines.toNat < count then [.tooManyLines count constraints.maxLines] else []) ++
    if constraints.maxCommands.toNat < count then [.tooManyCommands count constraints.maxCommands]
    else []

/-- All diagnostics of a script, the budget's first. -/
def inspect (level : Level) (constraints : Constraints) (statements : List Statement) :
    List Diagnostic :=
  (budgetProblems constraints statements.length).map (Problem.on · 1) ++
    statements.flatMap fun statement =>
      (commandProblems level constraints statement.command).map (Problem.on · statement.line)

end Infiltration.Script
