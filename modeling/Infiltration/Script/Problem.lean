import Infiltration.Device

/-!
What can be wrong with a script, and how a problem is reported against a line.
-/

namespace Infiltration.Script

/-- The verbs that take a number of ticks. -/
inductive Delay where
  | wait
  | alarm
  | camera
  deriving DecidableEq, Repr

def Delay.verb : Delay → String
  | wait => "wait"
  | alarm => "delay"
  | camera => "disable"

inductive Problem where
  | unrecognized (raw : String)
  | tooManyLines (count : Nat) (most : UInt32)
  | tooManyCommands (count : Nat) (most : UInt32)
  | alarmOutOfScope
  | zeroDelay (delay : Delay)
  | longDelay (delay : Delay) (ticks most : UInt64)
  | unknownDevice (id : String)
  | deviceOutOfScope (id : String)
  | wrongType (id : String) (required : DeviceType)
  | unknownTarget (id : String)
  | invalidTarget (id : String)
  | lateSchedule (limit last : UInt64)
  deriving DecidableEq, Repr

def Problem.message : Problem → String
  | unrecognized raw => "Unrecognized command syntax: " ++ raw
  | tooManyLines count most =>
    "Script uses " ++ toString count ++ " lines, max is " ++ toString most.toNat
  | tooManyCommands count most =>
    "Script uses " ++ toString count ++ " commands, max is " ++ toString most.toNat
  | alarmOutOfScope => "Alarm bus is not visible in this terminal scope"
  | zeroDelay delay =>
    delay.verb ++ "(n) must be greater than 0" ++ if delay = .camera then " when provided" else ""
  | longDelay delay ticks most =>
    delay.verb ++ "(" ++ toString ticks.toNat ++ ") exceeds level max (" ++ toString most.toNat ++ ")"
  | unknownDevice id => "Unknown device \"" ++ id ++ "\""
  | deviceOutOfScope id => "Device \"" ++ id ++ "\" is not in terminal network scope"
  | wrongType id required => "Device \"" ++ id ++ "\" is not a " ++ required.name
  | unknownTarget id => "retarget target \"" ++ id ++ "\" does not exist"
  | invalidTarget id => "retarget target \"" ++ id ++ "\" is not a valid target"
  | lateSchedule limit last =>
    "Script schedule exceeds run range [0, " ++ toString limit.toNat ++
      "): last command lands on tick " ++ toString last.toNat

/-- A message about a line of a script. -/
structure Diagnostic where
  line : UInt32
  message : String
  deriving DecidableEq, Repr

def Problem.on (problem : Problem) (line : UInt32) : Diagnostic := ⟨line, problem.message⟩

def Diagnostic.display (diagnostic : Diagnostic) : String :=
  "line " ++ toString diagnostic.line.toNat ++ ": " ++ diagnostic.message

end Infiltration.Script
