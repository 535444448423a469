/-!
The flags of the terminal program: how they are spelled, what their values are called and what they are
for. The order of the list is the order in which the usage text tells of them.
-/

namespace Infiltration

inductive Flag where
  | level
  | script
  | bonusLines
  | bonusCommands
  | bonusDelay
  | ceiling
  | json
  | verbose
  | help
  | version
  deriving DecidableEq, Repr

namespace Flag

def all : List Flag :=
  [level, script, bonusLines, bonusCommands, bonusDelay, ceiling, json, verbose, help, version]

theorem mem_all (flag : Flag) : flag ∈ all := by
  cases flag <;> decide

/-- The long spelling, which follows two dashes. -/
def name : Flag → String
  | level => "level"
  | script => "script"
  | bonusLines => "bonus-lines"
  | bonusCommands => "bonus-commands"
  | bonusDelay => "bonus-delay"
  | ceiling => "tick-ceiling"
  | json => "json"
  | verbose => "verbose"
  | help => "help"
  | version => "version"

/-- The short spelling, which follows one dash. -/
def letter? : Flag → Option Char
  | verbose => some 'v'
  | help => some 'h'
  | version => some 'V'
  | _ => none

/-- What the value of a flag is called, if it takes one. -/
def value? : Flag → Option String
  | level => some "LEVEL"
  | script => some "SCRIPT"
  | bonusLines => some "BONUS_LINES"
  | bonusCommands => some "BONUS_COMMANDS"
  | bonusDelay => some "BONUS_DELAY"
  | ceiling => some "TICK_CEILING"
  | _ => none

def takesValue (flag : Flag) : Bool := flag.value?.isSome

def purpose : Flag → String
  | level => "Level definition (JSON)"
  | script => "Script source. Runs the empty script when omitted"
  | bonusLines => "Extra script lines on top of the level's budget [default: 0]"
  | bonusCommands => "Extra commands on top of the level's budget [default: 0]"
  | bonusDelay => "Extra delay ticks on top of the level's budget [default: 0]"
  | ceiling => "Hard ceiling on simulated ticks [default: 300]"
  | json => "Print the full simulation result as JSON"
  | verbose => "Log at debug level unless RUST_LOG says otherwise"
  | help => "Print help"
  | version => "Print version"

def named? (text : String) : Option Flag := all.find? fun flag => flag.name = text

def lettered? (letter : Char) : Option Flag := all.find? fun flag => flag.letter? = some letter

end Flag

end Infiltration
