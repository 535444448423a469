import Infiltration.Flag
import Infiltration.Script.Compile

/-!
What the user asks for on the command line. Arguments are read from left to right. Every flag may be given
once; a flag with a value takes it after an equals sign or as the next argument, which must not look like
a flag. A flag that asks about the program itself ends the reading, so what follows it does not matter.
-/

namespace Infiltration

structure Invocation where
  levelPath : String
  scriptPath : Option String
  options : Script.Options
  json : Bool
  verbose : Bool
  deriving DecidableEq, Repr

/-- What a command line asks for. -/
inductive Request where
  | help
  | version
  | run (invocation : Invocation)
  deriving DecidableEq, Repr

namespace Invocation

/-! ## Values -/

/-- A number in decimal digits, below the bound. -/
def digits? (bound : Nat) (text : List Char) : Option Nat :=
  if !text.isEmpty && text.all Char.isDigit && Nat.ofDigitChars 10 text 0 < bound then
    some (Nat.ofDigitChars 10 text 0)
  else none

/-- A 64-bit number, which may have a plus sign. -/
def word64? (text : String) : Option UInt64 :=
  match text.toList with
  | '+' :: digits => (digits? UInt64.size digits).map UInt64.ofNat
  | digits => (digits? UInt64.size digits).map UInt64.ofNat

/-- A 32-bit number, which may have a sign. The only one with a minus sign is zero. -/
def word32? (text : String) : Option UInt32 :=
  match text.toList with
  | '+' :: digits => (digits? UInt32.size digits).map UInt32.ofNat
  | '-' :: digits => (digits? 1 digits).map UInt32.ofNat
  | digits => (digits? UInt32.size digits).map UInt32.ofNat

/-- A path, which must not be empty. -/
def path? (text : String) : Option String := if text.isEmpty then none else some text

/-- Whether a flag takes the text as its value. -/
def accepts (flag : Flag) (text : String) : Bool :=
  match flag with
  | .level => (path? text).isSome
  | .script => (path? text).isSome
  | .bonusLines => (word32? text).isSome
  | .bonusCommands => (word32? text).isSome
  | .bonusDelay => (word64? text).isSome
  | .ceiling => (word64? text).isSome
  | _ => true

/-! ## Arguments -/

/-- A flag as it was given, with its value. -/
abbrev Setting := Flag × String

/-- What arguments say: settings, or that the program is to tell about itself. -/
inductive Reading where
  | help
  | version
  | settings (given : List Setting)
  deriving DecidableEq, Repr

/-- Add a setting. A flag may be given once, and its value must be one that it takes. -/
def give? (given : List Setting) (flag : Flag) (value : String) : Option (List Setting) :=
  if given.any (fun setting => setting.1 = flag) || !accepts flag value then none
  else some (given ++ [(flag, value)])

/-- Add a flag that takes no value. -/
def switch? (given : List Setting) (flag : Flag) : Option Reading :=
  match flag with
  | .help => some .help
  | .version => some .version
  | flag => if flag.takesValue then none else (give? given flag "").map .settings

/-- Whether an argument is a flag rather than a value. A single dash is a value. -/
def looksLikeFlag (argument : String) : Bool := argument.startsWith "-" && argument ≠ "-"

/-- The two sides of the first equals sign. -/
def splitEquals (argument : List Char) : String × Option String :=
  let name := String.ofList (argument.takeWhile (· ≠ '='))
  match argument.dropWhile (· ≠ '=') with
  | _ :: value => (name, some (String.ofList value))
  | [] => (name, none)

/-- The short flags of one argument. -/
def readLetters? (given : List Setting) : List Char → Option Reading
  | [] => some (.settings given)
  | letter :: letters => do
    let flag ← Flag.lettered? letter
    match ← switch? given flag with
    | .settings given => readLetters? given letters
    | asked => some asked

/-- The arguments after those that have given some settings. Two dashes alone end the flags, and nothing
may follow them. -/
def read? (given : List Setting) : List String → Option Reading
  | [] => some (.settings given)
  | argument :: rest =>
    match argument.toList with
    | ['-', '-'] => if rest.isEmpty then some (.settings given) else none
    | '-' :: '-' :: text => do
      let (name, attached) := splitEquals text
      let flag ← Flag.named? name
      match flag.takesValue, attached, rest with
      | true, some value, rest =>
        let given ← give? given flag value
        read? given rest
      | true, none, value :: rest =>
        if looksLikeFlag value then none
        else
          let given ← give? given flag value
          read? given rest
      | true, none, [] => none
      | false, some _, _ => none
      | false, none, rest =>
        match ← switch? given flag with
        | .settings given => read? given rest
        | asked => some asked
    | '-' :: letter :: letters => do
      match ← readLetters? given (letter :: letters) with
      | .settings given => read? given rest
      | asked => some asked
    | _ => none

/-! ## Invocations -/

/-- The value of a flag, or the default where it is not given. -/
def valueOf {α : Type} (settings : List Setting) (flag : Flag) (value? : String → Option α)
    (default : α) : Option α :=
  match settings.lookup flag with
  | some text => value? text
  | none => some default

/-- The invocation that settings make up. The level must be named. -/
def ofSettings? (settings : List Setting) : Option Invocation := do
  let levelPath ← (settings.lookup .level).bind path?
  let scriptPath ← valueOf settings .script (fun text => (path? text).map some) none
  let maxLines ← valueOf settings .bonusLines word32? 0
  let maxCommands ← valueOf settings .bonusCommands word32? 0
  let maxDelay ← valueOf settings .bonusDelay word64? 0
  let ceiling ← valueOf settings .ceiling word64? defaultCeiling
  some
    { levelPath
      scriptPath
      options := { bonus := { maxLines, maxCommands, maxDelay }, ceiling }
      json := (settings.lookup .json).isSome
      verbose := (settings.lookup .verbose).isSome }

end Invocation

/-- What a command line asks for, if it is understood. -/
def Request.ofArguments? (arguments : List String) : Option Request := do
  match ← Invocation.read? [] arguments with
  | .help => some .help
  | .version => some .version
  | .settings settings => (Invocation.ofSettings? settings).map .run

end Infiltration
