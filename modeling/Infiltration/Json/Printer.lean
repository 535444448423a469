import Infiltration.Json.Basic

/-!
Writing JSON. A layout says what stands between the tokens: nothing in the compact form, line breaks and
two blanks per level in the indented one. Writers take the text that follows and put theirs before it.
An unheld value has lost its spelling and is written like null.
-/

namespace Infiltration.Json

structure Layout where
  /-- What separates two parts that stand at a depth. -/
  lineBreak : Nat → List Char
  afterColon : List Char

def Layout.compact : Layout := ⟨fun _ => [], []⟩

def Layout.indented : Layout := ⟨fun depth => '\n' :: List.replicate (2 * depth) ' ', [' ']⟩

/-! ## Strings -/

/-- The digit of a number below sixteen. -/
def hexDigit (n : Nat) : Char := Nat.digitChar n

/-- The two quoting characters and the control characters are escaped, all others stand for themselves. -/
def escape (c : Char) : List Char :=
  if c = '"' then ['\\', '"']
  else if c = '\\' then ['\\', '\\']
  else if c = '\x08' then ['\\', 'b']
  else if c = '\x0c' then ['\\', 'f']
  else if c = '\n' then ['\\', 'n']
  else if c = '\r' then ['\\', 'r']
  else if c = '\t' then ['\\', 't']
  else if c.toNat < 0x20 then ['\\', 'u', '0', '0', hexDigit (c.toNat / 16), hexDigit (c.toNat % 16)]
  else [c]

def writeChars : List Char → List Char → List Char
  | [], rest => rest
  | c :: cs, rest => escape c ++ writeChars cs rest

def writeString (text : String) (rest : List Char) : List Char :=
  '"' :: writeChars text.toList ('"' :: rest)

/-! ## Values -/

/-- An integer in decimal, with a minus sign if it is negative. -/
def writeInteger : Int → List Char
  | .ofNat n => Nat.toDigits 10 n
  | .negSucc n => '-' :: Nat.toDigits 10 (n + 1)

mutual

def write (layout : Layout) (depth : Nat) : Json → List Char → List Char
  | .null, rest => "null".toList ++ rest
  | .bool true, rest => "true".toList ++ rest
  | .bool false, rest => "false".toList ++ rest
  | .integer value, rest => writeInteger value ++ rest
  | .decimal numeral, rest => numeral ++ rest
  | .string value, rest => writeString value rest
  | .array items, rest => '[' :: writeItems layout depth items rest
  | .object members, rest => '{' :: writeMembers layout depth members rest
  | .unheld, rest => "null".toList ++ rest
termination_by structural json => json

/-- The items of an array and its end. -/
def writeItems (layout : Layout) (depth : Nat) : List Json → List Char → List Char
  | [], rest => ']' :: rest
  | item :: more, rest =>
    layout.lineBreak (depth + 1) ++ write layout (depth + 1) item (writeMoreItems layout depth more rest)
termination_by structural items => items

/-- The items after the first and the end. -/
def writeMoreItems (layout : Layout) (depth : Nat) : List Json → List Char → List Char
  | [], rest => layout.lineBreak depth ++ ']' :: rest
  | item :: more, rest =>
    ',' :: (layout.lineBreak (depth + 1) ++
      write layout (depth + 1) item (writeMoreItems layout depth more rest))
termination_by structural items => items

/-- The members of an object and its end. -/
def writeMembers (layout : Layout) (depth : Nat) : List (String × Json) → List Char → List Char
  | [], rest => '}' :: rest
  | member :: more, rest =>
    layout.lineBreak (depth + 1) ++
      writeMember layout (depth + 1) member (writeMoreMembers layout depth more rest)
termination_by structural members => members

/-- The members after the first and the end. -/
def writeMoreMembers (layout : Layout) (depth : Nat) : List (String × Json) → List Char → List Char
  | [], rest => layout.lineBreak depth ++ '}' :: rest
  | member :: more, rest =>
    ',' :: (layout.lineBreak (depth + 1) ++
      writeMember layout (depth + 1) member (writeMoreMembers layout depth more rest))
termination_by structural members => members

def writeMember (layout : Layout) (depth : Nat) : String × Json → List Char → List Char
  | (key, value), rest =>
    writeString key (':' :: (layout.afterColon ++ write layout depth value rest))
termination_by structural member => member

end

/-- The text of a value without anything between the tokens. -/
def compact (json : Json) : String := String.ofList (write .compact 0 json [])

/-- The text of a value with every item and member on a line of its own. -/
def indented (json : Json) : String := String.ofList (write .indented 0 json [])

end Infiltration.Json
