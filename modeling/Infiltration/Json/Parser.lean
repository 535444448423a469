import Infiltration.Json.Numeral

/-!
Reading JSON. The grammar is the strict one: no leading zeros, no trailing commas, no control characters
in strings, nothing but blanks around the value. What fits the grammar but cannot be held becomes an
unheld value: the text is still read, and whoever needs that value refuses it.
-/

namespace Infiltration.Json

/-- The four characters that may stand between tokens. -/
def isBlank (c : Char) : Bool := c = ' ' || c = '\t' || c = '\n' || c = '\r'

def skipBlanks (text : List Char) : List Char := text.dropWhile isBlank

/-! ## Strings -/

def hexValue? (c : Char) : Option Nat :=
  if c.isDigit then some (c.toNat - '0'.toNat)
  else if 'a' ≤ c ∧ c ≤ 'f' then some (c.toNat - 'a'.toNat + 10)
  else if 'A' ≤ c ∧ c ≤ 'F' then some (c.toNat - 'A'.toNat + 10)
  else none

/-- The 16-bit unit that four hexadecimal digits name. -/
def unit? (a b c d : Char) : Option Nat := do
  let a ← hexValue? a
  let b ← hexValue? b
  let c ← hexValue? c
  let d ← hexValue? d
  some (((a * 16 + b) * 16 + c) * 16 + d)

def isHighUnit (unit : Nat) : Bool := 0xD800 ≤ unit && unit < 0xDC00

def isLowUnit (unit : Nat) : Bool := 0xDC00 ≤ unit && unit < 0xE000

/-- The character that a surrogate pair names. -/
def pairChar (high low : Nat) : Char :=
  Char.ofNat (0x10000 + (high - 0xD800) * 0x400 + (low - 0xDC00))

/-- The character that a one-letter escape names. -/
def escaped? (c : Char) : Option Char :=
  if c = '"' then some '"'
  else if c = '\\' then some '\\'
  else if c = '/' then some '/'
  else if c = 'b' then some '\x08'
  else if c = 'f' then some '\x0c'
  else if c = 'n' then some '\n'
  else if c = 'r' then some '\r'
  else if c = 't' then some '\t'
  else none

/-- The units up to the closing quote, and the text after it. An escape with four digits names a unit, any
other character is one by itself. -/
def readUnits : List Char → Option (List Nat × List Char)
  | [] => none
  | '"' :: rest => some ([], rest)
  | '\\' :: 'u' :: a :: b :: c :: d :: rest =>
    match unit? a b c d with
    | none => none
    | some unit => (readUnits rest).map fun (units, rest) => (unit :: units, rest)
  | '\\' :: c :: rest =>
    match escaped? c with
    | none => none
    | some c => (readUnits rest).map fun (units, rest) => (c.toNat :: units, rest)
  | c :: rest =>
    if c.toNat < 0x20 || c = '\\' then none
    else (readUnits rest).map fun (units, rest) => (c.toNat :: units, rest)

/-- The characters that units name, if no half of a surrogate pair stands alone. -/
def charsOf? : List Nat → Option (List Char)
  | [] => some []
  | [unit] => if isHighUnit unit || isLowUnit unit then none else some [Char.ofNat unit]
  | unit :: next :: rest =>
    if isHighUnit unit then
      if isLowUnit next then (charsOf? rest).map (pairChar unit next :: ·) else none
    else if isLowUnit unit then none
    else (charsOf? (next :: rest)).map (Char.ofNat unit :: ·)

theorem not_isHighUnit_toNat (c : Char) : isHighUnit c.toNat = false := by
  have h := c.valid
  simp only [UInt32.isValidChar, Nat.isValidChar, Char.toNat_val] at h
  simp only [isHighUnit, Bool.and_eq_false_iff, decide_eq_false_iff_not]
  omega

theorem not_isLowUnit_toNat (c : Char) : isLowUnit c.toNat = false := by
  have h := c.valid
  simp only [UInt32.isValidChar, Nat.isValidChar, Char.toNat_val] at h
  simp only [isLowUnit, Bool.and_eq_false_iff, decide_eq_false_iff_not]
  omega

/-- Characters that stand for themselves are read back. -/
theorem charsOf?_map_toNat (chars : List Char) : charsOf? (chars.map Char.toNat) = some chars := by
  induction chars with
  | nil => rfl
  | cons c rest ih =>
    cases rest with
    | nil => simp [charsOf?, not_isHighUnit_toNat, not_isLowUnit_toNat, Char.ofNat_toNat]
    | cons d rest =>
      rw [List.map_cons, List.map_cons] at *
      simp [charsOf?, not_isHighUnit_toNat, not_isLowUnit_toNat, Char.ofNat_toNat, ih]

/-- A string after its opening quote. It has no text if its units name none. -/
def readString (text : List Char) : Option (Option String × List Char) :=
  (readUnits text).map fun (units, rest) => ((charsOf? units).map String.ofList, rest)

/-! ## Values -/

/-- Arrays and objects may stand in each other so many times. -/
def deepest : Nat := 127

/-- An array or object, if it does not stand too deep. -/
def within (depth : Nat) (json : Json) : Json := if depth < deepest then json else .unheld

def ofText : Option String → Json
  | some text => .string text
  | none => .unheld

/-- An object, if all its keys have a text. -/
def ofMembers (members : List (Option String × Json)) : Json :=
  match members.mapM fun member => member.1.map fun key => (key, member.2) with
  | some members => .object members
  | none => .unheld

mutual

/-- A value that stands in so many others, and the text after it. Every step down or along costs one unit
of the allowance. -/
def readValue (depth : Nat) : Nat → List Char → Option (Json × List Char)
  | 0, _ => none
  | allowance + 1, text =>
    match skipBlanks text with
    | 'n' :: 'u' :: 'l' :: 'l' :: rest => some (.null, rest)
    | 't' :: 'r' :: 'u' :: 'e' :: rest => some (.bool true, rest)
    | 'f' :: 'a' :: 'l' :: 's' :: 'e' :: rest => some (.bool false, rest)
    | '"' :: rest => (readString rest).map fun (text, rest) => (ofText text, rest)
    | '[' :: rest =>
      match skipBlanks rest with
      | ']' :: rest => some (within depth (.array []), rest)
      | rest =>
        (readItems (depth + 1) allowance rest).map fun (items, rest) => (within depth (.array items), rest)
    | '{' :: rest =>
      match skipBlanks rest with
      | '}' :: rest => some (within depth (.object []), rest)
      | rest =>
        (readMembers (depth + 1) allowance rest).map fun (members, rest) =>
          (within depth (ofMembers members), rest)
    | text => (readNumeral text).map fun (numeral, rest) => (numeral.toJson, rest)

/-- At least one item and the end of the array. -/
def readItems (depth : Nat) : Nat → List Char → Option (List Json × List Char)
  | 0, _ => none
  | allowance + 1, text => do
    let (item, rest) ← readValue depth allowance text
    match skipBlanks rest with
    | ',' :: rest =>
      let (more, rest) ← readItems depth allowance rest
      some (item :: more, rest)
    | ']' :: rest => some ([item], rest)
    | _ => none

/-- At least one member and the end of the object. -/
def readMembers (depth : Nat) : Nat → List Char → Option (List (Option String × Json) × List Char)
  | 0, _ => none
  | allowance + 1, text =>
    match skipBlanks text with
    | '"' :: rest => do
      let (key, rest) ← readString rest
      match skipBlanks rest with
      | ':' :: rest =>
        let (value, rest) ← readValue depth allowance rest
        match skipBlanks rest with
        | ',' :: rest =>
          let (more, rest) ← readMembers depth allowance rest
          some ((key, value) :: more, rest)
        | '}' :: rest => some ([(key, value)], rest)
        | _ => none
      | _ => none
    | _ => none

end

/-- The value that a whole text spells. A text never needs more steps than it has characters. -/
def parse (text : String) : Option Json :=
  match readValue 0 (text.length + 1) text.toList with
  | some (json, rest) => if (skipBlanks rest).isEmpty then some json else none
  | none => none

end Infiltration.Json
