import Infiltration.Json.Basic
import Infiltration.Json.Binary64

/-!
Numbers as they are spelled: a whole part without leading zeros, and perhaps a fraction and an exponent.
Only a spelling without either is an integer, and minus zero is none.
-/

namespace Infiltration.Json

structure Numeral where
  negative : Bool
  whole : List Char
  /-- The digits after the point, of which there are none without a point. -/
  fraction : List Char
  /-- The letter, the sign and the digits of the exponent. -/
  exponent : List Char

namespace Numeral

def spelling (numeral : Numeral) : List Char :=
  (if numeral.negative then ['-'] else []) ++ numeral.whole ++
    (if numeral.fraction.isEmpty then [] else '.' :: numeral.fraction) ++ numeral.exponent

/-! ## Values -/

def natOf (digits : List Char) : Nat := Nat.ofDigitChars 10 digits 0

def integer? (numeral : Numeral) : Option Int :=
  let magnitude := natOf numeral.whole
  if numeral.fraction.isEmpty && numeral.exponent.isEmpty && !(numeral.negative && magnitude = 0) then
    some (if numeral.negative then -(magnitude : Int) else magnitude)
  else none

/-- The power of ten that the exponent names. -/
def power (numeral : Numeral) : Int :=
  match numeral.exponent with
  | [] => 0
  | _ :: '-' :: digits => -(natOf digits : Int)
  | _ :: '+' :: digits => natOf digits
  | _ :: digits => natOf digits

/-- Digits are taken into a significand while it fits a 64-bit word. The rest is left over. -/
def takeDigits (significand : Nat) : List Char → Nat × List Char
  | [] => (significand, [])
  | c :: rest =>
    let longer := significand * 10 + (c.toNat - '0'.toNat)
    if longer < UInt64.size then takeDigits longer rest else (significand, c :: rest)

/-- Whether the number is within the range of floating point. A digit before the point that no longer fits
the significand counts as a power of ten, a digit after it that still fits takes one away. -/
def inRange (numeral : Numeral) : Bool :=
  let (significand, surplus) := takeDigits 0 numeral.whole
  let (significand, dropped) := takeDigits significand numeral.fraction
  let shift : Int := (surplus.length : Int) - ((numeral.fraction.length : Int) - dropped.length)
  Binary64.holds significand (shift + numeral.power)

/-- The value of a number. All integers that fit a word are held. -/
def toJson (numeral : Numeral) : Json :=
  match numeral.integer? with
  | some value => if value.natAbs < UInt64.size || numeral.inRange then .integer value else .unheld
  | none => if numeral.inRange then .decimal numeral.spelling else .unheld

end Numeral

/-! ## Reading -/

/-- A run of digits, which must not be empty. -/
def readDigits (text : List Char) : Option (List Char × List Char) :=
  if (text.takeWhile Char.isDigit).isEmpty then none
  else some (text.takeWhile Char.isDigit, text.dropWhile Char.isDigit)

/-- The digits before the point: a zero stands alone. -/
def readWhole (text : List Char) : Option (List Char × List Char) :=
  match readDigits text with
  | some ('0' :: _ :: _, _) => none
  | result => result

/-- The digits after a point, or nothing. -/
def readFraction : List Char → Option (List Char × List Char)
  | '.' :: text => readDigits text
  | text => some ([], text)

/-- A sign, or nothing. -/
def readSign : List Char → List Char × List Char
  | '+' :: text => (['+'], text)
  | '-' :: text => (['-'], text)
  | text => ([], text)

/-- An exponent, or nothing. -/
def readExponent : List Char → Option (List Char × List Char)
  | c :: text =>
    if c = 'e' || c = 'E' then
      let (sign, text) := readSign text
      (readDigits text).map fun (digits, rest) => (c :: sign ++ digits, rest)
    else some ([], c :: text)
  | [] => some ([], [])

/-- A number after its minus sign, if it has one. -/
def readUnsigned (negative : Bool) (text : List Char) : Option (Numeral × List Char) := do
  let (whole, rest) ← readWhole text
  let (fraction, rest) ← readFraction rest
  let (exponent, rest) ← readExponent rest
  some ({ negative, whole, fraction, exponent }, rest)

def readNumeral : List Char → Option (Numeral × List Char)
  | '-' :: text => readUnsigned true text
  | text => readUnsigned false text

end Infiltration.Json
