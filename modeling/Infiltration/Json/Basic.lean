/-!
JSON values. Members of an object keep their order and may repeat a key. A number without fraction and
exponent is an integer; the others keep their spelling, since nothing here reads their value.
-/

namespace Infiltration

inductive Json where
  | null
  | bool (value : Bool)
  | integer (value : Int)
  | decimal (numeral : List Char)
  | string (value : String)
  | array (items : List Json)
  | object (members : List (String × Json))
  /-- A value that is spelled right but cannot be held: a text with half of a surrogate pair, a number
  beyond the range of floating point, an array or object that stands too deep. Every reader refuses it, so
  it may only stand where a value is passed over. -/
  | unheld

namespace Json

/-! ## Values that are held throughout -/

mutual

/-- Whether neither the value nor any part of it is unheld. -/
def isHeld : Json → Bool
  | .unheld => false
  | .array items => areHeld items
  | .object members => membersAreHeld members
  | _ => true
termination_by structural json => json

def areHeld : List Json → Bool
  | [] => true
  | item :: more => item.isHeld && areHeld more
termination_by structural items => items

def membersAreHeld : List (String × Json) → Bool
  | [] => true
  | member :: more => memberIsHeld member && membersAreHeld more
termination_by structural members => members

def memberIsHeld : String × Json → Bool
  | (_, value) => value.isHeld
termination_by structural member => member

end

end Json

end Infiltration
