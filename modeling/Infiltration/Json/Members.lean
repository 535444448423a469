import Infiltration.Json.Basic

/-!
Taking values apart: plain values within the range of their type, names out of a fixed set, lists, and
the fields of a record. A record is an object, whose unknown members are passed over and whose known
ones may not repeat, or an array of the fields in order.
-/

namespace Infiltration.Json

/-! ## Plain values -/

def bool? : Json → Option Bool
  | .bool value => some value
  | _ => none

def string? : Json → Option String
  | .string value => some value
  | _ => none

/-- A natural number below the bound. -/
def natBelow? (bound : Nat) : Json → Option Nat
  | .integer (.ofNat n) => if n < bound then some n else none
  | _ => none

/-- A natural number that fits a 64-bit word. -/
def index? (json : Json) : Option Nat := json.natBelow? UInt64.size

def word64? (json : Json) : Option UInt64 := (json.natBelow? UInt64.size).map UInt64.ofNat

def word32? (json : Json) : Option UInt32 := (json.natBelow? UInt32.size).map UInt32.ofNat

/-- A number that fits a signed 32-bit word. -/
def signed32? : Json → Option Int32
  | .integer n => if Int32.minValue.toInt ≤ n ∧ n ≤ Int32.maxValue.toInt then some (Int32.ofInt n) else none
  | _ => none

/-- The value with this name. -/
def named? {α : Type} (all : List α) (name : α → String) : Json → Option α
  | .string text => all.find? fun value => name value = text
  | _ => none

/-- The value with this name, which may also be the only key of an object and then stands over nothing. -/
def variantOver? {α : Type} (isNothing : Json → Bool) (all : List α) (name : α → String) :
    Json → Option α
  | .object [(text, value)] => if isNothing value then named? all name (.string text) else none
  | json => named? all name json

def isNull : Json → Bool
  | .null => true
  | _ => false

/-- Null, or an object without members. -/
def isEmpty : Json → Bool
  | .null => true
  | .object [] => true
  | _ => false

def variant? {α : Type} (all : List α) (name : α → String) : Json → Option α :=
  variantOver? isNull all name

def list? {α : Type} (item? : Json → Option α) : Json → Option (List α)
  | .array items => items.mapM item?
  | _ => none

/-- A value or null. -/
def nullable? {α : Type} (value? : Json → Option α) : Json → Option (Option α)
  | .null => some none
  | json => (value? json).map some

/-! ## Records -/

abbrev Members := List (String × Json)

/-- The members of an object that have one of the names, if none of these is given twice. -/
def known? (names : List String) : Json → Option Members
  | .object members =>
    let known := members.filter fun member => names.contains member.1
    if (known.map Prod.fst).Nodup then some known else none
  | _ => none

/-- The fields of a record. As an array it has at least the given number of them. -/
def record? (names : List String) (least : Nat) : Json → Option Members
  | .array items =>
    if least ≤ items.length ∧ items.length ≤ names.length then some (names.zip items) else none
  | json => json.known? names

namespace Members

/-- A field that must be there. -/
def required {α : Type} (members : Members) (name : String) (value? : Json → Option α) : Option α :=
  (members.lookup name).bind value?

/-- A field that may be missing and then has a default. -/
def withDefault {α : Type} (members : Members) (name : String) (value? : Json → Option α)
    (default : α) : Option α :=
  match members.lookup name with
  | some json => value? json
  | none => some default

/-- A field that may be missing or null. -/
def optional {α : Type} (members : Members) (name : String) (value? : Json → Option α) :
    Option (Option α) :=
  members.withDefault name (nullable? value?) none

end Members

/-! ## Writing -/

def ofWord64 (value : UInt64) : Json := .integer (.ofNat value.toNat)

def ofWord32 (value : UInt32) : Json := .integer (.ofNat value.toNat)

def ofIndex (value : Nat) : Json := .integer (.ofNat value)

def ofSigned32 (value : Int32) : Json := .integer value.toInt

def ofList {α : Type} (item : α → Json) (items : List α) : Json := .array (items.map item)

def ofOption {α : Type} (item : α → Json) : Option α → Json
  | some value => item value
  | none => .null

/-- A member that is left out where there is no value. -/
def memberIf {α : Type} (name : String) (item : α → Json) : Option α → List (String × Json)
  | some value => [(name, item value)]
  | none => []

end Infiltration.Json
