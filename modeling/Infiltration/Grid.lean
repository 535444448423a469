/-!
The grid on which everything stands: cells, distances between them and the four directions.
The vertical coordinate grows downward.
-/

namespace Infiltration

/-- A cell of the grid. -/
structure Point where
  x : Int32
  y : Int32
  deriving DecidableEq, Repr, Inhabited

namespace Point

/-- The number of steps between two cells when only the four neighbours of a cell can be reached. -/
def steps (a b : Point) : Nat :=
  (a.x.toInt - b.x.toInt).natAbs + (a.y.toInt - b.y.toInt).natAbs

/-- The distance that a device measures: the steps as a word of 32 bits counts them, which starts over
when it is full. -/
def distance (a b : Point) : Nat := a.steps b % UInt32.size

/-- The cell written as a pair of coordinates. -/
def display (p : Point) : String :=
  "(" ++ toString p.x.toInt ++ ", " ++ toString p.y.toInt ++ ")"

theorem steps_self (a : Point) : a.steps a = 0 := by
  simp [steps]

theorem steps_comm (a b : Point) : a.steps b = b.steps a := by
  unfold steps
  omega

/-- Cells that are not too many steps apart are measured exactly. -/
theorem distance_of_lt {a b : Point} (h : a.steps b < UInt32.size) : a.distance b = a.steps b :=
  Nat.mod_eq_of_lt h

example : (Point.mk 0 0).distance ⟨-2147483648, -2147483648⟩ = 0 := by decide

theorem distance_self (a : Point) : a.distance a = 0 := by
  rw [distance, steps_self, Nat.zero_mod]

theorem distance_comm (a b : Point) : a.distance b = b.distance a := by
  rw [distance, distance, steps_comm]

end Point

/-- One of the four directions a camera can look in. -/
inductive Facing where
  | up
  | down
  | left
  | right
  deriving DecidableEq, Repr

namespace Facing

def all : List Facing := [up, down, left, right]

def name : Facing → String
  | up => "up"
  | down => "down"
  | left => "left"
  | right => "right"

/-- Whether the target lies in the quarter of the grid seen from the origin in this direction: ahead of it,
and no farther to the side than ahead. The origin itself is never covered. -/
def covers (facing : Facing) (origin target : Point) : Bool :=
  let across := target.x.toInt - origin.x.toInt
  let below := target.y.toInt - origin.y.toInt
  match facing with
  | up => below < 0 && across.natAbs ≤ below.natAbs
  | down => below > 0 && across.natAbs ≤ below.natAbs
  | left => across < 0 && below.natAbs ≤ across.natAbs
  | right => across > 0 && below.natAbs ≤ across.natAbs

theorem mem_all (facing : Facing) : facing ∈ all := by
  cases facing <;> decide

theorem covers_self (facing : Facing) (origin : Point) : facing.covers origin origin = false := by
  cases facing <;> simp [covers]

end Facing

end Infiltration
