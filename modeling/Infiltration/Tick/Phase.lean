import Infiltration.Event.Occurrence
import Infiltration.World

/-!
A tick is a series of phases. Each phase sees the world as the phases before it have left it.
-/

namespace Infiltration.Tick

/-- A phase changes the world and tells what happened, in order. -/
abbrev Phase := World → World × List Occurrence

/-- Nothing happens. -/
def idle : Phase := fun world => (world, [])

/-- One phase after the other. -/
def Phase.andThen (first second : Phase) : Phase := fun world =>
  let middle := first world
  let last := second middle.1
  (last.1, middle.2 ++ last.2)

/-- Several phases, one after the other. -/
def inOrder : List Phase → Phase
  | [] => idle
  | phase :: rest => phase.andThen (inOrder rest)

/-! ## Series of phases -/

theorem inOrder_nil (world : World) : inOrder [] world = (world, []) := rfl

theorem inOrder_cons (phase : Phase) (rest : List Phase) (world : World) :
    inOrder (phase :: rest) world =
      ((inOrder rest (phase world).1).1, (phase world).2 ++ (inOrder rest (phase world).1).2) := rfl

theorem inOrder_append (front back : List Phase) (world : World) :
    inOrder (front ++ back) world = ((inOrder front).andThen (inOrder back)) world := by
  induction front generalizing world with
  | nil => rfl
  | cons phase rest ih =>
    simp only [List.cons_append, inOrder_cons, ih, Phase.andThen, List.append_assoc]

/-- What every phase keeps, their series keeps. -/
theorem inOrder_keeps {property : World → Prop} {phases : List Phase}
    (keeps : ∀ phase ∈ phases, ∀ world, property world → property (phase world).1)
    {world : World} (h : property world) : property (inOrder phases world).1 := by
  induction phases generalizing world with
  | nil => exact h
  | cons phase rest ih =>
    exact ih (fun other hother => keeps other (List.mem_cons_of_mem _ hother))
      (keeps phase (List.mem_cons_self ..) world h)

end Infiltration.Tick
