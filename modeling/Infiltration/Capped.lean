/-!
Addition of word-sized amounts that stops at the largest word. Delays, bonuses and deadlines are
added this way, so a deadline pushed past the last tick becomes the last tick.
-/

namespace Infiltration.Capped

/-- The sum of two 64-bit amounts, or the largest one if the sum is larger. -/
def add64 (a b : UInt64) : UInt64 :=
  UInt64.ofNat (min (UInt64.size - 1) (a.toNat + b.toNat))

/-- The sum of two 32-bit amounts, or the largest one if the sum is larger. -/
def add32 (a b : UInt32) : UInt32 :=
  UInt32.ofNat (min (UInt32.size - 1) (a.toNat + b.toNat))

@[simp]
theorem toNat_add64 (a b : UInt64) :
    (add64 a b).toNat = min (UInt64.size - 1) (a.toNat + b.toNat) := by
  rw [add64, UInt64.toNat_ofNat']
  exact Nat.mod_eq_of_lt (Nat.lt_of_le_of_lt (Nat.min_le_left _ _) (by decide))

@[simp]
theorem toNat_add32 (a b : UInt32) :
    (add32 a b).toNat = min (UInt32.size - 1) (a.toNat + b.toNat) := by
  rw [add32, UInt32.toNat_ofNat']
  exact Nat.mod_eq_of_lt (Nat.lt_of_le_of_lt (Nat.min_le_left _ _) (by decide))

end Infiltration.Capped
