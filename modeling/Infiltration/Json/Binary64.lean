/-!
The range of floating-point numbers with 64 bits. A decimal number comes as a significand times a power of
ten; each of the two is rounded to 53 binary digits, and so is their product.
-/

namespace Infiltration.Json.Binary64

/-- The nearest number with at most 53 significant binary digits, and the even one of two. -/
def round (n : Nat) : Nat :=
  let unit := 1 <<< (n.log2 - 52)
  let below := n / unit
  let rest := 2 * (n % unit)
  if rest < unit ∨ (rest = unit ∧ below % 2 = 0) then below * unit else (below + 1) * unit

/-- The least number that is too large. It lies half a step above the largest that can be held, and of the
two neighbours the one beyond the range is even. -/
def bound : Nat := (1 <<< 54 - 1) <<< 970

/-- The largest power of ten within the range. -/
def largestPower : Int := 308

/-- Whether a significand times a power of ten is within the range. -/
def holds (significand : Nat) (power : Int) : Bool :=
  significand = 0 || power < 0 ||
    (power ≤ largestPower && round significand * round (Nat.pow 10 power.toNat) < bound)

/-! ## Small numbers -/

theorem round_of_lt {n : Nat} (h : n < 1 <<< 53) : round n = n := by
  have hlog : n.log2 - 52 = 0 := by
    by_cases hn : n = 0
    · simp [hn]
    · have := (Nat.log2_lt hn).mpr (Nat.one_shiftLeft 53 ▸ h)
      omega
  simp [round, hlog, Nat.mod_one]

theorem holds_zero (power : Int) : holds 0 power = true := by
  simp [holds]

end Infiltration.Json.Binary64
