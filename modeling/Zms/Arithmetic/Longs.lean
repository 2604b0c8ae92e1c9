import Mathlib

/-! Whole numbers as machine integers of 64 bits and as doubles. -/

set_option autoImplicit false

namespace Zms.Arithmetic

def toLong (x : ℤ) : ℤ := x.bmod (2 ^ 64)

/-- Rounded to 53 significant bits, halves to even. -/
def toDouble (x : ℤ) : ℤ :=
  let unit := 2 ^ (x.natAbs.log2 - 52)
  let quotient := x.natAbs / unit
  let rest := x.natAbs % unit
  let rounded := if 2 * rest < unit ∨ 2 * rest = unit ∧ quotient % 2 = 0 then quotient else quotient + 1
  x.sign * (rounded * unit : ℕ)

/-- `longValue` of a double: what is too large is cut off. -/
def longValue (x : ℤ) : ℤ := max (-2 ^ 63) (min x (2 ^ 63 - 1))

/-- Both hold the number as it is. -/
structure Holds (x : ℤ) : Prop where
  long : toLong x = x
  double : toDouble x = x

theorem toLong_add_toLong (x y : ℤ) : toLong (toLong x + y) = toLong (x + y) := Int.bmod_add_bmod

theorem toLong_bounds (x : ℤ) : -2 ^ 63 ≤ toLong x ∧ toLong x < 2 ^ 63 := by
  have lower := Int.le_bmod (x := x) (m := 2 ^ 64) (by decide)
  have upper := Int.bmod_lt (x := x) (m := 2 ^ 64) (by decide)
  unfold toLong
  omega

theorem toLong_of_bounds {x : ℤ} (lower : -2 ^ 63 ≤ x) (upper : x < 2 ^ 63) : toLong x = x := by
  unfold toLong
  apply Int.bmod_eq_of_le <;> omega

theorem longValue_of_holds {x : ℤ} (holds : Holds x) : longValue x = x := by
  have bounds := toLong_bounds x
  rw [holds.long] at bounds
  unfold longValue
  omega

theorem toDouble_of_small {x : ℤ} (small : x.natAbs < 2 ^ 53) : toDouble x = x := by
  have one : 2 ^ (x.natAbs.log2 - 52) = 1 := by
    have log : x.natAbs.log2 - 52 = 0 := by
      by_cases zero : x.natAbs = 0
      · rw [zero]
        rfl
      · have below := (Nat.log2_lt zero).mpr small
        omega
    rw [log, Nat.pow_zero]
  simp only [toDouble, one, Nat.div_one, Nat.mod_one, Nat.mul_zero, Nat.one_pos, true_or, if_true, Nat.mul_one]
  exact Int.sign_mul_natAbs x

theorem holds_of_small {x : ℤ} (small : x.natAbs < 2 ^ 53) : Holds x := by
  constructor
  · apply toLong_of_bounds <;> omega
  · exact toDouble_of_small small

end Zms.Arithmetic
