import Mathlib

/-! Decimals divided by a whole number and rounded half down at their own number of decimals.

Rounding at one number of decimals is monotone. Two decimals with different numbers of decimals
may change their order, and do exactly next to the multiples of the coarser unit.
-/

set_option autoImplicit false

namespace Zms.Arithmetic

def halfDown (n d : Nat) : Nat := if d < 2 * (n % d) then n / d + 1 else n / d

theorem le_halfDown_iff {n d k : Nat} (positive : 0 < d) : k ≤ halfDown n d ↔ 2 * (k * d) < 2 * n + d := by
  have split : d * (n / d) + n % d = n := Nat.div_add_mod n d
  have small : n % d < d := Nat.mod_lt n positive
  unfold halfDown
  generalize n / d = q at split ⊢
  generalize n % d = r at split small ⊢
  subst split
  split
  next up =>
    constructor
    · intro le
      have product : k * d ≤ (q + 1) * d := Nat.mul_le_mul_right d le
      rw [Nat.add_mul, Nat.one_mul, Nat.mul_comm q d] at product
      omega
    · intro close
      by_contra above
      have product : (q + 2) * d ≤ k * d := Nat.mul_le_mul_right d (by omega)
      rw [Nat.add_mul, Nat.mul_comm q d] at product
      omega
  next down =>
    constructor
    · intro le
      have product : k * d ≤ q * d := Nat.mul_le_mul_right d le
      rw [Nat.mul_comm q d] at product
      omega
    · intro close
      by_contra above
      have product : (q + 1) * d ≤ k * d := Nat.mul_le_mul_right d (by omega)
      rw [Nat.add_mul, Nat.mul_comm q d] at product
      omega

/-- A number that is not negative, with no more decimals than it needs. -/
structure Decimal where
  unscaled : Nat
  scale : Nat
  lowest : scale = 0 ∨ ¬ 10 ∣ unscaled

namespace Decimal

def whole (n : Nat) : Decimal := ⟨n, 0, .inl rfl⟩

def unit (x : Decimal) : ℚ := 1 / 10 ^ x.scale

def value (x : Decimal) : ℚ := x.unscaled * x.unit

def divide (x : Decimal) (n : Nat) : ℚ := halfDown x.unscaled n * x.unit

variable {x y : Decimal} {n : Nat}

theorem unit_pos (x : Decimal) : 0 < x.unit := by
  unfold unit
  positivity

theorem le_divide_iff (positive : 0 < n) (k : Nat) :
    k * x.unit ≤ x.divide n ↔ k * x.unit - x.unit / 2 < x.value / n := by
  have divisor : (0 : ℚ) < n := by exact_mod_cast positive
  have scaled : k * x.unit - x.unit / 2 < x.value / n ↔ (2 * (k * n) : ℚ) < 2 * x.unscaled + n := by
    have shape : x.value / n - (k * x.unit - x.unit / 2) =
        x.unit / (2 * n) * (2 * x.unscaled + n - 2 * (k * n)) := by
      unfold value
      field_simp
      ring
    have factor : 0 < x.unit / (2 * n) := div_pos x.unit_pos (by positivity)
    rw [← sub_pos, shape, mul_pos_iff_of_pos_left factor, sub_pos]
  rw [scaled, divide, mul_le_mul_iff_left₀ x.unit_pos, Nat.cast_le, le_halfDown_iff positive]
  exact_mod_cast Iff.rfl

theorem divide_lt_iff (positive : 0 < n) (k : Nat) :
    x.divide n < k * x.unit ↔ x.value / n ≤ k * x.unit - x.unit / 2 := by
  rw [← not_le, le_divide_iff positive, not_lt]

theorem divide_close (positive : 0 < n) : |x.divide n - x.value / n| ≤ x.unit / 2 := by
  have low := (le_divide_iff (x := x) positive (halfDown x.unscaled n)).mp le_rfl
  have high := (divide_lt_iff (x := x) positive (halfDown x.unscaled n + 1)).mp (by
    rw [divide, mul_lt_mul_iff_left₀ x.unit_pos]
    exact_mod_cast Nat.lt_succ_self _)
  push_cast at high
  change halfDown x.unscaled n * x.unit - x.unit / 2 < _ at low
  rw [abs_le]
  unfold divide
  constructor <;> linarith

theorem unit_le_one (x : Decimal) : x.unit ≤ 1 := by
  unfold unit
  rw [div_le_one (by positivity)]
  exact one_le_pow₀ (by norm_num)

theorem exists_multiple (coarser : x.scale ≤ y.scale) (k : Nat) : ∃ m : Nat, (m : ℚ) * y.unit = k * x.unit := by
  refine ⟨k * 10 ^ (y.scale - x.scale), ?_⟩
  have power : (10 : ℚ) ^ y.scale = 10 ^ (y.scale - x.scale) * 10 ^ x.scale := by
    rw [← pow_add, Nat.sub_add_cancel coarser]
  unfold unit
  rw [power]
  push_cast
  field_simp

/-- The first is rounded up to a multiple of its coarser unit that the second is rounded below,
or the second down to one of its own that the first is rounded above. -/
def Straddles (n : Nat) (x y : Decimal) : Prop :=
  (x.scale < y.scale ∧ ∃ k : Nat, k * x.unit - x.unit / 2 < x.value / n ∧
    y.value / n ≤ k * x.unit - y.unit / 2) ∨
  (y.scale < x.scale ∧ ∃ k : Nat, k * y.unit + x.unit / 2 < x.value / n ∧
    y.value / n ≤ k * y.unit + y.unit / 2)

theorem divide_lt_divide_iff_of_lt (positive : 0 < n) (coarser : x.scale ≤ y.scale) :
    y.divide n < x.divide n ↔ ∃ k : Nat, k * x.unit - x.unit / 2 < x.value / n ∧
      y.value / n ≤ k * x.unit - y.unit / 2 := by
  constructor
  · intro less
    obtain ⟨m, multiple⟩ := exists_multiple coarser (halfDown x.unscaled n)
    refine ⟨halfDown x.unscaled n, (le_divide_iff positive _).mp le_rfl, ?_⟩
    rw [← multiple]
    apply (divide_lt_iff positive m).mp
    rw [multiple]
    exact less
  · rintro ⟨k, up, below⟩
    obtain ⟨m, multiple⟩ := exists_multiple coarser k
    rw [← multiple] at below
    calc y.divide n < m * y.unit := (divide_lt_iff positive m).mpr below
      _ = k * x.unit := multiple
      _ ≤ x.divide n := (le_divide_iff positive k).mpr up

theorem divide_lt_divide_iff_of_gt (positive : 0 < n) (coarser : y.scale ≤ x.scale) :
    y.divide n < x.divide n ↔ ∃ k : Nat, k * y.unit + x.unit / 2 < x.value / n ∧
      y.value / n ≤ k * y.unit + y.unit / 2 := by
  have above (m : Nat) : m * x.unit < x.divide n ↔ m * x.unit + x.unit / 2 < x.value / n := by
    have next := le_divide_iff (x := x) positive (m + 1)
    rw [divide, mul_lt_mul_iff_left₀ x.unit_pos, Nat.cast_lt, ← Nat.add_one_le_iff]
    rw [divide, mul_le_mul_iff_left₀ x.unit_pos, Nat.cast_le] at next
    rw [next]
    push_cast
    constructor <;> intro less <;> linarith
  constructor
  · intro less
    obtain ⟨m, multiple⟩ := exists_multiple coarser (halfDown y.unscaled n)
    refine ⟨halfDown y.unscaled n, ?_, ?_⟩
    · rw [← multiple]
      apply (above m).mp
      rw [multiple]
      exact less
    · have close := (abs_le.mp (divide_close (x := y) positive)).1
      unfold divide at close
      linarith
  · rintro ⟨k, up, below⟩
    obtain ⟨m, multiple⟩ := exists_multiple coarser k
    have down : y.divide n < (k + 1 : Nat) * y.unit := by
      apply (divide_lt_iff positive (k + 1)).mpr
      push_cast
      linarith
    have kept : y.divide n ≤ k * y.unit := by
      unfold divide at down ⊢
      rw [mul_lt_mul_iff_left₀ y.unit_pos, Nat.cast_lt] at down
      exact mul_le_mul_of_nonneg_right (by exact_mod_cast Nat.lt_succ_iff.mp down) y.unit_pos.le
    calc y.divide n ≤ k * y.unit := kept
      _ = m * x.unit := multiple.symm
      _ < x.divide n := (above m).mpr (by rwa [multiple])

/-- Two quotients keep the order of their dividends, unless these straddle a multiple. -/
theorem divide_le_divide_iff (positive : 0 < n) (le : x.value ≤ y.value) :
    x.divide n ≤ y.divide n ↔ ¬ Straddles n x y := by
  rw [← not_lt, not_iff_not]
  rcases lt_trichotomy x.scale y.scale with finer | same | coarser
  · rw [divide_lt_divide_iff_of_lt positive finer.le]
    exact ⟨fun found => .inl ⟨finer, found⟩, fun straddles => by
      rcases straddles with ⟨_, found⟩ | ⟨other, _⟩
      · exact found
      · exact absurd finer other.asymm⟩
  · have units : x.unit = y.unit := by rw [unit, unit, same]
    refine iff_of_false ?_ ?_
    · rw [divide_lt_divide_iff_of_lt positive same.le]
      rintro ⟨k, up, below⟩
      have quotients : x.value / n ≤ y.value / n := by gcongr
      rw [← units] at below
      linarith
    · rintro (⟨less, _⟩ | ⟨less, _⟩) <;> omega
  · rw [divide_lt_divide_iff_of_gt positive coarser.le]
    exact ⟨fun found => .inr ⟨coarser, found⟩, fun straddles => by
      rcases straddles with ⟨other, _⟩ | ⟨_, found⟩
      · exact absurd coarser other.asymm
      · exact found⟩

end Decimal

end Zms.Arithmetic
