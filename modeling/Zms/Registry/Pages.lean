import Mathlib

/-! A list cut into pages of one size. -/

set_option autoImplicit false

namespace Zms.Registry

variable {α : Type}

/-- The page after the first `i`. -/
def pageOf (size i : ℕ) (xs : List α) : List α := (xs.drop (size * i)).take size

theorem pageOf_nil (size i : ℕ) : pageOf size i ([] : List α) = [] := by
  unfold pageOf
  rw [List.drop_nil, List.take_nil]

theorem mem_of_mem_pageOf {size i : ℕ} {xs : List α} {x : α} (member : x ∈ pageOf size i xs) : x ∈ xs :=
  List.mem_of_mem_drop (List.mem_of_mem_take member)

def pageCount (total size : ℕ) : ℕ := (total + size - 1) / size

theorem flatMap_pageOf (size count : ℕ) (xs : List α) :
    ((List.range count).flatMap fun i => pageOf size i xs) = xs.take (size * count) := by
  induction count with
  | zero =>
      rw [Nat.mul_zero, List.take_zero]
      rfl
  | succ count ih =>
      rw [List.range_succ, List.flatMap_append, ih, List.flatMap_singleton, Nat.mul_succ, List.take_add]
      rfl

theorem total_le_pageCount {size : ℕ} (positive : 0 < size) (total : ℕ) : total ≤ size * pageCount total size := by
  unfold pageCount
  have below := Nat.lt_mul_div_succ (total + size - 1) positive
  rw [Nat.mul_succ] at below
  omega

theorem start_lt {size i total : ℕ} (positive : 0 < size) (inside : i < pageCount total size) : size * i < total := by
  have atMost : i + 1 ≤ (total + size - 1) / size := inside
  have product := (Nat.le_div_iff_mul_le positive).mp atMost
  have expanded : (i + 1) * size = size * i + size := by ring
  omega

theorem start_lt_or_eq {size i total : ℕ} (positive : 0 < size) (inside : i < max 1 (pageCount total size)) :
    size * i < total ∨ i = 0 := by
  cases lt_max_iff.mp inside with
  | inl first => exact Or.inr (Nat.lt_one_iff.mp first)
  | inr later => exact Or.inl (start_lt positive later)

theorem flatMap_pages {size : ℕ} (positive : 0 < size) (xs : List α) :
    ((List.range (max 1 (pageCount xs.length size))).flatMap fun i => pageOf size i xs) = xs := by
  rw [flatMap_pageOf]
  apply List.take_of_length_le
  calc xs.length ≤ size * pageCount xs.length size := total_le_pageCount positive xs.length
    _ ≤ size * max 1 (pageCount xs.length size) := Nat.mul_le_mul_left size (le_max_right 1 _)

end Zms.Registry
