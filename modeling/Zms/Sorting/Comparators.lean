import Mathlib.Data.List.Sort
import Mathlib.Data.Int.Order.Basic

/-! Comparators on the elements of a list, and what a sort promises that is given one. -/

set_option autoImplicit false

namespace Zms.Sorting

variable {α : Type}

structure Contract (compare : α → α → Int) (elements : List α) : Prop where
  reverses : ∀ x ∈ elements, ∀ y ∈ elements, (compare x y).sign = -(compare y x).sign
  transitive : ∀ x ∈ elements, ∀ y ∈ elements, ∀ z ∈ elements, 0 < compare x y → 0 < compare y z → 0 < compare x z
  consistent : ∀ x ∈ elements, ∀ y ∈ elements, compare x y = 0 →
    ∀ z ∈ elements, (compare x z).sign = (compare y z).sign

/-- A sort may throw where the contract does not hold, and promises nothing there. -/
def Sorts (compare : α → α → Int) (elements : List α) (outcome : Option (List α)) : Prop :=
  Contract compare elements →
    ∃ sorted, outcome = some sorted ∧ sorted.Perm elements ∧ sorted.Pairwise fun x y => compare x y ≤ 0

theorem Contract.self {compare : α → α → Int} {elements : List α} (contract : Contract compare elements) {x : α}
    (member : x ∈ elements) : compare x x = 0 := by
  have sign := contract.reverses x member x member
  exact Int.sign_eq_zero_iff_zero.mp (by omega)

theorem contract_nil (compare : α → α → Int) : Contract compare [] where
  reverses x impossible := by cases impossible
  transitive x impossible := by cases impossible
  consistent x impossible := by cases impossible

end Zms.Sorting
