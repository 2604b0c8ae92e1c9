import Mathlib

/-! What a stable sort does to the elements that are selected from a list. -/

set_option autoImplicit false

namespace Zms.Registry

variable {α κ : Type} {le : α → α → Bool}

/-- Elements that are in order already stay as they are, whatever stands between them. -/
theorem filter_mergeSort (trans : ∀ a b c, le a b → le b c → le a c) (total : ∀ a b, le a b || le b a)
    {p : α → Bool} {xs : List α} (ordered : (xs.filter p).Pairwise (fun a b => le a b = true)) :
    (xs.mergeSort le).filter p = xs.filter p := by
  have kept : (xs.filter p).Sublist ((xs.mergeSort le).filter p) := by
    have inSorted := List.sublist_mergeSort trans total ordered List.filter_sublist
    simpa only [List.filter_filter, Bool.and_self] using inSorted.filter p
  have sameLength : (xs.filter p).length = ((xs.mergeSort le).filter p).length :=
    ((List.mergeSort_perm xs le).filter p).length_eq.symm
  exact (kept.eq_of_length sameLength).symm

/-- Where the order of the selected elements is that of what is read from them, what is read
after a sort is determined by the elements. -/
theorem map_filter_mergeSort [PartialOrder κ] (trans : ∀ a b c, le a b → le b c → le a c)
    (total : ∀ a b, le a b || le b a) {p : α → Bool} {read : α → κ}
    (reads : ∀ a b, p a = true → p b = true → le a b = true → read a ≤ read b) {xs ys : List α}
    (same : (xs.filter p).Perm (ys.filter p)) :
    ((xs.mergeSort le).filter p).map read = ((ys.mergeSort le).filter p).map read := by
  have ordered : ∀ zs : List α, (((zs.mergeSort le).filter p).map read).Pairwise (· ≤ ·) := by
    intro zs
    rw [List.pairwise_map]
    refine ((List.pairwise_mergeSort trans total zs).filter p).imp_of_mem ?_
    intro a b inA inB before
    exact reads a b (List.mem_filter.mp inA).2 (List.mem_filter.mp inB).2 before
  have perm : ((xs.mergeSort le).filter p).Perm ((ys.mergeSort le).filter p) :=
    (((List.mergeSort_perm xs le).filter p).trans same).trans ((List.mergeSort_perm ys le).filter p).symm
  exact (perm.map read).eq_of_pairwise (fun a b _ _ => le_antisymm) (ordered xs) (ordered ys)

end Zms.Registry
