import Mathlib

/-! Lists with keys, of which only the last element of each key is kept. -/

set_option autoImplicit false

namespace Zms.Registry

variable {α κ : Type} [DecidableEq κ]

/-- The last element of each key, as a map leaves them whose merge function takes the later
value. The order of the elements stands for none. -/
def latest (key : α → κ) : List α → List α
  | [] => []
  | x :: rest => if key x ∈ rest.map key then latest key rest else x :: latest key rest

variable {key : α → κ}

theorem mem_of_mem_latest {x : α} {xs : List α} (member : x ∈ latest key xs) : x ∈ xs := by
  induction xs with
  | nil => cases member
  | cons y rest ih =>
    simp only [latest] at member
    split at member
    · exact List.mem_cons_of_mem _ (ih member)
    · rcases List.mem_cons.mp member with same | later
      · exact same ▸ List.mem_cons_self
      · exact List.mem_cons_of_mem _ (ih later)

theorem exists_mem_latest {x : α} {xs : List α} (member : x ∈ xs) : ∃ y ∈ latest key xs, key y = key x := by
  induction xs generalizing x with
  | nil => cases member
  | cons z rest ih =>
    simp only [latest]
    split
    · next again =>
      -- an element of the rest has the key, whether it is `x` itself or another one
      have inRest : key x ∈ rest.map key := by
        rcases List.mem_cons.mp member with rfl | later
        · exact again
        · exact List.mem_map_of_mem later
      obtain ⟨w, found, sameKey⟩ := List.mem_map.mp inRest
      obtain ⟨y, kept, same⟩ := ih found
      exact ⟨y, kept, same.trans sameKey⟩
    · rcases List.mem_cons.mp member with rfl | later
      · exact ⟨x, List.mem_cons_self, rfl⟩
      · obtain ⟨y, kept, same⟩ := ih later
        exact ⟨y, List.mem_cons_of_mem _ kept, same⟩

theorem filter_latest {p : α → Bool} (sameFor : ∀ x y, key x = key y → p x = p y) (xs : List α) :
    (latest key xs).filter p = latest key (xs.filter p) := by
  induction xs with
  | nil => rfl
  | cons x rest ih =>
    by_cases selected : p x = true
    · have again : key x ∈ (rest.filter p).map key ↔ key x ∈ rest.map key := by
        simp only [List.mem_map, List.mem_filter]
        constructor
        · rintro ⟨y, ⟨member, -⟩, same⟩
          exact ⟨y, member, same⟩
        · rintro ⟨y, member, same⟩
          exact ⟨y, ⟨member, (sameFor y x same).trans selected⟩, same⟩
      simp only [latest, List.filter_cons_of_pos selected, again]
      split
      · exact ih
      · rw [List.filter_cons_of_pos selected, ih]
    · simp only [latest, List.filter_cons_of_neg selected]
      split
      · exact ih
      · rw [List.filter_cons_of_neg selected, ih]

end Zms.Registry
