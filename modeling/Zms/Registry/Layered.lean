import Mathlib
import Zms.Registry.Latest

/-! Elements of several ranks in one list, of which those of a higher rank stand for those of
a lower one, and what is left when only the last of each key is kept. -/

set_option autoImplicit false

namespace Zms.Registry

variable {α β κ π ν : Type} [DecidableEq κ] {key : α → κ} {rank : α → ℕ} {xs : List α}

/-- Nothing that is about the same has a higher rank. -/
def Top (subject : α → π) (rank : α → ℕ) (xs : List α) (x : α) : Prop :=
  x ∈ xs ∧ ∀ y ∈ xs, subject y = subject x → rank y ≤ rank x

theorem latest_map (f : β → α) (ys : List β) : latest key (ys.map f) = (latest (key ∘ f) ys).map f := by
  induction ys with
  | nil => rfl
  | cons y rest ih =>
    simp only [List.map_cons, latest, List.map_map, ih, Function.comp_apply]
    split <;> rfl

theorem nodup_latest (key : α → κ) (xs : List α) : ((latest key xs).map key).Nodup := by
  induction xs with
  | nil => exact List.nodup_nil
  | cons x rest ih =>
    simp only [latest]
    split
    · exact ih
    · next last =>
      refine List.nodup_cons.mpr ⟨fun again => last ?_, ih⟩
      obtain ⟨y, kept, same⟩ := List.mem_map.mp again
      exact same ▸ List.mem_map_of_mem (mem_of_mem_latest kept)

theorem eq_of_mem_latest {x y : α} (first : x ∈ latest key xs) (second : y ∈ latest key xs) (same : key x = key y) :
    x = y :=
  List.inj_on_of_nodup_map (nodup_latest key xs) first second same

theorem top_of_mem_latest (ascending : xs.Pairwise fun x y => key x = key y → rank x ≤ rank y) {x : α}
    (kept : x ∈ latest key xs) : Top key rank xs x := by
  refine ⟨mem_of_mem_latest kept, ?_⟩
  induction xs with
  | nil => cases kept
  | cons z rest ih =>
    obtain ⟨below, ascendingRest⟩ := List.pairwise_cons.mp ascending
    simp only [latest] at kept
    intro y member same
    split at kept
    · have atMost := ih ascendingRest kept
      rcases List.mem_cons.mp member with rfl | later
      · exact below x (mem_of_mem_latest kept) same
      · exact atMost y later same
    · next last =>
      rcases List.mem_cons.mp kept with rfl | keptLater
      · rcases List.mem_cons.mp member with rfl | later
        · exact Nat.le_refl _
        · exact absurd (same ▸ List.mem_map_of_mem later) last
      · rcases List.mem_cons.mp member with rfl | later
        · exact below x (mem_of_mem_latest keptLater) same
        · exact ih ascendingRest keptLater y later same

/-- The values of the highest rank of each subject are all left exactly where a key has one
value in its highest rank. -/
theorem tops_kept_iff (subject : α → π) (value : α → ν) (chosen : α → Prop)
    (ascending : xs.Pairwise fun x y => key x = key y → rank x ≤ rank y)
    (determined : ∀ x y, subject x = subject y → key x = key y)
    (chosenByKey : ∀ x y, key x = key y → chosen x → chosen y) :
    (∀ x, chosen x → Top subject rank xs x → ∃ y ∈ latest key xs, subject y = subject x ∧ value y = value x) ↔
      ∀ x y, chosen x → Top subject rank xs x → Top key rank xs y → key y = key x →
        subject y = subject x ∧ value y = value x := by
  constructor
  · intro kept x y isChosen top topOfKey same
    have alsoTop : Top subject rank xs y :=
      ⟨topOfKey.1, fun z member about => topOfKey.2 z member (determined z y about)⟩
    obtain ⟨x', left, aboutX, valueX⟩ := kept x isChosen top
    obtain ⟨y', leftToo, aboutY, valueY⟩ := kept y (chosenByKey x y same.symm isChosen) alsoTop
    have one : y' = x' := eq_of_mem_latest leftToo left
      ((determined y' y aboutY).trans (same.trans (determined x' x aboutX).symm))
    rw [← aboutX, ← valueX, ← aboutY, ← valueY, one]
    exact ⟨rfl, rfl⟩
  · intro alike x isChosen top
    obtain ⟨y, left, same⟩ : ∃ y ∈ latest key xs, key y = key x := exists_mem_latest top.1
    exact ⟨y, left, alike x y isChosen top (top_of_mem_latest ascending left) same⟩

end Zms.Registry
