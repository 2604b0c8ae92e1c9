import Mathlib

/-! Texts split where a separator stands twice, from the left, as a pattern of two characters
is found. -/

set_option autoImplicit false

namespace Zms.Text

variable {α : Type} {c : α}

/-- The separator does not stand twice in a word, nor at its end. -/
def Single (c : α) (word : List α) : Prop := ¬ [c, c] <:+: word ++ [c]

theorem single_nil : Single c ([] : List α) := fun isInfix => by
  have long := isInfix.length_le
  simp at long

theorem single_cons {x : α} {word : List α} :
    Single c (x :: word) ↔ ¬ (x = c ∧ ∀ y ∈ (word ++ [c]).head?, y = c) ∧ Single c word := by
  unfold Single
  rw [List.cons_append, List.infix_cons_iff, not_or, List.cons_prefix_cons, eq_comm]
  cases word with
  | nil => simp
  | cons y rest =>
    rw [List.cons_append, List.cons_prefix_cons, eq_comm (a := c)]
    simp

theorem single_of_notMem {word : List α} (free : c ∉ word) : Single c word := by
  induction word with
  | nil => exact single_nil
  | cons x word ih =>
    have other : x ≠ c := fun same => free (same ▸ List.mem_cons_self)
    exact single_cons.mpr ⟨fun both => other both.1, ih fun member => free (List.mem_cons_of_mem _ member)⟩

variable [DecidableEq α]

instance (c : α) (word : List α) : Decidable (Single c word) := inferInstanceAs (Decidable (¬ _))

/-- What stands between the doubled separators. -/
def splitDoubled (c : α) : List α → List (List α)
  | [] => [[]]
  | [x] => [[x]]
  | x :: y :: rest =>
      if x = c ∧ y = c then [] :: splitDoubled c rest
      else (splitDoubled c (y :: rest)).modifyHead (x :: ·)

theorem splitDoubled_ne_nil (text : List α) : splitDoubled c text ≠ [] := by
  fun_induction splitDoubled c text with
  | case1 => simp
  | case2 => simp
  | case3 => simp
  | case4 x y rest _ ih => simpa using ih

theorem splitDoubled_append {word : List α} (single : Single c word) (rest : List α) :
    splitDoubled c (word ++ c :: c :: rest) = word :: splitDoubled c rest := by
  induction word with
  | nil => exact if_pos ⟨rfl, rfl⟩
  | cons x word ih =>
    obtain ⟨first, later⟩ := single_cons.mp single
    have tail := ih later
    cases word with
    | nil =>
      have other : ¬ (x = c ∧ c = c) := fun both => first ⟨both.1, by simp⟩
      rw [List.singleton_append, splitDoubled, if_neg other]
      exact (congrArg _ tail).trans rfl
    | cons y word =>
      have other : ¬ (x = c ∧ y = c) := fun both => first ⟨both.1, by simpa using both.2⟩
      rw [List.cons_append, List.cons_append, splitDoubled, if_neg other]
      exact (congrArg _ tail).trans rfl

theorem of_splitDoubled_cons {text first : List α} {more : List (List α)} (some : more ≠ [])
    (is : splitDoubled c text = first :: more) :
    Single c first ∧ ∃ rest, text = first ++ c :: c :: rest ∧ splitDoubled c rest = more := by
  fun_induction splitDoubled c text generalizing first more with
  | case1 => exact absurd (List.cons.inj is).2.symm some
  | case2 => exact absurd (List.cons.inj is).2.symm some
  | case3 x y rest both =>
    obtain ⟨rfl, rfl⟩ := List.cons.inj is
    obtain ⟨rfl, rfl⟩ := both
    exact ⟨single_nil, rest, rfl, rfl⟩
  | case4 x y rest other ih =>
    cases parts : splitDoubled c (y :: rest) with
    | nil => exact absurd parts (splitDoubled_ne_nil _)
    | cons word words =>
      rw [parts, List.modifyHead_cons] at is
      obtain ⟨rfl, rfl⟩ := List.cons.inj is
      obtain ⟨single, after, shape, same⟩ := ih some parts
      refine ⟨single_cons.mpr ⟨?_, single⟩, after, by rw [shape, List.cons_append], same⟩
      rintro ⟨isSeparator, next⟩
      refine other ⟨isSeparator, next y ?_⟩
      cases word with
      | nil => simpa using (List.cons.inj shape).1.symm
      | cons z word => simpa using (List.cons.inj shape).1.symm

theorem splitDoubled_of_notMem {word : List α} (free : c ∉ word) : splitDoubled c word = [word] := by
  fun_induction splitDoubled c word with
  | case1 => rfl
  | case2 => rfl
  | case3 x y rest both => exact absurd (both.1 ▸ List.mem_cons_self) free
  | case4 x y rest _ ih => rw [ih fun member => free (List.mem_cons_of_mem _ member), List.modifyHead_cons]

/-- The first word comes back exactly when the separator does not stand twice in it, nor at
its end. -/
theorem splitDoubled_cons_iff {word rest : List α} {more : List (List α)} (some : more ≠ []) :
    splitDoubled c (word ++ c :: c :: rest) = word :: more ↔ Single c word ∧ splitDoubled c rest = more := by
  constructor
  · intro is
    obtain ⟨single, -⟩ := of_splitDoubled_cons some is
    refine ⟨single, ?_⟩
    rw [splitDoubled_append single] at is
    exact (List.cons.inj is).2
  · rintro ⟨single, same⟩
    rw [splitDoubled_append single, same]

end Zms.Text
