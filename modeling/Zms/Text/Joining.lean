import Mathlib.Data.List.Basic

/-! Texts after separators, where some of them are left out and others come twice. -/

set_option autoImplicit false

namespace Zms.Text

section
variable {α : Type}

section Twice
variable {a b c : α} (name value : List α)

theorem getElem?_name {k : ℕ} (inName : k < name.length) : (name ++ c :: value)[k]? = (name ++ value)[k]? := by
  rw [List.getElem?_append_left inName, List.getElem?_append_left inName]

theorem getElem?_value (c : α) (k : ℕ) :
    (name ++ c :: value)[name.length + 1 + k]? = (name ++ value)[name.length + k]? := by
  rw [List.getElem?_append_right (by omega), List.getElem?_append_right (by omega)]
  have index : name.length + 1 + k - name.length = k + 1 := by omega
  rw [index, List.getElem?_cons_succ, Nat.add_sub_cancel_left]

end Twice

theorem getElem?_middle (before text after : List α) {k : ℕ} (inside : k < text.length) :
    (before ++ (text ++ after))[before.length + k]? = text[k]? := by
  rw [List.getElem?_append_right (Nat.le_add_right ..), Nat.add_sub_cancel_left, List.getElem?_append_left inside]

/-- A text that comes twice is not found again within its own length. -/
theorem not_shifted {a b c s : α} (as : a ≠ s) (bs : b ≠ s) (ac : a ≠ c) (ab : a ≠ b)
    {name value before more rest : List α} (first : name[0]? = some a) (second : name[1]? = some b)
    (separated : ∀ x ∈ rest.head?, x = s) (near : before.length < name.length + value.length + 1)
    (same : (name ++ c :: value) ++ ((name ++ value) ++ more) = before ++ ((name ++ c :: value) ++ rest)) : False := by
  have long : 1 < name.length := (List.getElem?_eq_some_iff.mp second).1
  have whole : (name ++ c :: value).length = name.length + value.length + 1 := by simp; omega
  have twice : (name ++ value).length = name.length + value.length := List.length_append
  -- the text from its own place, against the same text from its other place
  have overlap : ∀ k, before.length + k < name.length + value.length + 1 → k < name.length + value.length + 1 →
      (name ++ c :: value)[before.length + k]? = (name ++ c :: value)[k]? := by
    intro k inside inText
    have there := getElem?_middle before (name ++ c :: value) rest (whole ▸ inText)
    rwa [← same, List.getElem?_append_left (by omega)] at there
  -- its second copy, where the other place has the separator
  have separator : before.length < name.length + value.length → (name ++ value)[before.length]? = some s := by
    intro inside
    have here := getElem?_middle (name ++ c :: value) (name ++ value) more (twice ▸ inside)
    have place : (name ++ c :: value).length + before.length = before.length + (name ++ c :: value).length :=
      Nat.add_comm ..
    have atRest : (before ++ ((name ++ c :: value) ++ rest))[before.length + (name ++ c :: value).length]? =
        rest[0]? := by
      rw [List.getElem?_append_right (Nat.le_add_right ..), Nat.add_sub_cancel_left,
        List.getElem?_append_right (Nat.le_refl _), Nat.sub_self]
    rw [same, place, atRest, ← List.head?_eq_getElem?] at here
    rw [← here]
    cases head : rest.head? with
    | none =>
      rw [head] at here
      exact absurd here.symm (by rw [List.getElem?_eq_none_iff]; omega)
    | some x => rw [separated x head]
  have start : (name ++ c :: value)[before.length]? = some a := by
    rw [← Nat.add_zero before.length, overlap 0 (by omega) (by omega), List.getElem?_append_left (by omega), first]
  rcases Nat.lt_trichotomy before.length name.length with inName | atColon | inValue
  · rw [getElem?_name name value inName, separator (by omega)] at start
    exact as (Option.some.inj start).symm
  · rw [atColon, List.getElem?_append_right (Nat.le_refl _), Nat.sub_self] at start
    exact ac (Option.some.inj start).symm
  · rcases Nat.lt_or_ge before.length (name.length + value.length) with inside | atEnd
    · have next := overlap 1 (by omega) (by omega)
      rw [List.getElem?_append_left long, second,
        show before.length + 1 = name.length + 1 + (before.length - name.length) by omega, getElem?_value,
        Nat.add_sub_cancel' (Nat.le_of_lt inValue), separator inside] at next
      exact bs (Option.some.inj next).symm
    · have next := getElem?_middle before (name ++ c :: value) rest (k := 1) (by omega)
      have copy := getElem?_middle (name ++ c :: value) (name ++ value) more (k := 0) (by omega)
      have place : before.length + 1 = (name ++ c :: value).length + 0 := by omega
      rw [← same, place, copy, List.getElem?_append_left (by omega), List.getElem?_append_left long, first,
        second] at next
      exact ab (Option.some.inj next)

/-- What is written of a text: the text, nothing, or the text and then its parts once more. -/
inductive Written (a b c : α) : List α → List α → Prop where
  | once (text : List α) : Written a b c text text
  | never {text : List α} (any : text ≠ []) : Written a b c [] text
  | twice {name : List α} (first : name[0]? = some a) (second : name[1]? = some b) (value : List α) :
    Written a b c ((name ++ c :: value) ++ (name ++ value)) (name ++ c :: value)

theorem tail_of_append {front back front' back' : List α} (same : front ++ back = front' ++ back')
    (shorter : front.length ≤ front'.length) : back = front'.drop front.length ++ back' := by
  have dropped := congrArg (List.drop front.length) same
  rwa [List.drop_left, List.drop_append_of_le_length shorter] at dropped

/-- If the texts read as written, up to a shift, then each is written once. -/
theorem written_once {a b c s : α} (as : a ≠ s) (bs : b ≠ s) (ac : a ≠ c) (ab : a ≠ b)
    {entries : List (List α × List α)} (written : ∀ entry ∈ entries, Written a b c entry.1 entry.2) (before : List α)
    (same : entries.flatMap (s :: ·.1) = before ++ entries.flatMap (s :: ·.2)) :
    before = [] ∧ ∀ entry ∈ entries, entry.1 = entry.2 := by
  induction entries generalizing before with
  | nil => exact ⟨by simpa using same, fun entry member => absurd member List.not_mem_nil⟩
  | cons entry rest ih =>
    obtain ⟨code, text⟩ := entry
    have later := ih fun entry member => written entry (List.mem_cons_of_mem _ member)
    have separated : ∀ x ∈ (rest.flatMap (s :: ·.2)).head?, x = s := by
      intro x member
      cases rest with
      | nil => cases member
      | cons next rest => exact (Option.some.inj member).symm
    -- the texts of both sides, without the separator in front of what is written
    obtain ⟨shift, length, behind⟩ : ∃ shift : List α, shift.length = before.length ∧
        code ++ rest.flatMap (s :: ·.1) = shift ++ (text ++ rest.flatMap (s :: ·.2)) := by
      cases before with
      | nil => exact ⟨[], rfl, (List.cons.inj same).2⟩
      | cons x before =>
        refine ⟨before ++ [s], List.length_append, ?_⟩
        rw [List.append_assoc]
        exact (List.cons.inj same).2
    cases written (code, text) (List.mem_cons_self ..) with
    | once =>
      rw [← List.append_assoc] at behind
      obtain ⟨none, others⟩ := later _ (tail_of_append behind (by simp))
      have short := congrArg List.length none
      rw [List.length_drop, List.length_append, Nat.add_sub_cancel, length] at short
      refine ⟨List.length_eq_zero_iff.mp short, fun entry member => ?_⟩
      rcases List.mem_cons.mp member with rfl | inRest
      · rfl
      · exact others entry inRest
    | never any =>
      rw [← List.append_assoc] at behind
      exact absurd (List.append_eq_nil_iff.mp (later _ behind).1).2 any
    | @twice name first second value =>
      change (name ++ c :: value) ++ (name ++ value) ++ _ = shift ++ ((name ++ c :: value) ++ _) at behind
      rcases Nat.lt_or_ge shift.length (name.length + value.length + 1) with near | far
      · rw [List.append_assoc] at behind
        exact absurd behind (not_shifted as bs ac ab first second separated near)
      · rw [← List.append_assoc shift] at behind
        have none := (later _ (tail_of_append behind (by simp; omega))).1
        have short := congrArg List.length none
        simp only [List.length_drop, List.length_append, List.length_cons, List.length_nil] at short
        omega

end

end Zms.Text
