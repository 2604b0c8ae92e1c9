import Mathlib.Data.List.Infix
import Mathlib.Tactic

/-! All occurrences of a text replaced by another, from the left. -/

set_option autoImplicit false

namespace Zms.Text

variable {α : Type}

theorem prefix_append_cons_iff {target : List α} {c : α} (absent : c ∉ target) (front rest : List α) :
    target <+: front ++ c :: rest ↔ target <+: front := by
  induction front generalizing target with
  | nil =>
    cases target with
    | nil => simp
    | cons first tail =>
      have other : first ≠ c := fun same => absent (by simp [same])
      simp [List.cons_prefix_cons, other]
  | cons d front ih =>
    cases target with
    | nil => simp
    | cons first tail =>
      have later : c ∉ tail := fun member => absent (List.mem_cons_of_mem first member)
      rw [List.cons_append, List.cons_prefix_cons, List.cons_prefix_cons, ih later]

variable [DecidableEq α]

/-- What is left after so many elements of an occurrence are skipped. -/
def replaceFrom (target replacement : List α) : Nat → List α → List α
  | _, [] => []
  | skip + 1, _ :: rest => replaceFrom target replacement skip rest
  | 0, c :: rest =>
    if target <+: c :: rest then replacement ++ replaceFrom target replacement (target.length - 1) rest
    else c :: replaceFrom target replacement 0 rest

def replaceAll (target replacement text : List α) : List α := replaceFrom target replacement 0 text

/-- `String.replace` of Java, for a target that is not empty. -/
def replace (target replacement text : String) : String :=
  String.ofList (replaceAll target.toList replacement.toList text.toList)

variable {target replacement text rest : List α} {c : α}

theorem replaceFrom_eq_drop (skip : Nat) (text : List α) :
    replaceFrom target replacement skip text = replaceAll target replacement (text.drop skip) := by
  induction skip generalizing text with
  | zero => rfl
  | succ skip ih =>
    cases text with
    | nil => rfl
    | cons c rest => exact ih rest

theorem replaceAll_cons (absent : ¬ target <+: c :: rest) :
    replaceAll target replacement (c :: rest) = c :: replaceAll target replacement rest := by
  rw [replaceAll, replaceFrom, if_neg absent]
  rfl

theorem replaceAll_target (some : target ≠ []) :
    replaceAll target replacement (target ++ rest) = replacement ++ replaceAll target replacement rest := by
  obtain ⟨c, tail, rfl⟩ := List.exists_cons_of_ne_nil some
  rw [List.cons_append, replaceAll, replaceFrom, if_pos ⟨rest, by simp⟩, replaceFrom_eq_drop]
  simp

theorem replaceAll_itself (some : target ≠ []) : replaceAll target replacement target = replacement := by
  have whole := @replaceAll_target _ _ target replacement [] some
  rwa [List.append_nil, show replaceAll target replacement [] = [] from rfl, List.append_nil] at whole

theorem replaceAll_append_of_notMem {first : α} {tail : List α} (shape : target = first :: tail) {front : List α}
    (absent : first ∉ front) :
    replaceAll target replacement (front ++ rest) = front ++ replaceAll target replacement rest := by
  induction front with
  | nil => rfl
  | cons c front ih =>
    obtain ⟨other, later⟩ := not_or.mp (List.mem_cons.not.mp absent)
    have start : ¬ target <+: c :: (front ++ rest) := by
      rw [shape, List.cons_prefix_cons]
      exact fun both => other both.1
    rw [List.cons_append, replaceAll_cons start, ih later, List.cons_append]

theorem induction_on_occurrences {P : List α → Prop} (some : target ≠ []) (nil : P [])
    (occurrence : ∀ rest, P rest → P (target ++ rest))
    (other : ∀ c rest, ¬ target <+: c :: rest → P rest → P (c :: rest)) (text : List α) : P text := by
  induction length : text.length using Nat.strong_induction_on generalizing text with
  | _ n ih =>
    cases text with
    | nil => exact nil
    | cons c rest =>
      by_cases start : target <+: c :: rest
      · obtain ⟨later, shape⟩ := start
        have positive : 0 < target.length := List.length_pos_of_ne_nil some
        have shorter : later.length < n := by
          rw [← length, ← shape, List.length_append]
          omega
        rw [← shape]
        exact occurrence later (ih _ shorter later rfl)
      · exact other c rest start (ih _ (by rw [← length]; simp) rest rfl)

theorem replaceAll_append_cons (some : target ≠ []) (absent : c ∉ target) (front rest : List α) :
    replaceAll target replacement (front ++ c :: rest) =
      replaceAll target replacement front ++ c :: replaceAll target replacement rest := by
  induction front using induction_on_occurrences some with
  | nil =>
    refine replaceAll_cons fun start => ?_
    obtain ⟨first, tail, rfl⟩ := List.exists_cons_of_ne_nil some
    exact absent (by simp [(List.cons_prefix_cons.mp start).1])
  | occurrence front ih => rw [List.append_assoc, replaceAll_target some, replaceAll_target some, ih, List.append_assoc]
  | other first front apart ih =>
    have still : ¬ target <+: first :: (front ++ c :: rest) := fun start =>
      apart ((prefix_append_cons_iff absent (first :: front) rest).mp start)
    rw [List.cons_append, replaceAll_cons still, replaceAll_cons apart, ih, List.cons_append]

theorem replaceAll_eq_self (absent : ¬ target <:+: text) :
    replaceAll target replacement text = text := by
  induction text with
  | nil => rfl
  | cons c rest ih =>
    have start : ¬ target <+: c :: rest := fun start => absent start.isInfix
    rw [replaceAll_cons start, ih fun later => absent (later.trans (List.suffix_cons c rest).isInfix)]

theorem length_replaceAll (some : target ≠ []) (text : List α) :
    (target.length ≤ replacement.length → text.length ≤ (replaceAll target replacement text).length) ∧
      (replacement.length ≤ target.length → (replaceAll target replacement text).length ≤ text.length) := by
  induction text using induction_on_occurrences some with
  | nil => simp [replaceAll, replaceFrom]
  | occurrence rest ih =>
    rw [replaceAll_target some, List.length_append, List.length_append]
    omega
  | other c rest apart ih =>
    rw [replaceAll_cons apart, List.length_cons, List.length_cons]
    omega

/-- A replacement is seen where there is an occurrence, unless it is the target itself. -/
theorem replaceAll_eq_self_iff (some : target ≠ []) :
    replaceAll target replacement text = text ↔ ¬ target <:+: text ∨ replacement = target := by
  constructor
  · intro same
    rw [or_iff_not_imp_left, not_not]
    intro occurs
    induction text using induction_on_occurrences some with
    | nil => exact absurd (List.infix_nil.mp occurs) some
    | occurrence rest _ =>
      have bounds := @length_replaceAll _ _ target replacement some rest
      rw [replaceAll_target some] at same
      have lengths := congrArg List.length same
      rw [List.length_append, List.length_append] at lengths
      exact (List.append_inj same (by omega)).1
    | other c rest apart ih =>
      rw [replaceAll_cons apart] at same
      refine ih (List.cons.inj same).2 ?_
      exact (List.infix_cons_iff.mp occurs).resolve_left apart
  · rintro (absent | rfl)
    · exact replaceAll_eq_self absent
    · induction text using induction_on_occurrences some with
      | nil => rfl
      | occurrence rest ih => rw [replaceAll_target some, ih]
      | other c rest apart ih => rw [replaceAll_cons apart, ih]

end Zms.Text
