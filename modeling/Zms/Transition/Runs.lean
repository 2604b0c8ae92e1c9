import Zms.Transition.Guarded

/-! Runs together with the list of their actions. -/

set_option autoImplicit false

namespace Zms.Transition.Guarded

variable {S A : Type}

/-- The listed actions lead from the first state to the last. -/
inductive Runs (sys : Guarded S A) (s : S) : List A → S → Prop where
  | refl : Runs sys s [] s
  | snoc {actions : List A} {t : S} {a : A} : Runs sys s actions t → sys.guard t a →
      Runs sys s (actions ++ [a]) (sys.effect t a)

theorem Runs.invariant {sys : Guarded S A} {s t : S} {actions : List A} (inv : List A → S → Prop)
    (runs : sys.Runs s actions t) (base : inv [] s)
    (keep : ∀ before u a, inv before u → sys.guard u a → inv (before ++ [a]) (sys.effect u a)) : inv actions t := by
  induction runs with
  | refl => exact base
  | snoc _ enabled ih => exact keep _ _ _ ih enabled

theorem Runs.of_restrict {sys : Guarded S A} {allowed : S → A → Prop} {s t : S} {actions : List A}
    (runs : (sys.restrict allowed).Runs s actions t) : sys.Runs s actions t := by
  refine runs.invariant (fun before u => sys.Runs s before u) .refl ?_
  intro before u a earlier enabled
  exact .snoc earlier enabled.1

theorem Runs.exec {sys : Guarded S A} [∀ s a, Decidable (sys.guard s a)] {s t u : S} {before actions : List A}
    (runs : sys.Runs s before t) (leads : sys.exec t actions = some u) : sys.Runs s (before ++ actions) u := by
  induction actions generalizing before t with
  | nil =>
    cases leads
    rw [List.append_nil]
    exact runs
  | cons a rest ih =>
    simp only [Guarded.exec] at leads
    split at leads
    · next enabled =>
      have further := ih (.snoc runs enabled) leads
      rwa [List.append_assoc] at further
    · cases leads

/-- A run found by execution, together with a fact checked on its last state. -/
theorem exists_runs {sys : Guarded S A} [∀ s a, Decidable (sys.guard s a)] (s : S) (actions : List A) {p : S → Prop}
    [DecidablePred p] (leads : (sys.exec s actions).any (fun t => decide (p t)) = true) :
    ∃ t, sys.Runs s actions t ∧ p t := by
  obtain ⟨t, found, holds⟩ := (Option.any_eq_true _ _).mp leads
  exact ⟨t, Runs.exec .refl found, of_decide_eq_true holds⟩

end Zms.Transition.Guarded
