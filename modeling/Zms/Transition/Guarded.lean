import Mathlib

/-! Transition systems given by guarded actions, with their invariant,
restriction and simulation rules.

An action carries whatever the environment chooses, so that taking it is a
function of the state; a run is a list of actions.
-/

set_option autoImplicit false

namespace Zms.Transition

/-- `guard` says when an action can be taken and `effect` what it does. -/
structure Guarded (S A : Type) where
  init : S → Prop
  guard : S → A → Prop
  effect : S → A → S

namespace Guarded

variable {S A T B : Type}

inductive Reachable (sys : Guarded S A) : S → Prop where
  | start {s : S} : sys.init s → Reachable sys s
  | step {s : S} {a : A} : Reachable sys s → sys.guard s a → Reachable sys (sys.effect s a)

def Step (sys : Guarded S A) (s t : S) : Prop := ∃ a, sys.guard s a ∧ t = sys.effect s a

/-- Finitely many steps, none included. -/
def Steps (sys : Guarded S A) : S → S → Prop := Relation.ReflTransGen sys.Step

theorem Steps.refl {sys : Guarded S A} (s : S) : sys.Steps s s := Relation.ReflTransGen.refl

theorem Steps.one {sys : Guarded S A} {s : S} {a : A} (enabled : sys.guard s a) :
    sys.Steps s (sys.effect s a) := .single ⟨a, enabled, rfl⟩

theorem Steps.trans {sys : Guarded S A} {s t u : S} (first : sys.Steps s t) (rest : sys.Steps t u) :
    sys.Steps s u := Relation.ReflTransGen.trans first rest

theorem Reachable.steps {sys : Guarded S A} {s t : S} (reached : sys.Reachable s)
    (steps : sys.Steps s t) : sys.Reachable t := by
  induction steps with
  | refl => exact reached
  | tail _ last ih =>
    obtain ⟨a, enabled, rfl⟩ := last
    exact .step ih enabled

/-- What holds at the start and is kept by every action holds in every
reachable state. -/
theorem Reachable.invariant {sys : Guarded S A} (inv : S → Prop)
    (base : ∀ s, sys.init s → inv s)
    (keep : ∀ s a, inv s → sys.guard s a → inv (sys.effect s a))
    {s : S} (reached : sys.Reachable s) : inv s := by
  induction reached with
  | start initial => exact base _ initial
  | step _ enabled ih => exact keep _ _ ih enabled

theorem Steps.invariant {sys : Guarded S A} (inv : S → Prop)
    (keep : ∀ s a, inv s → sys.guard s a → inv (sys.effect s a))
    {s t : S} (steps : sys.Steps s t) (holds : inv s) : inv t := by
  induction steps with
  | refl => exact holds
  | tail _ last ih =>
    obtain ⟨a, enabled, rfl⟩ := last
    exact keep _ a ih enabled

/-- Restrict a system to the runs all of whose steps meet a condition. -/
def restrict (sys : Guarded S A) (allowed : S → A → Prop) : Guarded S A where
  init := sys.init
  guard s a := sys.guard s a ∧ allowed s a
  effect := sys.effect

theorem Reachable.of_restrict {sys : Guarded S A} {allowed : S → A → Prop} {s : S}
    (reached : (sys.restrict allowed).Reachable s) : sys.Reachable s :=
  reached.invariant _ (fun _ initial => .start initial) fun _ _ ih enabled => .step ih enabled.1

theorem Steps.of_restrict {sys : Guarded S A} {allowed : S → A → Prop} {s t : S}
    (steps : (sys.restrict allowed).Steps s t) : sys.Steps s t := by
  refine Relation.ReflTransGen.mono ?_ _ _ steps
  rintro s t ⟨a, enabled, same⟩
  exact ⟨a, enabled.1, same⟩

section Execution
variable (sys : Guarded S A) [∀ s a, Decidable (sys.guard s a)]

instance restrictDecidable (allowed : S → A → Prop) [∀ s a, Decidable (allowed s a)] (s : S) (a : A) :
    Decidable ((sys.restrict allowed).guard s a) :=
  inferInstanceAs (Decidable (sys.guard s a ∧ allowed s a))

/-- Take the listed actions in turn; `none` as soon as one is not enabled. -/
def exec (s : S) : List A → Option S
  | [] => some s
  | a :: rest => if sys.guard s a then exec (sys.effect s a) rest else none

variable {sys}

theorem Reachable.exec {s t : S} {actions : List A} (reached : sys.Reachable s)
    (runs : sys.exec s actions = some t) : sys.Reachable t := by
  induction actions generalizing s with
  | nil =>
    cases runs
    exact reached
  | cons a rest ih =>
    simp only [Guarded.exec] at runs
    split at runs
    · next enabled => exact ih (.step reached enabled) runs
    · cases runs

/-- A run found by execution, together with a fact checked on its last state. -/
theorem exists_reachable {s : S} (actions : List A) {p : S → Prop} [DecidablePred p]
    (initial : sys.init s) (runs : (sys.exec s actions).any (fun t => decide (p t)) = true) :
    ∃ t, sys.Reachable t ∧ p t := by
  obtain ⟨t, found, holds⟩ := (Option.any_eq_true _ _).mp runs
  exact ⟨t, (Reachable.start initial).exec found, of_decide_eq_true holds⟩

end Execution

/-- Every concrete step is matched by abstract steps, possibly none. -/
structure Simulation (sys : Guarded S A) (abs : Guarded T B) (rel : S → T → Prop) : Prop where
  init : ∀ s, sys.init s → ∃ t, abs.init t ∧ rel s t
  step : ∀ s t a, rel s t → sys.guard s a → ∃ u, abs.Steps t u ∧ rel (sys.effect s a) u

/-- Whole runs are matched, wherever they start. -/
theorem Simulation.steps {sys : Guarded S A} {abs : Guarded T B} {rel : S → T → Prop}
    (simulation : Simulation sys abs rel) {s s' : S} {t : T} (related : rel s t) (steps : sys.Steps s s') :
    ∃ t', abs.Steps t t' ∧ rel s' t' := by
  induction steps with
  | refl => exact ⟨t, .refl t, related⟩
  | tail _ last ih =>
    obtain ⟨u, first, relatedMid⟩ := ih
    obtain ⟨a, enabled, rfl⟩ := last
    obtain ⟨t', rest, relatedNext⟩ := simulation.step _ u a relatedMid enabled
    exact ⟨t', first.trans rest, relatedNext⟩

theorem Simulation.reachable {sys : Guarded S A} {abs : Guarded T B} {rel : S → T → Prop}
    (simulation : Simulation sys abs rel) {s : S} (reached : sys.Reachable s) :
    ∃ t, abs.Reachable t ∧ rel s t := by
  induction reached with
  | start initial =>
    obtain ⟨t, started, related⟩ := simulation.init _ initial
    exact ⟨t, .start started, related⟩
  | step _ enabled ih =>
    obtain ⟨t, reachedAbs, related⟩ := ih
    obtain ⟨u, steps, relatedNext⟩ := simulation.step _ _ _ related enabled
    exact ⟨u, reachedAbs.steps steps, relatedNext⟩

/-- A safety property of the abstract system, read through the relation. -/
theorem Simulation.safety {sys : Guarded S A} {abs : Guarded T B} {rel : S → T → Prop}
    (simulation : Simulation sys abs rel) (safe : S → Prop)
    (reflects : ∀ s t, rel s t → abs.Reachable t → safe s) {s : S} (reached : sys.Reachable s) :
    safe s := by
  obtain ⟨t, reachedAbs, related⟩ := simulation.reachable reached
  exact reflects s t related reachedAbs

end Guarded

end Zms.Transition
