import Zms.Transition.Runs

/-! Programs with a local state each, interleaved over one shared state. -/

set_option autoImplicit false

namespace Zms.Transition

/-- A step of the whole is a step of one of the programs. -/
structure Interleaved (T S L : Type) where
  shared : S
  begin : T → L
  step : T → S → L → S × L

namespace Interleaved

structure State (T S L : Type) where
  shared : S
  locals : T → L

variable {T S L : Type} [DecidableEq T]

def effect (programs : Interleaved T S L) (s : State T S L) (t : T) : State T S L :=
  let next := programs.step t s.shared (s.locals t)
  ⟨next.1, Function.update s.locals t next.2⟩

def first (programs : Interleaved T S L) : State T S L := ⟨programs.shared, programs.begin⟩

def system (programs : Interleaved T S L) : Guarded (State T S L) T where
  init s := s = programs.first
  guard _ _ := True
  effect := programs.effect

instance (programs : Interleaved T S L) (s : State T S L) (t : T) : Decidable (programs.system.guard s t) :=
  isTrue trivial

variable (programs : Interleaved T S L)

theorem effect_self (s : State T S L) (t : T) :
    (programs.effect s t).locals t = (programs.step t s.shared (s.locals t)).2 :=
  Function.update_self t _ _

theorem effect_other (s : State T S L) {t u : T} (other : u ≠ t) : (programs.effect s t).locals u = s.locals u :=
  Function.update_of_ne other _ _

variable {programs}

/-- What each program's own steps keep as long as they meet a condition is
what it began with, whatever the others do. -/
theorem begun {allowed : State T S L → T → Prop} {Q : Type} {outlook : T → L → Q}
    (keep : ∀ s t, allowed s t → outlook t (programs.step t s.shared (s.locals t)).2 = outlook t (s.locals t))
    {s : State T S L} {actions : List T} (runs : (programs.system.restrict allowed).Runs programs.first actions s)
    (t : T) : outlook t (s.locals t) = outlook t (programs.begin t) := by
  refine runs.invariant (fun _ u => outlook t (u.locals t) = outlook t (programs.begin t)) rfl ?_
  intro _ u taken same enabled
  change outlook t ((programs.effect u taken).locals t) = _
  by_cases own : t = taken
  · subst own
    rw [effect_self, keep u t enabled.2, same]
  · rw [effect_other programs u own, same]

/-- A program whose own steps count down has ended once it has taken enough of
them, whatever the others do in between. -/
theorem ends {remaining : L → ℕ} (t : T)
    (down : ∀ shared l, remaining (programs.step t shared l).2 ≤ remaining l - 1) {s : State T S L} {actions : List T}
    (runs : programs.system.Runs programs.first actions s) :
    remaining (s.locals t) ≤ remaining (programs.begin t) - actions.count t := by
  refine runs.invariant
    (fun before u => remaining (u.locals t) ≤ remaining (programs.begin t) - before.count t) (Nat.le_refl _) ?_
  intro before u taken bound _
  change remaining ((programs.effect u taken).locals t) ≤ _
  by_cases own : t = taken
  · subst own
    rw [effect_self, List.count_append, List.count_singleton_self]
    have fewer := down u.shared (u.locals t)
    omega
  · rw [effect_other programs u own, List.count_append, List.count_singleton,
      if_neg (by simpa using fun h => own h.symm)]
    exact bound

end Interleaved

end Zms.Transition
