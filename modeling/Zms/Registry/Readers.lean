import Zms.Registry.Holds
import Zms.Transition.Guarded

/-! Readers that look twice: they check that a key is there and read its value
later, while others put and remove entries.

A reader is a position in a list of processes; `sees` gives the key that a
process has found and is about to read.
-/

set_option autoImplicit false

namespace Zms.Registry

variable {K I P : Type}

/-- Every key that has been found is still there. -/
def Steady [DecidableEq K] (entries : Entries K I) (seen : K → Prop) : Prop :=
  ∀ k, seen k → (entries.lookup k).isSome

namespace Steady

variable [DecidableEq K] {entries : Entries K I} {seen newSeen : K → Prop}

theorem of_none_seen (fresh : ∀ k, ¬ seen k) : Steady entries seen :=
  fun k found => absurd found (fresh k)

theorem see (steady : Steady entries seen)
    (found : ∀ k, newSeen k → seen k ∨ (entries.lookup k).isSome) : Steady entries newSeen := by
  intro k member
  cases found k member with
  | inl before => exact steady k before
  | inr present => exact present

theorem putIfAbsent (steady : Steady entries seen) (k : K) (i : I) :
    Steady (entries.putIfAbsent k i) seen := by
  intro l member
  obtain ⟨j, found⟩ := Option.isSome_iff_exists.mp (steady l member)
  rw [Entries.lookup_putIfAbsent_of_some found]
  rfl

/-- A removal is noticed exactly by the readers of its key. -/
theorem erase_iff (steady : Steady entries seen) (k : K) : Steady (entries.erase k) seen ↔ ¬ seen k := by
  constructor
  · intro kept member
    have gone := kept k member
    rw [AList.lookup_erase] at gone
    cases gone
  · intro unseen l member
    have other : l ≠ k := by
      intro same
      subst same
      exact unseen member
    rw [AList.lookup_erase_ne other]
    exact steady l member

theorem empty_iff : Steady (∅ : Entries K I) seen ↔ ∀ k, ¬ seen k := by
  constructor
  · intro kept k member
    have gone := kept k member
    rw [AList.lookup_empty] at gone
    cases gone
  · exact of_none_seen

theorem exists_lookup (steady : Steady entries seen) {k : K} (member : seen k) :
    ∃ i, entries.lookup k = some i := Option.isSome_iff_exists.mp (steady k member)

end Steady

/-- Some process has found the key. -/
def Seen (sees : P → Option K) (processes : List P) (k : K) : Prop := ∃ p ∈ processes, sees p = some k

section Seen
variable {sees : P → Option K} {processes : List P} {k : K} {p q : P} {t : Nat}

theorem not_seen_iff : ¬ Seen sees processes k ↔ ∀ p ∈ processes, sees p ≠ some k := by
  simp only [Seen, not_exists, not_and, ne_eq]

theorem none_seen_iff : (∀ k, ¬ Seen sees processes k) ↔ ∀ p ∈ processes, sees p = none := by
  constructor
  · intro unseen p member
    cases same : sees p with
    | none => rfl
    | some k => exact absurd ⟨p, member, same⟩ (unseen k)
  · intro blind k found
    obtain ⟨p, member, same⟩ := found
    rw [blind p member] at same
    cases same

theorem seen_of_append (found : Seen sees (processes ++ [p]) k) : Seen sees processes k ∨ sees p = some k := by
  obtain ⟨q, member, same⟩ := found
  cases List.mem_append.mp member with
  | inl before => exact .inl ⟨q, before, same⟩
  | inr last =>
    rw [List.mem_singleton.mp last] at same
    exact .inr same

theorem seen_of_set (found : Seen sees (processes.set t p) k) : Seen sees processes k ∨ sees p = some k := by
  obtain ⟨q, member, same⟩ := found
  cases List.mem_or_eq_of_mem_set member with
  | inl before => exact .inl ⟨q, before, same⟩
  | inr moved =>
    rw [moved] at same
    exact .inr same

theorem seen_of_set_blind (blind : sees p = none) (found : Seen sees (processes.set t p) k) :
    Seen sees processes k := by
  obtain before | same := seen_of_set found
  · exact before
  · rw [blind] at same
    cases same

theorem seen_set (standing : processes[t]? = some q) (blind : sees q = none) (found : Seen sees processes k) :
    Seen sees (processes.set t p) k := by
  obtain ⟨r, member, same⟩ := found
  obtain ⟨u, standing'⟩ := List.mem_iff_getElem?.mp member
  have other : t ≠ u := by
    intro same'
    subst same'
    rw [standing] at standing'
    rw [Option.some.inj standing', same] at blind
    cases blind
  have kept : (processes.set t p)[u]? = some r := by rw [List.getElem?_set_ne other, standing']
  exact ⟨r, List.mem_of_getElem? kept, same⟩

end Seen

/-- The invariant rule: steps that keep the found keys are exactly those that `keeps` names. -/
theorem steady_of_reachable [DecidableEq K] {S A : Type} {sys : Transition.Guarded S A}
    (entries : S → Entries K I) (seen : S → K → Prop) (keeps : S → A → Prop)
    (fresh : ∀ s, sys.init s → ∀ k, ¬ seen s k)
    (exact_step : ∀ s a, Steady (entries s) (seen s) → sys.guard s a →
      (Steady (entries (sys.effect s a)) (seen (sys.effect s a)) ↔ keeps s a))
    {s : S} (reached : (sys.restrict keeps).Reachable s) : Steady (entries s) (seen s) := by
  apply reached.invariant fun s => Steady (entries s) (seen s)
  · intro s initial
    exact Steady.of_none_seen (fresh s initial)
  · intro s a steady enabled
    exact (exact_step s a steady enabled.1).mpr enabled.2

end Zms.Registry
