import Zms.Client.Producer.Registered
import Zms.Registry.Readers

/-! What `getProducer` returns.

A call that finds its key leaves the monitor, or never enters it, and reads the
map once more: it returns null when the key has gone in between.
-/

set_option autoImplicit false

namespace Zms.Client.ProducerFactory

open Zms.Transition Zms.Registry

/-- The key that the call has found and is about to read. -/
def Pc.sees : Pc → Option String
  | .rereading topic => some (cacheName topic)
  | _ => none

/-- What a call of `getProducer` returns with this step, if it returns. -/
def returned (s : State) : Action → Option (Option Nat)
  | .publish _ _ _ i => some (some i)
  | .reread _ topic => some (s.topicProducers.lookup (cacheName topic))
  | _ => none

namespace State

def NeverNull (s : State) : Prop := ∀ a, Enabled s a → returned s a ≠ some none

/-- The step removes no key that a call has found. -/
def KeepsSeen (s : State) : Action → Prop
  | .recycle _ _ i => ∀ pc ∈ s.calls, pc.sees ≠ some (s.key i)
  | .clear _ _ => ∀ pc ∈ s.calls, pc.sees = none
  | _ => True

instance (s : State) (a : Action) : Decidable (s.KeepsSeen a) := by
  apply Action.casesOn (motive := fun a => Decidable (s.KeepsSeen a)) a <;> intros <;>
    dsimp only [KeepsSeen] <;> infer_instance

/-- The keys that calls have found. -/
abbrev Found (s : State) : String → Prop := Seen Pc.sees s.calls

variable {s : State} {t : Nat} {pc pc' : Pc} {a : Action} {k : String}

theorem neverNull_iff : s.NeverNull ↔ Steady s.topicProducers s.Found := by
  constructor
  · intro never k found
    obtain ⟨pc, member, sees⟩ := found
    obtain ⟨t, standing⟩ := List.mem_iff_getElem?.mp member
    cases pc with
    | rereading topic =>
      obtain rfl := Option.some.inj sees
      have given := never (.reread t topic) standing
      rw [← Option.ne_none_iff_isSome]
      intro gone
      exact given (congrArg some gone)
    | _ => cases sees
  · intro steady a enabled null
    cases a with
    | reread t topic =>
      have found : s.Found (cacheName topic) := ⟨_, List.mem_of_getElem? enabled, rfl⟩
      obtain ⟨i, present⟩ := steady.exists_lookup found
      rw [returned, present] at null
      cases null
    | _ => cases null

theorem found_back {caller : Caller} (found : (s.back t caller).Found k) : s.Found k := by
  cases caller <;> exact seen_of_set_blind rfl found

theorem found_abort {caller : Caller} (found : (s.abort t caller).Found k) : s.Found k := by
  cases caller <;> exact seen_of_set_blind rfl found

theorem topicProducers_back (caller : Caller) : (s.back t caller).topicProducers = s.topicProducers := by
  cases caller <;> rfl

theorem found_effect (found : (effect s a).Found k) :
    s.Found k ∨ (s.topicProducers.lookup k).isSome := by
  cases a with
  | getProducer | shutdownTopic | shutdown | restart =>
    obtain before | same := seen_of_append found
    · exact .inl before
    · cases same
  | read t monitor topic =>
    obtain before | same := seen_of_set found
    · exact .inl before
    · split at same
      · next present =>
        obtain rfl := Option.some.inj same
        exact .inr present
      · cases same
  | check t monitor topic =>
    simp only [effect] at found
    split at found
    · next present =>
      obtain before | same := seen_of_set found
      · exact .inl before
      · obtain rfl := Option.some.inj same
        exact .inr present
    · exact .inl (seen_of_set_blind rfl found)
  | containsKey | fetch =>
    simp only [effect] at found
    split at found <;> exact .inl (seen_of_set_blind rfl found)
  | test t caller i =>
    simp only [effect] at found
    split at found
    · exact .inl (seen_of_set_blind rfl found)
    · exact .inl (found_back found)
  | recycle t caller i =>
    exact .inl (found_back (s := s.withProducers (s.topicProducers.erase (s.key i))) found)
  | shutdownThrows => exact .inl (found_abort found)
  | _ => exact .inl (seen_of_set_blind rfl found)

/-- The step takes an entry out of the map. -/
def Removes : Action → Bool
  | .recycle _ _ _ | .clear _ _ => true
  | _ => false

theorem steady_of_not_removes (steady : Steady s.topicProducers s.Found) (enabled : Enabled s a)
    (keeps : Removes a = false) : Steady (effect s a).topicProducers (effect s a).Found := by
  have held : Steady s.topicProducers (effect s a).Found := steady.see fun k => found_effect
  cases changes : a.changes with
  | false =>
    rw [(moves_effect enabled changes).topicProducers]
    exact held
  | true =>
    cases a with
    | create | disable => exact held
    | publish => exact held.putIfAbsent _ _
    | recycle | clear => cases keeps
    | _ => cases changes

theorem found_recycle {caller : Caller} {i : Nat} (standing : s.At t (.recycling caller i)) :
    (effect s (.recycle t caller i)).Found k ↔ s.Found k := by
  constructor
  · exact found_back (s := s.withProducers (s.topicProducers.erase (s.key i)))
  · cases caller <;> exact seen_set standing rfl

theorem found_clear {pending : List Nat} (standing : s.At t (.visiting pending)) :
    (effect s (.clear t pending)).Found k ↔ s.Found k :=
  ⟨seen_of_set_blind rfl, seen_set standing rfl⟩

theorem steady_effect_iff (steady : Steady s.topicProducers s.Found) (enabled : Enabled s a) :
    Steady (effect s a).topicProducers (effect s a).Found ↔ s.KeepsSeen a := by
  cases removes : Removes a with
  | false =>
    apply iff_of_true (steady_of_not_removes steady enabled removes)
    cases a with
    | recycle | clear => cases removes
    | _ => trivial
  | true =>
    cases a with
    | recycle t caller i =>
      have erased : (effect s (.recycle t caller i)).topicProducers = s.topicProducers.erase (s.key i) :=
        topicProducers_back caller
      have same : (effect s (.recycle t caller i)).Found = s.Found := funext fun k => propext (found_recycle enabled)
      rw [erased, same, steady.erase_iff, not_seen_iff]
      rfl
    | clear t pending =>
      have same : (effect s (.clear t pending)).Found = s.Found := funext fun k => propext (found_clear enabled.1)
      have emptied : (effect s (.clear t pending)).topicProducers = ∅ := rfl
      rw [emptied, same, Steady.empty_iff, none_seen_iff]
      rfl
    | _ => cases removes

end State

/-- In every run whose removals spare the keys that calls have found, no call
returns null; after a removal that does not, some call is about to. -/
theorem neverNull_of_keepsSeen {s : State} (reached : (machine.restrict State.KeepsSeen).Reachable s) :
    s.NeverNull ∧ ∀ a, machine.guard s a → ((machine.effect s a).NeverNull ↔ s.KeepsSeen a) := by
  have steady : Steady s.topicProducers s.Found := by
    apply steady_of_reachable State.topicProducers State.Found State.KeepsSeen _ _ reached
    · intro s start k found
      subst start
      obtain ⟨pc, member, _⟩ := found
      cases member
    · intro s a
      exact State.steady_effect_iff
  constructor
  · exact State.neverNull_iff.mpr steady
  · intro a enabled
    exact State.neverNull_iff.trans (State.steady_effect_iff steady enabled)

end Zms.Client.ProducerFactory
