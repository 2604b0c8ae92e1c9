import Zms.Client.Consumer.Calls
import Zms.Client.Producer.Returns

/-! What `getConsumer` returns, and the claim about both factories. -/

set_option autoImplicit false

namespace Zms.Client.ConsumerCalls

open Zms.Transition Zms.Registry ConsumerFactory

/-- The key that the call has found and is about to read. -/
def Pc.sees : Pc → Option String
  | .rereading consumerGroup name => some (cacheName consumerGroup name)
  | _ => none

/-- What a call of `getConsumer` returns with this step, if it returns. -/
def returned (s : State) : Action → Option (Option Nat)
  | .publish _ _ _ i => some (some i)
  | .reread _ consumerGroup name => some (s.consumers.lookup (cacheName consumerGroup name))
  | _ => none

def Action.writes : Action → Bool
  | .publish _ _ _ _ | .recycle _ _ _ | .clear _ _ => true
  | _ => false

namespace State

def NeverNull (s : State) : Prop := ∀ a, Enabled s a → returned s a ≠ some none

/-- The step removes no key that a call has found. -/
def KeepsSeen (s : State) : Action → Prop
  | .recycle _ _ i => ∀ pc ∈ s.calls, pc.sees ≠ some (s.key i)
  | .clear _ _ => ∀ pc ∈ s.calls, pc.sees = none
  | _ => True

instance (s : State) (a : Action) : Decidable (s.KeepsSeen a) := by
  apply Action.casesOn (motive := fun a => Decidable (s.KeepsSeen a)) a <;> intros <;>
    dsimp only [KeepsSeen] <;> infer_instance

/-- The keys that calls have found. -/
abbrev Found (s : State) : String → Prop := Seen Pc.sees s.calls

variable {s : State} {t i : Nat} {a : Action} {k : String}

theorem neverNull_iff : s.NeverNull ↔ Steady s.consumers s.Found := by
  constructor
  · intro never k found
    obtain ⟨pc, member, sees⟩ := found
    obtain ⟨t, standing⟩ := List.mem_iff_getElem?.mp member
    cases pc with
    | rereading consumerGroup name =>
      obtain rfl := Option.some.inj sees
      have given := never (.reread t consumerGroup name) standing
      rw [← Option.ne_none_iff_isSome]
      intro gone
      exact given (congrArg some gone)
    | _ => cases sees
  · intro steady a enabled null
    cases a with
    | reread t consumerGroup name =>
      have found : s.Found (cacheName consumerGroup name) := ⟨_, List.mem_of_getElem? enabled, rfl⟩
      obtain ⟨i, present⟩ := steady.exists_lookup found
      rw [returned, present] at null
      cases null
    | _ => cases null

theorem found_back {caller : Caller} (found : (s.back t i caller).Found k) : s.Found k := by
  cases caller <;> exact seen_of_set_blind rfl found

theorem found_abort {caller : Caller} (found : (s.abort t caller).Found k) : s.Found k := by
  cases caller <;> exact seen_of_set_blind rfl found

theorem consumers_back (caller : Caller) : (s.back t i caller).consumers = s.consumers := by
  cases caller <;> rfl

theorem consumers_effect (quiet : a.writes = false) : (effect s a).consumers = s.consumers := by
  cases a with
  | publish | recycle | clear => cases quiet
  | check | containsKey | fetch =>
    simp only [effect]
    split <;> rfl
  | test t caller i =>
    simp only [effect]
    split
    · rfl
    · exact consumers_back caller
  | shutdownThrows t caller i => cases caller <;> rfl
  | _ => rfl

theorem found_effect (found : (effect s a).Found k) : s.Found k ∨ (s.consumers.lookup k).isSome := by
  cases a with
  | getConsumer | shutdownGroup | shutdown | restart =>
    obtain before | same := seen_of_append found
    · exact .inl before
    · cases same
  | pollThreadEnds => exact .inl found
  | read t consumerGroup name =>
    obtain before | same := seen_of_set found
    · exact .inl before
    · split at same
      · next present =>
        obtain rfl := Option.some.inj same
        exact .inr present
      · cases same
  | check t consumerGroup name =>
    simp only [effect] at found
    split at found
    · next present =>
      obtain before | same := seen_of_set found
      · exact .inl before
      · obtain rfl := Option.some.inj same
        exact .inr present
    · exact .inl (seen_of_set_blind rfl found)
  | containsKey | fetch =>
    simp only [effect] at found
    split at found <;> exact .inl (seen_of_set_blind rfl found)
  | test t caller i =>
    simp only [effect] at found
    split at found
    · exact .inl (seen_of_set_blind rfl found)
    · exact .inl (found_back found)
  | recycle t caller i => exact .inl (found_back (s := s.withConsumers (s.consumers.erase (s.key i))) found)
  | shutdownThrows => exact .inl (found_abort found)
  | _ => exact .inl (seen_of_set_blind rfl found)

theorem found_recycle {caller : Caller} (standing : s.At t (.recycling caller i)) :
    (effect s (.recycle t caller i)).Found k ↔ s.Found k := by
  constructor
  · exact found_back (s := s.withConsumers (s.consumers.erase (s.key i)))
  · cases caller <;> exact seen_set standing rfl

theorem found_clear {pending : List Nat} (standing : s.At t (.visiting pending)) :
    (effect s (.clear t pending)).Found k ↔ s.Found k :=
  ⟨seen_of_set_blind rfl, seen_set standing rfl⟩

theorem steady_effect_iff (steady : Steady s.consumers s.Found) (enabled : Enabled s a) :
    Steady (effect s a).consumers (effect s a).Found ↔ s.KeepsSeen a := by
  have held : Steady s.consumers (effect s a).Found := steady.see fun k => found_effect
  cases writes : a.writes with
  | false =>
    rw [consumers_effect writes]
    apply iff_of_true held
    cases a with
    | recycle | clear => cases writes
    | _ => trivial
  | true =>
    cases a with
    | publish => exact iff_of_true (held.putIfAbsent _ _) trivial
    | recycle t caller i =>
      have erased : (effect s (.recycle t caller i)).consumers = s.consumers.erase (s.key i) :=
        consumers_back caller
      have same : (effect s (.recycle t caller i)).Found = s.Found :=
        funext fun k => propext (found_recycle enabled)
      rw [erased, same, steady.erase_iff, not_seen_iff]
      rfl
    | clear t pending =>
      have emptied : (effect s (.clear t pending)).consumers = ∅ := rfl
      have same : (effect s (.clear t pending)).Found = s.Found :=
        funext fun k => propext (found_clear enabled.1)
      rw [emptied, same, Steady.empty_iff, none_seen_iff]
      rfl
    | _ => cases writes

end State

/-- In every run whose removals spare the keys that calls have found, no call
returns null; after a removal that does not, some call is about to. -/
theorem neverNull_of_keepsSeen {s : State} (reached : (machine.restrict State.KeepsSeen).Reachable s) :
    s.NeverNull ∧ ∀ a, machine.guard s a → ((machine.effect s a).NeverNull ↔ s.KeepsSeen a) := by
  have steady : Steady s.consumers s.Found := by
    apply steady_of_reachable State.consumers State.Found State.KeepsSeen _ _ reached
    · intro s start k found
      subst start
      obtain ⟨pc, member, _⟩ := found
      cases member
    · intro s a
      exact State.steady_effect_iff
  constructor
  · exact State.neverNull_iff.mpr steady
  · intro a enabled
    exact State.neverNull_iff.trans (State.steady_effect_iff steady enabled)

end Zms.Client.ConsumerCalls

namespace Zms.Client

open Zms.Transition

/-- Both factories, over the runs that meet the condition and their next steps. -/
theorem gets_neverNull {producers : ProducerFactory.State} {consumers : ConsumerCalls.State}
    (producing : (ProducerFactory.machine.restrict ProducerFactory.State.KeepsSeen).Reachable producers)
    (consuming : (ConsumerCalls.machine.restrict ConsumerCalls.State.KeepsSeen).Reachable consumers) :
    (producers.NeverNull ∧ ∀ a, ProducerFactory.machine.guard producers a →
        ((ProducerFactory.machine.effect producers a).NeverNull ↔ producers.KeepsSeen a)) ∧
      consumers.NeverNull ∧ ∀ a, ConsumerCalls.machine.guard consumers a →
        ((ConsumerCalls.machine.effect consumers a).NeverNull ↔ consumers.KeepsSeen a) :=
  ⟨ProducerFactory.neverNull_of_keepsSeen producing, ConsumerCalls.neverNull_of_keepsSeen consuming⟩

/-- The call `t` of `getConsumer` makes consumer `i`. -/
def ConsumerCalls.Run.create (t i : Nat) : List Action :=
  [.getConsumer "billing" "DEFAULT_CONSUMER", .read t "billing" "DEFAULT_CONSUMER",
    .enter t "billing" "DEFAULT_CONSUMER", .check t "billing" "DEFAULT_CONSUMER",
    .create t "billing" "DEFAULT_CONSUMER", .publish t "billing" "DEFAULT_CONSUMER" i]

/-- It finds one and is about to read it. -/
def ConsumerCalls.Run.find (t : Nat) : List Action :=
  [.getConsumer "billing" "DEFAULT_CONSUMER", .read t "billing" "DEFAULT_CONSUMER"]

def ConsumerCalls.Run.shutdown (t i : Nat) : List Action :=
  [.restart i, .test t .restart i, .disable t .restart i, .recycle t .restart i]

def ProducerFactory.Run.find (t : Nat) : List Action :=
  [.getProducer "orders" none, .read t (monitorOf none) "orders"]

set_option maxRecDepth 4000 in
/-- Each factory restarts what it has made after a second call has got it. -/
theorem gets_neverNull_restart :
    ∃ (producers : ProducerFactory.State) (consumers : ConsumerCalls.State),
      producers.topicProducers.lookup (ProducerFactory.cacheName "orders") = none ∧
        consumers.consumers.lookup (ConsumerFactory.cacheName "billing" "DEFAULT_CONSUMER") = none ∧
        producers.NeverNull ∧ consumers.NeverNull := by
  have produced : ∃ s, (ProducerFactory.machine.restrict ProducerFactory.State.KeepsSeen).Reachable s ∧
      s.topicProducers.lookup (ProducerFactory.cacheName "orders") = none :=
    Guarded.exists_reachable
      (ProducerFactory.Run.enter 0 none ++ ProducerFactory.Run.create 0 none 0 ++ ProducerFactory.Run.find 1 ++
        [.reread 1 "orders"] ++ ProducerFactory.Run.restart 2 0)
      rfl (by decide)
  have consumed : ∃ s, (ConsumerCalls.machine.restrict ConsumerCalls.State.KeepsSeen).Reachable s ∧
      s.consumers.lookup (ConsumerFactory.cacheName "billing" "DEFAULT_CONSUMER") = none :=
    Guarded.exists_reachable
      (ConsumerCalls.Run.create 0 0 ++ ConsumerCalls.Run.find 1 ++ [.reread 1 "billing" "DEFAULT_CONSUMER"] ++
        ConsumerCalls.Run.shutdown 2 0)
      rfl (by decide)
  obtain ⟨producers, producing, noProducer⟩ := produced
  obtain ⟨consumers, consuming, noConsumer⟩ := consumed
  obtain ⟨⟨first, _⟩, second, _⟩ := gets_neverNull producing consuming
  exact ⟨producers, consumers, noProducer, noConsumer, first, second⟩

set_option maxRecDepth 4000 in
/-- The restart removes what the second call has found and not yet read. -/
theorem gets_null :
    (¬ ∀ s, ProducerFactory.machine.Reachable s → s.NeverNull) ∧
      ¬ ∀ s, ConsumerCalls.machine.Reachable s → s.NeverNull := by
  constructor
  · intro always
    have run : ∃ s, ProducerFactory.machine.Reachable s ∧ s.At 1 (.rereading "orders") ∧
        s.topicProducers.lookup (ProducerFactory.cacheName "orders") = none :=
      Guarded.exists_reachable
        (ProducerFactory.Run.enter 0 none ++ ProducerFactory.Run.create 0 none 0 ++
          ProducerFactory.Run.find 1 ++ ProducerFactory.Run.restart 2 0)
        rfl (by decide)
    obtain ⟨s, reached, standing, gone⟩ := run
    exact always s reached (.reread 1 "orders") standing (congrArg some gone)
  · intro always
    have run : ∃ s, ConsumerCalls.machine.Reachable s ∧ s.At 1 (.rereading "billing" "DEFAULT_CONSUMER") ∧
        s.consumers.lookup (ConsumerFactory.cacheName "billing" "DEFAULT_CONSUMER") = none :=
      Guarded.exists_reachable
        (ConsumerCalls.Run.create 0 0 ++ ConsumerCalls.Run.find 1 ++ ConsumerCalls.Run.shutdown 2 0)
        rfl (by decide)
    obtain ⟨s, reached, standing, gone⟩ := run
    exact always s reached (.reread 1 "billing" "DEFAULT_CONSUMER") standing (congrArg some gone)

end Zms.Client
