import Mathlib
import Zms.Registry.Holds
import Zms.Transition.Guarded

/-! `ProducerFactory` as a transition system: any number of calls at a time, each
by a thread of its own, and the restarts of data changes among them.

A step is one access to the map, a `running` flag or a monitor. A producer is
named by the number of its construction, a call by the number of its beginning.
-/

set_option autoImplicit false

namespace Zms.Client

open Zms.Transition Zms.Registry

structure ZmsProducerProxy where
  name : String
  running : Bool

namespace ProducerFactory

/-- What the `synchronized` blocks lock: the class or the map. -/
inductive Monitor where
  | factoryClass
  | topicProducers
  deriving DecidableEq, Repr

/-- Who runs a proxy's `shutdown`; the loop of `shutdown()` with the producers it still has to visit. -/
inductive Caller where
  | shutdownTopic
  | shutdown (pending : List Nat)
  | restart
  deriving DecidableEq, Repr

def Caller.monitor : Caller → Option Monitor
  | .shutdownTopic | .shutdown _ => some .factoryClass
  | .restart => none

inductive Pc where
  -- doGetProducer, before each access
  | reading (monitor : Monitor) (topic : String)
  | entering (monitor : Monitor) (topic : String)
  | checking (monitor : Monitor) (topic : String)
  | creating (monitor : Monitor) (topic : String)
  | publishing (monitor : Monitor) (topic : String) (producer : Nat)
  | rereading (topic : String)
  -- shutdown(topic)
  | enteringTopic (topic : String)
  | containing (topic : String)
  | fetching (topic : String)
  -- shutdown()
  | enteringAll
  | iterating
  | visiting (pending : List Nat)
  -- the shutdown of a proxy
  | testing (caller : Caller) (producer : Nat)
  | disabling (caller : Caller) (producer : Nat)
  | recycling (caller : Caller) (producer : Nat)
  | ended (returned : Option Nat)
  deriving DecidableEq, Repr

structure State where
  topicProducers : Entries String Nat
  proxies : Nat → ZmsProducerProxy
  created : Nat
  owner : Monitor → Option Nat
  calls : List Pc

/-- Every producer of the factory has the instance name `DEFAULT_PRODUCER`. -/
def cacheName (topic : String) : String := topic ++ "_" ++ "DEFAULT_PRODUCER"

namespace State

def key (s : State) (i : Nat) : String := cacheName (s.proxies i).name

def At (s : State) (t : Nat) (pc : Pc) : Prop := s.calls[t]? = some pc

instance (s : State) (t : Nat) (pc : Pc) : Decidable (s.At t pc) :=
  inferInstanceAs (Decidable (s.calls[t]? = some pc))

def begin (s : State) (pc : Pc) : State := { s with calls := s.calls ++ [pc] }

def setPc (s : State) (t : Nat) (pc : Pc) : State := { s with calls := s.calls.set t pc }

def lock (s : State) (monitor : Monitor) (t : Nat) : State :=
  { s with owner := Function.update s.owner monitor (some t) }

def unlock (s : State) (monitor : Monitor) : State :=
  { s with owner := Function.update s.owner monitor none }

def setRunning (s : State) (i : Nat) (running : Bool) : State :=
  { s with proxies := Function.update s.proxies i { s.proxies i with running := running } }

def construct (s : State) (topic : String) : State :=
  { s with proxies := Function.update s.proxies s.created ⟨topic, true⟩, created := s.created + 1 }

def withProducers (s : State) (topicProducers : Entries String Nat) : State :=
  { s with topicProducers := topicProducers }

/-- A proxy's `shutdown` returns to its caller. -/
def back (s : State) (t : Nat) : Caller → State
  | .shutdownTopic => (s.unlock .factoryClass).setPc t (.ended none)
  | .shutdown pending => s.setPc t (.visiting pending)
  | .restart => s.setPc t (.ended none)

/-- It throws to its caller. -/
def abort (s : State) (t : Nat) : Caller → State
  | .shutdownTopic | .shutdown _ => (s.unlock .factoryClass).setPc t (.ended none)
  | .restart => s.setPc t (.ended none)

end State

abbrev Properties := List (String × String)

/-- Null or empty properties go to the overload that locks the map. -/
def monitorOf (properties : Option Properties) : Monitor :=
  if properties.getD [] = [] then .topicProducers else .factoryClass

inductive Action where
  | getProducer (topic : String) (properties : Option Properties)
  | shutdownTopic (topic : String)
  | shutdown
  | restart (producer : Nat)
  | read (t : Nat) (monitor : Monitor) (topic : String)
  | enter (t : Nat) (monitor : Monitor) (topic : String)
  | check (t : Nat) (monitor : Monitor) (topic : String)
  | create (t : Nat) (monitor : Monitor) (topic : String)
  | createThrows (t : Nat) (monitor : Monitor) (topic : String)
  | publish (t : Nat) (monitor : Monitor) (topic : String) (producer : Nat)
  | reread (t : Nat) (topic : String)
  | enterTopic (t : Nat) (topic : String)
  | containsKey (t : Nat) (topic : String)
  | fetch (t : Nat) (topic : String)
  | enterAll (t : Nat)
  | iterate (t : Nat)
  | visit (t : Nat) (pending : List Nat) (producer : Nat)
  | clear (t : Nat) (pending : List Nat)
  | test (t : Nat) (caller : Caller) (producer : Nat)
  | disable (t : Nat) (caller : Caller) (producer : Nat)
  | recycle (t : Nat) (caller : Caller) (producer : Nat)
  | shutdownThrows (t : Nat) (caller : Caller) (producer : Nat)

def Enabled (s : State) : Action → Prop
  | .getProducer _ _ | .shutdownTopic _ | .shutdown => True
  | .restart i => i < s.created
  | .read t monitor topic => s.At t (.reading monitor topic)
  | .enter t monitor topic => s.At t (.entering monitor topic) ∧ s.owner monitor = none
  | .check t monitor topic => s.At t (.checking monitor topic)
  | .create t monitor topic | .createThrows t monitor topic => s.At t (.creating monitor topic)
  | .publish t monitor topic i => s.At t (.publishing monitor topic i)
  | .reread t topic => s.At t (.rereading topic)
  | .enterTopic t topic => s.At t (.enteringTopic topic) ∧ s.owner .factoryClass = none
  | .containsKey t topic => s.At t (.containing topic)
  | .fetch t topic => s.At t (.fetching topic)
  | .enterAll t => s.At t .enteringAll ∧ s.owner .factoryClass = none
  | .iterate t => s.At t .iterating
  -- the iterator may return entries that have come or gone since it was made,
  -- and misses none that stays
  | .visit t pending i => s.At t (.visiting pending) ∧ (i ∈ pending ∨ i ∈ s.topicProducers.values)
  | .clear t pending => s.At t (.visiting pending) ∧ ∀ i ∈ pending, i ∉ s.topicProducers.values
  | .test t caller i => s.At t (.testing caller i)
  | .disable t caller i => s.At t (.disabling caller i)
  | .recycle t caller i | .shutdownThrows t caller i => s.At t (.recycling caller i)

instance (s : State) (a : Action) : Decidable (Enabled s a) := by
  apply Action.casesOn (motive := fun a => Decidable (Enabled s a)) a <;> intros <;>
    dsimp only [Enabled] <;> infer_instance

def effect (s : State) : Action → State
  | .getProducer topic properties => s.begin (.reading (monitorOf properties) topic)
  | .shutdownTopic topic => s.begin (.enteringTopic topic)
  | .shutdown => s.begin .enteringAll
  | .restart i => s.begin (.testing .restart i)
  | .read t monitor topic =>
      s.setPc t
        (if (s.topicProducers.lookup (cacheName topic)).isSome then .rereading topic else .entering monitor topic)
  | .enter t monitor topic => (s.lock monitor t).setPc t (.checking monitor topic)
  | .check t monitor topic =>
      if (s.topicProducers.lookup (cacheName topic)).isSome then
        (s.unlock monitor).setPc t (.rereading topic)
      else s.setPc t (.creating monitor topic)
  -- the constructor starts the producer, which is running from then on
  | .create t monitor topic => (s.construct topic).setPc t (.publishing monitor topic s.created)
  | .createThrows t monitor _ => (s.unlock monitor).setPc t (.ended none)
  | .publish t monitor topic i =>
      ((s.withProducers (s.topicProducers.putIfAbsent (cacheName topic) i)).unlock monitor).setPc t
        (.ended (some i))
  | .reread t topic => s.setPc t (.ended (s.topicProducers.lookup (cacheName topic)))
  | .enterTopic t topic => (s.lock .factoryClass t).setPc t (.containing topic)
  | .containsKey t topic =>
      if (s.topicProducers.lookup (cacheName topic)).isSome then s.setPc t (.fetching topic)
      else (s.unlock .factoryClass).setPc t (.ended none)
  | .fetch t topic =>
      match s.topicProducers.lookup (cacheName topic) with
      | some i => s.setPc t (.testing .shutdownTopic i)
      -- a null pointer
      | none => (s.unlock .factoryClass).setPc t (.ended none)
  | .enterAll t => (s.lock .factoryClass t).setPc t .iterating
  | .iterate t => s.setPc t (.visiting s.topicProducers.values)
  | .visit t pending i => s.setPc t (.testing (.shutdown (pending.erase i)) i)
  | .clear t _ => ((s.withProducers ∅).unlock .factoryClass).setPc t (.ended none)
  | .test t caller i => if (s.proxies i).running then s.setPc t (.disabling caller i) else s.back t caller
  | .disable t caller i => (s.setRunning i false).setPc t (.recycling caller i)
  | .recycle t caller i => (s.withProducers (s.topicProducers.erase (s.key i))).back t caller
  | .shutdownThrows t caller _ => s.abort t caller

def initial : State := ⟨∅, fun _ => ⟨"", false⟩, 0, fun _ => none, []⟩

def machine : Guarded State Action where
  init s := s = initial
  guard := Enabled
  effect := effect

instance (s : State) (a : Action) : Decidable (machine.guard s a) :=
  inferInstanceAs (Decidable (Enabled s a))

end ProducerFactory

end Zms.Client
