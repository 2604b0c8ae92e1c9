import Zms.Client.Consumer.Factory

/-! `ConsumerFactory` with any number of calls at a time, each by a thread of
its own, and the restarts of data changes among them.

A step is one access to the map, a `running` flag or the monitor of the class;
a constructor is one step, since nothing of it is in the map.
-/

set_option autoImplicit false

namespace Zms.Client.ConsumerCalls

open Zms.Transition Zms.Registry ConsumerFactory

structure Consumer where
  consumerGroup : String
  instanceName : String
  running : Bool

/-- Who runs a proxy's `shutdown`; the loop of `shutdown()` with the consumers it still has to visit. -/
inductive Caller where
  | shutdownGroup
  | shutdown (pending : List Nat)
  | restart
  deriving DecidableEq, Repr

inductive Pc where
  -- doGetConsumer, before each access
  | reading (consumerGroup name : String)
  | entering (consumerGroup name : String)
  | checking (consumerGroup name : String)
  | creating (consumerGroup name : String)
  | publishing (consumerGroup name : String) (consumer : Nat)
  | rereading (consumerGroup name : String)
  -- shutdown(consumerGroup)
  | enteringGroup (consumerGroup : String)
  | containing (consumerGroup : String)
  | fetching (consumerGroup : String)
  -- shutdown()
  | enteringAll
  | iterating
  | visiting (pending : List Nat)
  -- the shutdown of a proxy, and the start of a restart
  | testing (caller : Caller) (consumer : Nat)
  | disabling (caller : Caller) (consumer : Nat)
  | recycling (caller : Caller) (consumer : Nat)
  | starting (consumer : Nat)
  | returned (consumer : Option Nat)
  | threw
  | done
  deriving DecidableEq, Repr

structure State where
  consumers : Entries String Nat
  proxies : Nat → Consumer
  created : Nat
  owner : Option Nat
  calls : List Pc

namespace State

def key (s : State) (i : Nat) : String := cacheName (s.proxies i).consumerGroup (s.proxies i).instanceName

def At (s : State) (t : Nat) (pc : Pc) : Prop := s.calls[t]? = some pc

instance (s : State) (t : Nat) (pc : Pc) : Decidable (s.At t pc) :=
  inferInstanceAs (Decidable (s.calls[t]? = some pc))

def begin (s : State) (pc : Pc) : State := { s with calls := s.calls ++ [pc] }

def setPc (s : State) (t : Nat) (pc : Pc) : State := { s with calls := s.calls.set t pc }

def lock (s : State) (t : Nat) : State := { s with owner := some t }

def unlock (s : State) : State := { s with owner := none }

def setRunning (s : State) (i : Nat) (running : Bool) : State :=
  { s with proxies := Function.update s.proxies i { s.proxies i with running := running } }

def construct (s : State) (consumerGroup name : String) (running : Bool) : State :=
  { s with
    proxies := Function.update s.proxies s.created ⟨consumerGroup, name, running⟩
    created := s.created + 1 }

def withConsumers (s : State) (consumers : Entries String Nat) : State := { s with consumers := consumers }

/-- A proxy's `shutdown` returns to its caller. -/
def back (s : State) (t i : Nat) : Caller → State
  | .shutdownGroup => s.unlock.setPc t .done
  | .shutdown pending => s.setPc t (.visiting pending)
  -- after up to a second's sleep
  | .restart => s.setPc t (.starting i)

/-- It throws to its caller. -/
def abort (s : State) (t : Nat) : Caller → State
  | .shutdownGroup | .shutdown _ => s.unlock.setPc t .threw
  | .restart => s.setPc t .threw

end State

inductive Action where
  | getConsumer (consumerGroup name : String)
  | shutdownGroup (consumerGroup : String)
  | shutdown
  | restart (consumer : Nat)
  | pollThreadEnds (consumer : Nat)
  | read (t : Nat) (consumerGroup name : String)
  | enter (t : Nat) (consumerGroup name : String)
  | check (t : Nat) (consumerGroup name : String)
  | create (t : Nat) (consumerGroup name : String)
  | createThrows (t : Nat) (consumerGroup name : String) (running : Bool)
  | publish (t : Nat) (consumerGroup name : String) (consumer : Nat)
  | reread (t : Nat) (consumerGroup name : String)
  | enterGroup (t : Nat) (consumerGroup : String)
  | containsKey (t : Nat) (consumerGroup : String)
  | fetch (t : Nat) (consumerGroup : String)
  | enterAll (t : Nat)
  | iterate (t : Nat)
  | visit (t : Nat) (pending : List Nat) (consumer : Nat)
  | clear (t : Nat) (pending : List Nat)
  | test (t : Nat) (caller : Caller) (consumer : Nat)
  | disable (t : Nat) (caller : Caller) (consumer : Nat)
  | recycle (t : Nat) (caller : Caller) (consumer : Nat)
  | shutdownThrows (t : Nat) (caller : Caller) (consumer : Nat)
  | start (t : Nat) (consumer : Nat)
  | startThrows (t : Nat) (consumer : Nat) (running : Bool)

def Enabled (s : State) : Action → Prop
  | .getConsumer _ _ | .shutdownGroup _ | .shutdown => True
  | .restart i | .pollThreadEnds i => i < s.created
  | .read t consumerGroup name => s.At t (.reading consumerGroup name)
  | .enter t consumerGroup name => s.At t (.entering consumerGroup name) ∧ s.owner = none
  | .check t consumerGroup name => s.At t (.checking consumerGroup name)
  | .create t consumerGroup name | .createThrows t consumerGroup name _ => s.At t (.creating consumerGroup name)
  | .publish t consumerGroup name i => s.At t (.publishing consumerGroup name i)
  | .reread t consumerGroup name => s.At t (.rereading consumerGroup name)
  | .enterGroup t consumerGroup => s.At t (.enteringGroup consumerGroup) ∧ s.owner = none
  | .containsKey t consumerGroup => s.At t (.containing consumerGroup)
  | .fetch t consumerGroup => s.At t (.fetching consumerGroup)
  | .enterAll t => s.At t .enteringAll ∧ s.owner = none
  | .iterate t => s.At t .iterating
  -- the iterator may return entries that have come or gone since it was made,
  -- and misses none that stays
  | .visit t pending i => s.At t (.visiting pending) ∧ (i ∈ pending ∨ i ∈ s.consumers.values)
  | .clear t pending => s.At t (.visiting pending) ∧ ∀ i ∈ pending, i ∉ s.consumers.values
  | .test t caller i => s.At t (.testing caller i)
  | .disable t caller i => s.At t (.disabling caller i)
  | .recycle t caller i | .shutdownThrows t caller i => s.At t (.recycling caller i)
  | .start t i | .startThrows t i _ => s.At t (.starting i)

instance (s : State) (a : Action) : Decidable (Enabled s a) := by
  apply Action.casesOn (motive := fun a => Decidable (Enabled s a)) a <;> intros <;>
    dsimp only [Enabled] <;> infer_instance

def defaultKey (consumerGroup : String) : String := cacheName consumerGroup "DEFAULT_CONSUMER"

def effect (s : State) : Action → State
  | .getConsumer consumerGroup name => s.begin (.reading consumerGroup name)
  | .shutdownGroup consumerGroup => s.begin (.enteringGroup consumerGroup)
  | .shutdown => s.begin .enteringAll
  | .restart i => s.begin (.testing .restart i)
  | .pollThreadEnds i => s.setRunning i false
  | .read t consumerGroup name =>
      s.setPc t
        (if (s.consumers.lookup (cacheName consumerGroup name)).isSome then .rereading consumerGroup name
        else .entering consumerGroup name)
  | .enter t consumerGroup name => (s.lock t).setPc t (.checking consumerGroup name)
  | .check t consumerGroup name =>
      if (s.consumers.lookup (cacheName consumerGroup name)).isSome then
        s.unlock.setPc t (.rereading consumerGroup name)
      else s.setPc t (.creating consumerGroup name)
  | .create t consumerGroup name =>
      (s.construct consumerGroup name true).setPc t (.publishing consumerGroup name s.created)
  -- the proxy may stay running and subscribed
  | .createThrows t consumerGroup name running =>
      ((s.construct consumerGroup name running).unlock).setPc t .threw
  | .publish t consumerGroup name i =>
      ((s.withConsumers (s.consumers.putIfAbsent (cacheName consumerGroup name) i)).unlock).setPc t
        (.returned (some i))
  | .reread t consumerGroup name => s.setPc t (.returned (s.consumers.lookup (cacheName consumerGroup name)))
  | .enterGroup t consumerGroup => (s.lock t).setPc t (.containing consumerGroup)
  | .containsKey t consumerGroup =>
      if (s.consumers.lookup (defaultKey consumerGroup)).isSome then s.setPc t (.fetching consumerGroup)
      else s.unlock.setPc t .done
  | .fetch t consumerGroup =>
      match s.consumers.lookup (defaultKey consumerGroup) with
      | some i => s.setPc t (.testing .shutdownGroup i)
      -- a null pointer
      | none => s.unlock.setPc t .threw
  | .enterAll t => (s.lock t).setPc t .iterating
  | .iterate t => s.setPc t (.visiting s.consumers.values)
  | .visit t pending i => s.setPc t (.testing (.shutdown (pending.erase i)) i)
  | .clear t _ => ((s.withConsumers ∅).unlock).setPc t .done
  | .test t caller i => if (s.proxies i).running then s.setPc t (.disabling caller i) else s.back t i caller
  | .disable t caller i => (s.setRunning i false).setPc t (.recycling caller i)
  | .recycle t caller i => (s.withConsumers (s.consumers.erase (s.key i))).back t i caller
  | .shutdownThrows t caller _ => s.abort t caller
  | .start t i => (s.setRunning i true).setPc t .done
  | .startThrows t i running => (s.setRunning i running).setPc t .threw

def initial : State := ⟨∅, fun _ => ⟨"", "", false⟩, 0, none, []⟩

def machine : Guarded State Action where
  init s := s = initial
  guard := Enabled
  effect := effect

instance (s : State) (a : Action) : Decidable (machine.guard s a) :=
  inferInstanceAs (Decidable (Enabled s a))

end Zms.Client.ConsumerCalls
