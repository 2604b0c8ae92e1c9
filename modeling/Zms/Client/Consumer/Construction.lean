import Mathlib
import Zms.Metadata
import Zms.Registry.Holds
import Zms.Transition.Guarded

/-! `ConsumerFactory.getConsumer` from its second look into the map on: the
constructor of the proxy, its `start`, and the poll threads beside them.

The monitor of the class lets one call at a time do this. A step is one access
to a shared place; where a call throws is the environment's choice.
-/

set_option autoImplicit false

namespace Zms.Client.Construction

open Zms.Transition Zms.Registry

/-- A Kafka client is connected once constructed; RocketMQ's is only `created`
until its own `start`. -/
inductive BrokerClient where
  | absent | created | connected | closed
  deriving DecidableEq, Repr

structure ConsumerProxy where
  cacheName : String
  brokerType : BrokerType
  /-- `isStatistic` of the group's name. -/
  statistic : Bool
  running : Bool
  client : BrokerClient
  -- the two that register shares with the poll thread
  countDownLatch : Bool
  err : Bool

/-- Where the poll thread of a Kafka proxy stands. -/
inductive PollThread where
  | absent
  | looping
  | polling
  | opening
  -- the finally block
  | releasing
  | resetting
  | closing
  | ended
  deriving DecidableEq, Repr

/-- Where the call inside the monitor stands, before each step. -/
inductive Pc where
  | checking (cacheName : String)
  | preparing (proxy : Nat)
  | subscribing (proxy : Nat)
  | registeringWatcher (proxy : Nat)
  | registeringName (proxy : Nat)
  | settingRunning (proxy : Nat)
  | registering (proxy : Nat)
  | awaiting (proxy : Nat)
  | testing (proxy : Nat)
  | publishing (proxy : Nat)
  deriving DecidableEq, Repr

/-- What a call can leave behind outside its proxy; watchers and ephemeral
nodes by the proxy that made them. -/
structure Registrations where
  consumers : Entries String Nat
  watchers : List Nat
  names : List Nat
  deriving DecidableEq

/-- A call of `getConsumer` that threw (history). -/
structure Failure where
  proxy : Nat
  before : Registrations
  after : Registrations

structure State where
  registrations : Registrations
  proxies : Nat → ConsumerProxy
  pollThreads : Nat → PollThread
  created : Nat
  call : Option Pc
  /-- The registrations when the call began (history). -/
  before : Registrations
  failures : List Failure

namespace State

def At (s : State) (pc : Pc) : Prop := s.call = some pc

instance (s : State) (pc : Pc) : Decidable (s.At pc) := inferInstanceAs (Decidable (s.call = some pc))

def goto (s : State) (pc : Pc) : State := { s with call := some pc }

def finish (s : State) : State := { s with call := none }

def throws (s : State) (i : Nat) : State :=
  { s with call := none, failures := ⟨i, s.before, s.registrations⟩ :: s.failures }

def setProxy (s : State) (i : Nat) (proxy : ConsumerProxy) : State :=
  { s with proxies := Function.update s.proxies i proxy }

def setClient (s : State) (i : Nat) (client : BrokerClient) : State :=
  s.setProxy i { s.proxies i with client := client }

def setRunning (s : State) (i : Nat) (running : Bool) : State :=
  s.setProxy i { s.proxies i with running := running }

def setPollThread (s : State) (i : Nat) (pollThread : PollThread) : State :=
  { s with pollThreads := Function.update s.pollThreads i pollThread }

def withRegistrations (s : State) (registrations : Registrations) : State :=
  { s with registrations := registrations }

end State

namespace Registrations

def watch (r : Registrations) (i : Nat) : Registrations := { r with watchers := i :: r.watchers }

def name (r : Registrations) (i : Nat) : Registrations := { r with names := i :: r.names }

def publish (r : Registrations) (cacheName : String) (i : Nat) : Registrations :=
  { r with consumers := r.consumers.putIfAbsent cacheName i }

end Registrations

inductive Action where
  | getConsumer (cacheName : String)
  | returnsCached (cacheName : String)
  | metadataThrows (cacheName : String)
  | construct (cacheName : String) (brokerType : BrokerType) (statistic : Bool)
  -- consumerStart, up to the broker's client and then to its end
  | prepare (proxy : Nat)
  | prepareThrows (proxy : Nat)
  | subscribe (proxy : Nat)
  | subscribeThrows (proxy : Nat)
  -- ZmsProxy.start; a request that throws may have taken effect
  | registerWatcher (proxy : Nat)
  | registerWatcherThrows (proxy : Nat) (subscribed : Bool)
  | registerName (proxy : Nat)
  | registerNameThrows (proxy : Nat) (existing : Bool)
  | setRunning (proxy : Nat)
  -- register: starts the poll thread or RocketMQ's client
  | register (proxy : Nat)
  | registerThrows (proxy : Nat) (connected : Bool)
  | await (proxy : Nat)
  | awaitInterrupted (proxy : Nat)
  | test (proxy : Nat)
  | publish (proxy : Nat)
  -- the poll thread
  | whileRunning (proxy : Nat)
  | poll (proxy : Nat)
  | pollThrows (proxy : Nat)
  | countDown (proxy : Nat)
  | release (proxy : Nat)
  | resetRunning (proxy : Nat)
  | consumerShutdown (proxy : Nat)

def Enabled (s : State) : Action → Prop
  | .getConsumer _ => s.call = none
  | .returnsCached cacheName =>
      s.At (.checking cacheName) ∧ (s.registrations.consumers.lookup cacheName).isSome
  | .metadataThrows cacheName | .construct cacheName _ _ =>
      s.At (.checking cacheName) ∧ s.registrations.consumers.lookup cacheName = none
  | .prepare i | .prepareThrows i => s.At (.preparing i)
  | .subscribe i | .subscribeThrows i => s.At (.subscribing i)
  | .registerWatcher i | .registerWatcherThrows i _ => s.At (.registeringWatcher i)
  | .registerName i => s.At (.registeringName i)
  | .registerNameThrows i _ => s.At (.registeringName i) ∧ (s.proxies i).statistic = false
  | .setRunning i => s.At (.settingRunning i)
  | .register i | .registerThrows i _ => s.At (.registering i)
  | .await i => s.At (.awaiting i) ∧ (s.proxies i).countDownLatch
  | .awaitInterrupted i => s.At (.awaiting i)
  | .test i => s.At (.testing i)
  | .publish i => s.At (.publishing i)
  | .whileRunning i => s.pollThreads i = .looping
  | .poll i | .pollThrows i => s.pollThreads i = .polling
  | .countDown i => s.pollThreads i = .opening
  | .release i => s.pollThreads i = .releasing
  | .resetRunning i => s.pollThreads i = .resetting
  | .consumerShutdown i => s.pollThreads i = .closing

instance (s : State) (a : Action) : Decidable (Enabled s a) := by
  apply Action.casesOn (motive := fun a => Decidable (Enabled s a)) a <;> intros <;>
    dsimp only [Enabled] <;> infer_instance

def effect (s : State) : Action → State
  | .getConsumer cacheName => { s.goto (.checking cacheName) with before := s.registrations }
  | .returnsCached _ | .metadataThrows _ => s.finish
  | .construct cacheName brokerType statistic =>
      { (s.setProxy s.created ⟨cacheName, brokerType, statistic, false, .absent, false, false⟩).goto
          (.preparing s.created) with created := s.created + 1 }
  | .prepare i =>
      (s.setClient i (if (s.proxies i).brokerType = .KAFKA then .connected else .created)).goto (.subscribing i)
  | .prepareThrows i | .subscribeThrows i => s.throws i
  | .subscribe i => s.goto (.registeringWatcher i)
  | .registerWatcher i => (s.withRegistrations (s.registrations.watch i)).goto (.registeringName i)
  | .registerWatcherThrows i subscribed =>
      (s.withRegistrations (if subscribed then s.registrations.watch i else s.registrations)).throws i
  | .registerName i =>
      (s.withRegistrations (if (s.proxies i).statistic then s.registrations else s.registrations.name i)).goto
        (.settingRunning i)
  | .registerNameThrows i existing =>
      (s.withRegistrations (if existing then s.registrations.name i else s.registrations)).throws i
  | .setRunning i => (s.setRunning i true).goto (.registering i)
  | .register i =>
      if (s.proxies i).brokerType = .KAFKA then (s.setPollThread i .looping).goto (.awaiting i)
      else (s.setClient i .connected).goto (.publishing i)
  | .registerThrows i connected => (if connected then s.setClient i .connected else s).throws i
  | .await i => s.goto (.testing i)
  | .awaitInterrupted i => s.throws i
  | .test i => if (s.proxies i).err then s.throws i else s.goto (.publishing i)
  | .publish i => (s.withRegistrations (s.registrations.publish (s.proxies i).cacheName i)).finish
  | .whileRunning i => s.setPollThread i (if (s.proxies i).running then .polling else .releasing)
  -- poll, the listener calls and commitOffsets
  | .poll i => s.setPollThread i .opening
  | .pollThrows i => (s.setProxy i { s.proxies i with err := true }).setPollThread i .releasing
  | .countDown i => (s.setProxy i { s.proxies i with countDownLatch := true }).setPollThread i .looping
  | .release i => (s.setProxy i { s.proxies i with countDownLatch := true }).setPollThread i .resetting
  | .resetRunning i => (s.setRunning i false).setPollThread i .closing
  | .consumerShutdown i => (s.setClient i .closed).setPollThread i .ended

def initial : State where
  registrations := ⟨∅, [], []⟩
  proxies _ := ⟨"", .KAFKA, false, false, .absent, false, false⟩
  pollThreads _ := .absent
  created := 0
  call := none
  before := ⟨∅, [], []⟩
  failures := []

def machine : Guarded State Action where
  init s := s = initial
  guard := Enabled
  effect := effect

instance (s : State) (a : Action) : Decidable (machine.guard s a) :=
  inferInstanceAs (Decidable (Enabled s a))

end Zms.Client.Construction
