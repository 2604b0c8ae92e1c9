import Mathlib
import Zms.Client.Proxy
import Zms.Registry.Holds

/-! `ConsumerFactory` with the life of the proxies it hands out: one call or
notification after the other.

A proxy is named by the number of its construction. What ZooKeeper holds and
where a call throws is the environment's choice.
-/

set_option autoImplicit false

namespace Zms.Client

open Zms.Transition Zms.Registry

/-- How `start` ends. `register` throws with `running` set, unless the poll
thread has reset it by then. -/
inductive Starting where
  | consumerStartThrows
  | registerNameThrows
  | registerThrows (running : Bool)
  | completes
  deriving DecidableEq, Repr

def Starting.runs : Starting → Bool
  | .consumerStartThrows | .registerNameThrows => false
  | .registerThrows running => running
  | .completes => true

/-- How `shutdown` ends: in `unregisterName` or `unregisterWatcher`, in
`consumerShutdown`, or after `recycle`. -/
inductive Stopping where
  | unregisterThrows
  | consumerShutdownThrows
  | completes
  deriving DecidableEq, Repr

structure ZmsConsumerProxy where
  metadata : ConsumerGroupMetadata
  instanceName : String
  running : Bool
  /-- Notified when the node of its group changes. -/
  subscribed : Bool

def ZmsConsumerProxy.start (proxy : ZmsConsumerProxy) (starting : Starting) : ZmsConsumerProxy :=
  if proxy.running then proxy
  else
    { proxy with
      running := starting.runs
      subscribed := proxy.subscribed || starting ≠ .consumerStartThrows }

namespace ConsumerFactory

def cacheName (consumerGroup name : String) : String := consumerGroup ++ "_" ++ name

def proxyKey (proxy : ZmsConsumerProxy) : String := cacheName proxy.metadata.name proxy.instanceName

/-- What `doGetConsumer` reads of the group's node; without node or cluster it throws. -/
def readConsumerGroupMetadata (name : String) (node : Option ConsumerGroupMetadata) :
    Option ConsumerGroupMetadata :=
  node.bind fun metadata =>
    if metadata.clusterMetadata.isNone then none
    else some { metadata with name := name, type := "consumergroup" }

def isRocketmq (metadata : ConsumerGroupMetadata) : Bool :=
  metadata.clusterMetadata.bind ClusterMetadata.brokerType = some .ROCKETMQ

def proxyClass (host : String) (metadata : ConsumerGroupMetadata) : ProxyClass ConsumerGroupMetadata :=
  if isRocketmq metadata then RocketmqConsumerProxy host else KafkaConsumerProxy host

structure State where
  consumers : Entries String Nat
  proxies : Nat → ZmsConsumerProxy
  created : Nat

namespace State

def key (s : State) (i : Nat) : String := proxyKey (s.proxies i)

def setProxy (s : State) (i : Nat) (proxy : ZmsConsumerProxy) : State :=
  { s with proxies := Function.update s.proxies i proxy }

def recycle (s : State) (name instanceName : String) : State :=
  { s with consumers := s.consumers.erase (cacheName name instanceName) }

/-- `ZmsConsumerProxy.shutdown`, and whether it returns. -/
def shutdownProxy (s : State) (i : Nat) (stopping : Stopping) : State × Bool :=
  let proxy := s.proxies i
  if proxy.running = false then (s, true)
  else
    match stopping with
    | .unregisterThrows => (s.setProxy i { proxy with running := false }, false)
    | .consumerShutdownThrows => (s.setProxy i { proxy with running := false, subscribed := false }, false)
    | .completes =>
        ((s.setProxy i { proxy with running := false, subscribed := false }).recycle
          proxy.metadata.name proxy.instanceName, true)

def restart (s : State) (i : Nat) (stopping : Stopping) (starting : Starting) : State :=
  let stopped := s.shutdownProxy i stopping
  if stopped.2 then stopped.1.setProxy i ((stopped.1.proxies i).start starting) else stopped.1

/-- The state and the consumer returned, `none` when the call throws. -/
def doGetConsumer (s : State) (consumerGroup name : String) (node : Option ConsumerGroupMetadata)
    (starting : Starting) : State × Option Nat :=
  match s.consumers.lookup (cacheName consumerGroup name) with
  | some found => (s, some found)
  | none =>
      match readConsumerGroupMetadata consumerGroup node with
      | none => (s, none)
      | some metadata =>
          -- the constructor starts the proxy
          let proxy := (ZmsConsumerProxy.mk metadata name false false).start starting
          let constructed := { s.setProxy s.created proxy with created := s.created + 1 }
          if starting = .completes then
            ({ constructed with
                consumers := s.consumers.putIfAbsent (cacheName consumerGroup name) s.created },
              some s.created)
          else (constructed, none)

/-- The loop of `shutdown`, and whether it gets to the end. -/
def shutdownEntries (s : State) : List (Nat × Stopping) → State × Bool
  | [] => (s, true)
  | (i, stopping) :: rest =>
      if (s.shutdownProxy i stopping).2 then (s.shutdownProxy i stopping).1.shutdownEntries rest
      else ((s.shutdownProxy i stopping).1, false)

def shutdown (s : State) (entries : List (Nat × Stopping)) : State :=
  let visited := s.shutdownEntries entries
  if visited.2 then { visited.1 with consumers := ∅ } else visited.1

def shutdownGroup (s : State) (consumerGroup : String) (stopping : Stopping) : State :=
  match s.consumers.lookup (cacheName consumerGroup "DEFAULT_CONSUMER") with
  | none => s
  | some found => (s.shutdownProxy found stopping).1

def reaction (host : String) (s : State) (i : Nat) (node : Option ConsumerGroupMetadata) :
    Reaction ConsumerGroupMetadata :=
  let metadata := (s.proxies i).metadata
  (proxyClass host metadata).reaction metadata (readConsumerGroupMetadata metadata.name node)

def handleDataChange (host : String) (s : State) (i : Nat) (node : Option ConsumerGroupMetadata)
    (stopping : Stopping) (starting : Starting) : State :=
  match s.reaction host i node with
  | .ignores => s
  | .adopts newMetadata => s.setProxy i { s.proxies i with metadata := newMetadata }
  | .restarts newMetadata =>
      (s.setProxy i { s.proxies i with metadata := newMetadata }).restart i stopping starting

end State

inductive Action where
  | getConsumer (consumerGroup name : String) (node : Option ConsumerGroupMetadata) (starting : Starting)
  | shutdown (entries : List (Nat × Stopping))
  | shutdownGroup (consumerGroup : String) (stopping : Stopping)
  | dataChange (i : Nat) (node : Option ConsumerGroupMetadata) (stopping : Stopping) (starting : Starting)
  /-- A Kafka poll thread ends and resets `running`. -/
  | pollThreadEnds (i : Nat)

def Enabled (s : State) : Action → Prop
  | .getConsumer _ _ _ _ | .shutdownGroup _ _ => True
  | .shutdown entries => (entries.map Prod.fst).Perm s.consumers.values
  | .dataChange i _ _ _ => i < s.created ∧ (s.proxies i).subscribed = true
  | .pollThreadEnds i => i < s.created ∧ isRocketmq (s.proxies i).metadata = false

instance (s : State) (a : Action) : Decidable (Enabled s a) := by
  apply Action.casesOn (motive := fun a => Decidable (Enabled s a)) a <;> intros <;>
    dsimp only [Enabled] <;> infer_instance

def effect (host : String) (s : State) : Action → State
  | .getConsumer consumerGroup name node starting => (s.doGetConsumer consumerGroup name node starting).1
  | .shutdown entries => s.shutdown entries
  | .shutdownGroup consumerGroup stopping => s.shutdownGroup consumerGroup stopping
  | .dataChange i node stopping starting => s.handleDataChange host i node stopping starting
  | .pollThreadEnds i => s.setProxy i { s.proxies i with running := false }

def machine (host : String) : Guarded State Action where
  init s := ∃ unused : ConsumerGroupMetadata, s = ⟨∅, fun _ => ⟨unused, "", false, false⟩, 0⟩
  guard := Enabled
  effect := effect host

instance (host : String) (s : State) (a : Action) : Decidable ((machine host).guard s a) :=
  inferInstanceAs (Decidable (Enabled s a))

end ConsumerFactory

end Zms.Client
