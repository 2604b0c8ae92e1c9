import Mathlib
import Zms.Client.Proxy
import Zms.Portal.Tables
import Zms.Registry.Holds

/-! `MultiEnvironmentProducerManager`: the portal's producers of every environment.

Each thread has a context environment, and a proxy's ZooKeeper client is looked
up in the context of the thread that runs it. A proxy is named by the number of
its construction.
-/

set_option autoImplicit false

namespace Zms.Portal

open Zms.Client Zms.Registry Zms.Transition

namespace Producers

/-- The requests that a proxy sends to ZooKeeper. -/
inductive Operation where
  | readMetadata
  | subscribe
  | createName
  | deleteName
  | unsubscribe
  deriving DecidableEq, Repr

/-- A request and the environment whose client got it, if one could be found. -/
structure Sent where
  proxy : Nat
  operation : Operation
  target : Option EnvId
  deriving DecidableEq

structure ProducerProxy where
  /-- The context environment of its creation (history). -/
  environment : EnvId
  metadata : TopicMetadata
  running : Bool
  /-- The effective cluster at its start (history). -/
  startedWith : Option ClusterMetadata

structure State where
  /-- What each environment's ZooKeeper holds of a topic. -/
  nodes : EnvId → String → Option TopicMetadata
  context : Nat → Option EnvId
  topicProducers : Entries String Nat
  /-- The map of `ProducerFactory`. -/
  factoryProducers : Entries String Nat
  proxies : Nat → ProducerProxy
  created : Nat
  /-- The data watchers: the environment whose client has them, and the proxy. -/
  subscriptions : List (EnvId × Nat)
  /-- The requests so far (history). -/
  sent : List Sent

/-- How the `start` of a new proxy ends. -/
inductive Starting where
  | startProducerThrows
  | registerWatcherThrows
  | registerNameThrows
  | completes
  deriving DecidableEq, Repr

inductive Stopping where
  | deleteThrows
  | unsubscribeThrows
  | shutdownProducerThrows
  | completes
  deriving DecidableEq, Repr

def cacheName (envId : EnvId) (topic : String) : String :=
  toString envId ++ "_" ++ topic ++ "_" ++ "DEFAULT_PRODUCER"

def isRocketmq (metadata : TopicMetadata) : Bool :=
  metadata.clusterMetadata.bind ClusterMetadata.brokerType = some .ROCKETMQ

def proxyClass (host : String) (metadata : TopicMetadata) : ProxyClass TopicMetadata :=
  if isRocketmq metadata then RocketmqProducerProxy host else KafkaProducerProxy host none

namespace State

def setEnv (s : State) (t : Nat) (env : Option EnvId) : State :=
  { s with context := Function.update s.context t env }

def write (s : State) (env : EnvId) (topic : String) (metadata : TopicMetadata) : State :=
  { s with nodes := Function.update s.nodes env (Function.update (s.nodes env) topic (some metadata)) }

def setProxy (s : State) (i : Nat) (proxy : ProducerProxy) : State :=
  { s with proxies := Function.update s.proxies i proxy }

def send (s : State) (i : Nat) (operation : Operation) (target : Option EnvId) : State :=
  { s with sent := ⟨i, operation, target⟩ :: s.sent }

def readTopicMetadata (s : State) (env : EnvId) (topic : String) : Option TopicMetadata :=
  (s.nodes env topic).map fun metadata => { metadata with name := topic, type := "topic" }

def name (s : State) (i : Nat) : String := (s.proxies i).metadata.name

/-- Who is notified of a change of a topic's node. -/
def subscribers (s : State) (env : EnvId) (topic : String) : List Nat :=
  (s.subscriptions.filter fun entry => entry.1 = env && s.name entry.2 = topic).map Prod.snd

end State

section Model
variable (host : String) (isStatistic : String → Bool) (configured : EnvId → Bool)

def getZkInstance (s : State) (t : Nat) : Option EnvId := currentZkClient configured (s.context t)

/-- `unregisterName` and `unregisterWatcher`, on the client of the context. -/
def unregister (s : State) (i : Nat) (env : EnvId) (stopping : Stopping) : State :=
  let deleted := if isStatistic (s.name i) then s else s.send i .deleteName (some env)
  if stopping = .deleteThrows ∧ isStatistic (s.name i) = false then deleted
  else if stopping = .unsubscribeThrows then deleted.send i .unsubscribe (some env)
  else
    -- of the cluster's path and of the topic's
    { (deleted.send i .unsubscribe (some env)).send i .unsubscribe (some env) with
      subscriptions := s.subscriptions.filter (· ≠ (env, i)) }

def recycle (s : State) (i : Nat) : State :=
  { s with factoryProducers := s.factoryProducers.erase (s.name i ++ "_" ++ "DEFAULT_PRODUCER") }

def shutdown (s : State) (t i : Nat) (stopping : Stopping) : State :=
  if (s.proxies i).running then
    let stopped := s.setProxy i { s.proxies i with running := false }
    match getZkInstance configured s t with
    | none => stopped.send i (if isStatistic (s.name i) then .unsubscribe else .deleteName) none
    | some env =>
        let unregistered := unregister isStatistic stopped i env stopping
        if stopping = .completes then recycle unregistered i else unregistered
  else s

/-- What the handler makes of the metadata that the client of `env` reads. -/
def reaction (s : State) (i : Nat) (env : EnvId) : Reaction TopicMetadata :=
  let metadata := (s.proxies i).metadata
  (proxyClass host metadata).reaction metadata (s.readTopicMetadata env metadata.name)

/-- A restart is a shutdown and up to a second's sleep. -/
def handleDataChange (s : State) (t i : Nat) (stopping : Stopping) : State :=
  let target := getZkInstance configured s t
  let read := s.send i .readMetadata target
  match target with
  | none => read
  | some env =>
      match reaction host s i env with
      | .ignores => read
      | .adopts newMetadata => read.setProxy i { s.proxies i with metadata := newMetadata }
      | .restarts newMetadata =>
          shutdown isStatistic configured (read.setProxy i { s.proxies i with metadata := newMetadata }) t i
            stopping

/-- The client's event thread calls one subscriber after the other. -/
def deliver (s : State) (t : Nat) (stopping : Nat → Stopping) : List Nat → State
  | [] => s
  | i :: rest => deliver (handleDataChange host isStatistic configured s t i (stopping i)) t stopping rest

def change (s : State) (t : Nat) (env : EnvId) (topic : String) (metadata : TopicMetadata)
    (stopping : Nat → Stopping) : State :=
  deliver host isStatistic configured (s.write env topic metadata) t stopping (s.subscribers env topic)

/-- The constructor, which starts the proxy: the state, and whether it returns. -/
def construct (s : State) (env : EnvId) (metadata : TopicMetadata) (starting : Starting) : State × Bool :=
  let i := s.created
  let proxy : ProducerProxy := ⟨env, metadata, false, none⟩
  let constructed := { s.setProxy i proxy with created := s.created + 1 }
  if ((proxyClass host metadata).bootAddress metadata).isNone ∨ starting = .startProducerThrows then
    (constructed, false)
  else
    let watching :=
      { constructed.send i .subscribe (some env) with subscriptions := (env, i) :: s.subscriptions }
    if starting = .registerWatcherThrows then (watching, false)
    else
      let named := if isStatistic metadata.name then watching else watching.send i .createName (some env)
      if starting = .registerNameThrows ∧ isStatistic metadata.name = false then (named, false)
      else (named.setProxy i ⟨env, metadata, true, metadata.effectiveCluster host⟩, true)

/-- The state and the producer returned, `none` when the call throws. -/
def getCurrentProducer (s : State) (t : Nat) (envId : EnvId) (topic : String) (starting : Starting) :
    State × Option Nat :=
  let s := s.setEnv t (some envId)
  match s.topicProducers.lookup (cacheName envId topic) with
  | some found => (s, some found)
  | none =>
      match (getZkInstance configured s t).bind fun env => s.readTopicMetadata env topic with
      | none => (s, none)
      | some metadata =>
          -- a null cluster: a null pointer
          if metadata.clusterMetadata.isNone then (s, none)
          else
            let constructed := construct host isStatistic s envId metadata starting
            if constructed.2 then
              ({ constructed.1 with
                  topicProducers := s.topicProducers.putIfAbsent (cacheName envId topic) s.created },
                some s.created)
            else (constructed.1, none)

inductive Action where
  | setEnv (t : Nat) (env : Option EnvId)
  | getCurrentProducer (t : Nat) (envId : EnvId) (topic : String) (starting : Starting)
  | change (t : Nat) (env : EnvId) (topic : String) (metadata : TopicMetadata) (stopping : Nat → Stopping)
  | shutdown (t : Nat) (proxy : Nat) (stopping : Stopping)

def effect (s : State) : Action → State
  | .setEnv t env => s.setEnv t env
  | .getCurrentProducer t envId topic starting =>
      (getCurrentProducer host isStatistic configured s t envId topic starting).1
  | .change t env topic metadata stopping =>
      change host isStatistic configured s t env topic metadata stopping
  | .shutdown t i stopping => shutdown isStatistic configured s t i stopping

/-- The topics are there before the portal starts; nothing is cached. -/
def machine : Guarded State Action where
  init s := s.topicProducers = ∅ ∧ (∀ i, (s.proxies i).running = false) ∧ s.subscriptions = [] ∧ s.sent = []
  guard _ _ := True
  effect := effect host isStatistic configured

instance (s : State) (a : Action) : Decidable ((machine host isStatistic configured).guard s a) :=
  .isTrue trivial

end Model

end Producers

end Zms.Portal
