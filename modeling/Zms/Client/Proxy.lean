import Zms.Metadata
import Zms.Transition.Guarded

/-! `ZmsProxy`: how a proxy follows the metadata of its topic or group.

The abstract class is generic in the metadata; its subclasses differ in the
fields of `ProxyClass`.
-/

set_option autoImplicit false

namespace Zms.Client

open Zms.Transition

/-- What the subclasses of `ZmsProxy` override. -/
structure ProxyClass (M : Type) where
  zmsMetadata : M → ZmsMetadata
  equals : M → M → Bool
  changeConfigAndRestart : M → M → Bool
  /-- The boot address the broker client is started with; `none` when setting it throws. -/
  bootAddress : M → Option (Option String)
  /-- `restart` starts the proxy again after its `shutdown`. -/
  startsAgain : Bool

structure Proxy (M : Type) where
  metadata : M
  running : Bool
  /-- The address of the last broker client. -/
  startedWith : Option (Option String)

inductive Ending where
  | shutdownThrows
  | startThrows
  | completes
  deriving DecidableEq, Repr

/-- What `handleDataChange` makes of new metadata. -/
inductive Reaction (M : Type) where
  | ignores
  | adopts (newMetadata : M)
  | restarts (newMetadata : M)

namespace ProxyClass

variable {M : Type} (cls : ProxyClass M)

/-- `runs` unless it throws before it sets `running`; a `register` that
throws afterwards leaves the proxy running. -/
def start (proxy : Proxy M) (runs : Bool) : Proxy M :=
  if proxy.running then proxy
  else
    match cls.bootAddress proxy.metadata with
    | none => proxy
    | some address => { proxy with running := runs, startedWith := some address }

def shutdown (proxy : Proxy M) : Proxy M := { proxy with running := false }

def restart (proxy : Proxy M) (ending : Ending) : Proxy M :=
  let stopped := shutdown proxy
  if ending = .shutdownThrows then stopped
  else if cls.startsAgain then cls.start stopped (decide (ending = .completes))
  else stopped

/-- `newMetadata` is what ZooKeeper holds by then; a missing node or cluster,
or a broker type that is missing so far, makes the handler throw. -/
def reaction (metadata : M) (newMetadata : Option M) : Reaction M :=
  match newMetadata with
  | none => .ignores
  | some newMetadata =>
      match (cls.zmsMetadata metadata).clusterMetadata, (cls.zmsMetadata newMetadata).clusterMetadata with
      | some oldCluster, some newCluster =>
          if oldCluster.brokerType = none then .ignores
          else if oldCluster.brokerType ≠ newCluster.brokerType then .ignores
          else if cls.equals metadata newMetadata then .ignores
          else if cls.changeConfigAndRestart metadata newMetadata then .restarts newMetadata
          else .adopts newMetadata
      | _, _ => .ignores

def handleDataChange (proxy : Proxy M) (newMetadata : Option M) (ending : Ending) : Proxy M :=
  match cls.reaction proxy.metadata newMetadata with
  | .ignores => proxy
  | .adopts newMetadata => { proxy with metadata := newMetadata }
  | .restarts newMetadata => cls.restart { proxy with metadata := newMetadata } ending

/-- What the handler takes over is what it read, and it restarts when
`changeConfigAndRestart` says so. -/
theorem reaction_cases (metadata : M) (newMetadata : Option M) :
    cls.reaction metadata newMetadata = .ignores ∨
      ∃ taken, newMetadata = some taken ∧
        (cls.changeConfigAndRestart metadata taken = true ∧
            cls.reaction metadata newMetadata = .restarts taken ∨
          cls.changeConfigAndRestart metadata taken = false ∧
            cls.reaction metadata newMetadata = .adopts taken) := by
  cases newMetadata with
  | none => exact .inl rfl
  | some taken =>
    simp only [reaction]
    repeat' split
    all_goals first
      | exact .inl rfl
      | next restarts => exact .inr ⟨taken, rfl, .inl ⟨restarts, rfl⟩⟩
      | next stays => exact .inr ⟨taken, rfl, .inr ⟨Bool.eq_false_iff.mpr stays, rfl⟩⟩

theorem taken_of_reaction {metadata taken : M} {newMetadata : Option M}
    (takes : cls.reaction metadata newMetadata = .adopts taken ∨
      cls.reaction metadata newMetadata = .restarts taken) : newMetadata = some taken := by
  obtain ignores | ⟨read, rfl, ⟨_, restarts⟩ | ⟨_, adopts⟩⟩ := cls.reaction_cases metadata newMetadata
  · rw [ignores] at takes
    obtain takes | takes := takes <;> cases takes
  · rw [restarts] at takes
    obtain takes | takes := takes <;> cases takes
    rfl
  · rw [adopts] at takes
    obtain takes | takes := takes <;> cases takes
    rfl

end ProxyClass

inductive ProxyAction (M : Type) where
  | start (runs : Bool)
  | dataChange (newMetadata : Option M) (ending : Ending)
  | shutdown

def ProxyClass.machine {M : Type} (cls : ProxyClass M) : Guarded (Proxy M) (ProxyAction M) where
  init proxy := ∃ metadata, proxy = ⟨metadata, false, none⟩
  guard _ _ := True
  effect proxy
    | .start runs => cls.start proxy runs
    | .dataChange newMetadata ending => cls.handleDataChange proxy newMetadata ending
    | .shutdown => ProxyClass.shutdown proxy

instance {M : Type} (cls : ProxyClass M) (proxy : Proxy M) (action : ProxyAction M) :
    Decidable (cls.machine.guard proxy action) := .isTrue trivial

/-- `gatedCluster.getBootAddr()` or `clusterMetadata.getBootAddr()`, put into
the properties of a Kafka client, which take no null. -/
def bootstrapServers (host : String) (metadata : ZmsMetadata) : Option String :=
  if metadata.isGatedLaunch host then metadata.gatedCluster.bind ClusterMetadata.bootAddr
  else metadata.clusterMetadata.bind ClusterMetadata.bootAddr

/-- The same for a RocketMQ client. -/
def namesrvAddr (host : String) (metadata : ZmsMetadata) : Option (Option String) :=
  if metadata.isGatedLaunch host then metadata.gatedCluster.map ClusterMetadata.bootAddr
  else metadata.clusterMetadata.map ClusterMetadata.bootAddr

def ZmsConsumerProxy.changeConfigAndRestart (host : String) (oldMetadata newMetadata : ConsumerGroupMetadata) :
    Bool :=
  if oldMetadata.isGatedLaunch host ^^ newMetadata.isGatedLaunch host then true
  else
    oldMetadata.clusterMetadata ≠ newMetadata.clusterMetadata ||
      oldMetadata.bindingTopic ≠ newMetadata.bindingTopic ||
      oldMetadata.broadcast ≠ newMetadata.broadcast ||
      oldMetadata.consumeFrom ≠ newMetadata.consumeFrom

def ZmsProducerProxy.changeConfigAndRestart (host : String) (oldMetadata newMetadata : TopicMetadata) : Bool :=
  if oldMetadata.isGatedLaunch host ^^ newMetadata.isGatedLaunch host then true
  else oldMetadata.clusterMetadata ≠ newMetadata.clusterMetadata

def KafkaConsumerProxy (host : String) : ProxyClass ConsumerGroupMetadata where
  zmsMetadata := ConsumerGroupMetadata.toZmsMetadata
  equals := ConsumerGroupMetadata.equals
  changeConfigAndRestart := ZmsConsumerProxy.changeConfigAndRestart host
  bootAddress metadata := (bootstrapServers host metadata.toZmsMetadata).map some
  startsAgain := true

def RocketmqConsumerProxy (host : String) : ProxyClass ConsumerGroupMetadata where
  zmsMetadata := ConsumerGroupMetadata.toZmsMetadata
  equals := ConsumerGroupMetadata.equals
  changeConfigAndRestart := ZmsConsumerProxy.changeConfigAndRestart host
  bootAddress metadata := namesrvAddr host metadata.toZmsMetadata
  startsAgain := true

/-- `customized` is the `bootstrap.servers` of the customized properties, which
override the cluster's. -/
def KafkaProducerProxy (host : String) (customized : Option String) : ProxyClass TopicMetadata where
  zmsMetadata := id
  equals := ZmsMetadata.equals
  changeConfigAndRestart := ZmsProducerProxy.changeConfigAndRestart host
  bootAddress metadata := (bootstrapServers host metadata).map fun address => some (customized.getD address)
  startsAgain := false

def RocketmqProducerProxy (host : String) : ProxyClass TopicMetadata where
  zmsMetadata := id
  equals := ZmsMetadata.equals
  changeConfigAndRestart := ZmsProducerProxy.changeConfigAndRestart host
  bootAddress := namesrvAddr host
  startsAgain := false

end Zms.Client
