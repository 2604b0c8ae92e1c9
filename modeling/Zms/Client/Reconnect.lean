import Zms.Client.Proxy

/-! Whether a metadata change reaches the connection.

`changeConfigAndRestart` compares the main clusters and whether the launch is
gated. It does not compare the gated clusters, so a proxy on its gated cluster
does not notice that it has to move to another one.
-/

set_option autoImplicit false

namespace Zms.Client

open Zms.Transition

variable (host : String)

/-- Both launches are gated, and only their gated clusters differ. -/
def GatedMove (host : String) (oldMetadata newMetadata : ZmsMetadata) : Prop :=
  oldMetadata.isGatedLaunch host = true ∧ newMetadata.isGatedLaunch host = true ∧
    oldMetadata.clusterMetadata = newMetadata.clusterMetadata ∧
    oldMetadata.gatedCluster ≠ newMetadata.gatedCluster

instance (host : String) (oldMetadata newMetadata : ZmsMetadata) :
    Decidable (GatedMove host oldMetadata newMetadata) := inferInstanceAs (Decidable (_ ∧ _))

/-- A consumer may still notice another change made with it. -/
def ConsumerGatedMove (host : String) (oldMetadata newMetadata : ConsumerGroupMetadata) : Prop :=
  GatedMove host oldMetadata.toZmsMetadata newMetadata.toZmsMetadata ∧
    oldMetadata.bindingTopic = newMetadata.bindingTopic ∧
    oldMetadata.broadcast = newMetadata.broadcast ∧ oldMetadata.consumeFrom = newMetadata.consumeFrom

instance (host : String) (oldMetadata newMetadata : ConsumerGroupMetadata) :
    Decidable (ConsumerGatedMove host oldMetadata newMetadata) := inferInstanceAs (Decidable (_ ∧ _))

theorem gatedMove_iff (oldMetadata newMetadata : ZmsMetadata) :
    GatedMove host oldMetadata newMetadata ↔
      oldMetadata.effectiveCluster host ≠ newMetadata.effectiveCluster host ∧
        oldMetadata.isGatedLaunch host = newMetadata.isGatedLaunch host ∧
        oldMetadata.clusterMetadata = newMetadata.clusterMetadata := by
  simp only [GatedMove, ZmsMetadata.effectiveCluster]
  constructor
  · rintro ⟨gated, gatedToo, sameMain, moved⟩
    simp only [gated, gatedToo, if_true]
    exact ⟨moved, trivial, sameMain⟩
  · rintro ⟨moved, sameGate, sameMain⟩
    rw [← sameGate] at moved ⊢
    cases gated : oldMetadata.isGatedLaunch host with
    | true =>
      rw [gated] at moved
      exact ⟨rfl, rfl, sameMain, moved⟩
    | false =>
      rw [gated] at moved
      exact absurd sameMain moved

theorem producer_ignores_iff (oldMetadata newMetadata : TopicMetadata) :
    ZmsProducerProxy.changeConfigAndRestart host oldMetadata newMetadata = false ↔
      oldMetadata.isGatedLaunch host = newMetadata.isGatedLaunch host ∧
        oldMetadata.clusterMetadata = newMetadata.clusterMetadata := by
  simp only [ZmsProducerProxy.changeConfigAndRestart]
  split
  · next differ => simp at differ; simp [differ]
  · next same => simp at same; simp [same]

theorem consumer_ignores_iff (oldMetadata newMetadata : ConsumerGroupMetadata) :
    ZmsConsumerProxy.changeConfigAndRestart host oldMetadata newMetadata = false ↔
      oldMetadata.isGatedLaunch host = newMetadata.isGatedLaunch host ∧
        oldMetadata.clusterMetadata = newMetadata.clusterMetadata ∧
        oldMetadata.bindingTopic = newMetadata.bindingTopic ∧
        oldMetadata.broadcast = newMetadata.broadcast ∧ oldMetadata.consumeFrom = newMetadata.consumeFrom := by
  simp only [ZmsConsumerProxy.changeConfigAndRestart]
  split
  · next differ => simp at differ; simp [differ]
  · next same => simp at same; simp [same, and_assoc]

/-- A producer restarts on every change of its effective cluster but a gated move. -/
theorem producer_restarts_iff (oldMetadata newMetadata : TopicMetadata) :
    (oldMetadata.effectiveCluster host ≠ newMetadata.effectiveCluster host →
        ZmsProducerProxy.changeConfigAndRestart host oldMetadata newMetadata = true) ↔
      ¬ GatedMove host oldMetadata newMetadata := by
  rw [gatedMove_iff, ← producer_ignores_iff host]
  simp

theorem consumer_restarts_iff (oldMetadata newMetadata : ConsumerGroupMetadata) :
    (oldMetadata.effectiveCluster host ≠ newMetadata.effectiveCluster host →
        ZmsConsumerProxy.changeConfigAndRestart host oldMetadata newMetadata = true) ↔
      ¬ ConsumerGatedMove host oldMetadata newMetadata := by
  have ignores := consumer_ignores_iff host oldMetadata newMetadata
  rw [ConsumerGatedMove, gatedMove_iff, and_assoc, and_assoc, ← ignores]
  simp

namespace ProxyClass

variable {M : Type} (cls : ProxyClass M)

/-- A running proxy was last started with the boot address of its effective cluster. -/
def Connected (proxy : Proxy M) : Prop :=
  proxy.running = true →
    proxy.startedWith = ((cls.zmsMetadata proxy.metadata).effectiveCluster host).map ClusterMetadata.bootAddr

instance (proxy : Proxy M) : Decidable (cls.Connected host proxy) := inferInstanceAs (Decidable (_ → _))

/-- No data change is one that the proxy misses. -/
def Notices (missed : M → M → Prop) (proxy : Proxy M) : ProxyAction M → Prop
  | .dataChange (some newMetadata) _ => ¬ missed proxy.metadata newMetadata
  | .dataChange none _ | .start _ | .shutdown => True

instance (missed : M → M → Prop) [∀ m n, Decidable (missed m n)] (proxy : Proxy M) (action : ProxyAction M) :
    Decidable (Notices missed proxy action) := by
  unfold Notices
  split <;> infer_instance

variable {cls host}

/-- The broker client is started with the address of the effective cluster. -/
def Addresses (host : String) (cls : ProxyClass M) : Prop :=
  ∀ metadata address, cls.bootAddress metadata = some address →
    ((cls.zmsMetadata metadata).effectiveCluster host).map ClusterMetadata.bootAddr = some address

theorem connected_of_stopped {proxy : Proxy M} (stopped : proxy.running = false) : cls.Connected host proxy := by
  intro running
  rw [stopped] at running
  cases running

theorem Connected.start (addresses : cls.Addresses host) {proxy : Proxy M}
    (connected : cls.Connected host proxy) (runs : Bool) :
    cls.Connected host (cls.start proxy runs) := by
  simp only [ProxyClass.start]
  split
  · exact connected
  · cases found : cls.bootAddress proxy.metadata with
    | none => exact connected
    | some address => exact fun _ => (addresses proxy.metadata address found).symm

theorem Connected.restart (addresses : cls.Addresses host) (proxy : Proxy M) (ending : Ending) :
    cls.Connected host (cls.restart proxy ending) := by
  have stopped : cls.Connected host (shutdown proxy) := connected_of_stopped rfl
  simp only [ProxyClass.restart]
  split
  · exact stopped
  · split
    · exact stopped.start addresses _
    -- a producer is not started again
    · exact stopped

theorem Connected.handleDataChange {missed : M → M → Prop} (addresses : cls.Addresses host)
    (restarts : ∀ m n, ¬ missed m n →
      (cls.zmsMetadata m).effectiveCluster host ≠ (cls.zmsMetadata n).effectiveCluster host →
        cls.changeConfigAndRestart m n = true)
    {proxy : Proxy M} (connected : cls.Connected host proxy) {newMetadata : Option M} {ending : Ending}
    (notices : Notices missed proxy (.dataChange newMetadata ending)) :
    cls.Connected host (cls.handleDataChange proxy newMetadata ending) := by
  simp only [ProxyClass.handleDataChange]
  obtain ignored | ⟨taken, rfl, ⟨-, restarted⟩ | ⟨stays, adopted⟩⟩ := reaction_cases cls proxy.metadata newMetadata
  · rw [ignored]
    exact connected
  · rw [restarted]
    exact Connected.restart addresses _ ending
  · rw [adopted]
    -- no restart means that the effective cluster is the one the proxy was started with
    have same : (cls.zmsMetadata proxy.metadata).effectiveCluster host =
        (cls.zmsMetadata taken).effectiveCluster host := by
      by_contra moved
      exact absurd (restarts _ _ notices moved) (by simp [stays])
    intro running
    rw [← same]
    exact connected running

theorem connected_of_notices {missed : M → M → Prop} (addresses : cls.Addresses host)
    (restarts : ∀ m n, ¬ missed m n →
      (cls.zmsMetadata m).effectiveCluster host ≠ (cls.zmsMetadata n).effectiveCluster host →
        cls.changeConfigAndRestart m n = true)
    {proxy : Proxy M} (reached : (cls.machine.restrict (Notices missed)).Reachable proxy) :
    cls.Connected host proxy := by
  apply reached.invariant (cls.Connected host)
  · rintro _ ⟨metadata, rfl⟩
    exact connected_of_stopped rfl
  · rintro proxy action connected ⟨-, notices⟩
    cases action with
    | start runs => exact connected.start addresses runs
    | dataChange newMetadata ending => exact connected.handleDataChange addresses restarts notices
    | shutdown => exact connected_of_stopped rfl

end ProxyClass

open ProxyClass

theorem namesrvAddr_addresses {metadata : ZmsMetadata} {address : Option String}
    (found : namesrvAddr host metadata = some address) :
    (metadata.effectiveCluster host).map ClusterMetadata.bootAddr = some address := by
  rw [← found, namesrvAddr, ZmsMetadata.effectiveCluster]
  split <;> rfl

theorem bootstrapServers_addresses {metadata : ZmsMetadata} {address : Option String}
    (found : (bootstrapServers host metadata).map some = some address) :
    (metadata.effectiveCluster host).map ClusterMetadata.bootAddr = some address := by
  obtain ⟨server, chosen, rfl⟩ := Option.map_eq_some_iff.mp found
  simp only [bootstrapServers] at chosen
  simp only [ZmsMetadata.effectiveCluster]
  split at chosen
  all_goals
    next gate =>
    obtain ⟨cluster, isCluster, isServer⟩ := Option.bind_eq_some_iff.mp chosen
    simp [gate, isCluster, isServer]

/-- Both kinds of proxies restart on every change of their effective cluster but
a gated move, and in runs without gated moves they stay connected to it. -/
theorem restarts_iff_connected (host : String) :
    (∀ oldMetadata newMetadata : ConsumerGroupMetadata,
      (oldMetadata.effectiveCluster host ≠ newMetadata.effectiveCluster host →
          ZmsConsumerProxy.changeConfigAndRestart host oldMetadata newMetadata = true) ↔
        ¬ ConsumerGatedMove host oldMetadata newMetadata) ∧
    (∀ oldMetadata newMetadata : TopicMetadata,
      (oldMetadata.effectiveCluster host ≠ newMetadata.effectiveCluster host →
          ZmsProducerProxy.changeConfigAndRestart host oldMetadata newMetadata = true) ↔
        ¬ GatedMove host oldMetadata newMetadata) ∧
    (∀ cls ∈ [KafkaConsumerProxy host, RocketmqConsumerProxy host], ∀ proxy,
      (cls.machine.restrict (Notices (ConsumerGatedMove host))).Reachable proxy →
        cls.Connected host proxy) ∧
    ∀ cls ∈ [KafkaProducerProxy host none, RocketmqProducerProxy host], ∀ proxy,
      (cls.machine.restrict (Notices (GatedMove host))).Reachable proxy → cls.Connected host proxy := by
  refine ⟨consumer_restarts_iff host, producer_restarts_iff host, ?_, ?_⟩
  · intro cls member proxy reached
    simp only [List.mem_cons, List.not_mem_nil, or_false] at member
    rcases member with rfl | rfl
    · exact connected_of_notices (fun _ _ => bootstrapServers_addresses host)
        (fun m n noticed => (consumer_restarts_iff host m n).mpr noticed) reached
    · exact connected_of_notices (fun _ _ => namesrvAddr_addresses host)
        (fun m n noticed => (consumer_restarts_iff host m n).mpr noticed) reached
  · intro cls member proxy reached
    simp only [List.mem_cons, List.not_mem_nil, or_false] at member
    rcases member with rfl | rfl
    · exact connected_of_notices (fun _ _ => bootstrapServers_addresses host)
        (fun m n noticed => (producer_restarts_iff host m n).mpr noticed) reached
    · exact connected_of_notices (fun _ _ => namesrvAddr_addresses host)
        (fun m n noticed => (producer_restarts_iff host m n).mpr noticed) reached

namespace GatedMove

def cluster (name : String) : ClusterMetadata := ⟨name, some (name ++ ":9092"), some .KAFKA, none⟩

/-- A group of this host's gated launch on the named cluster. -/
def group (gatedCluster : String) : ConsumerGroupMetadata where
  type := "consumergroup"
  name := "billing"
  clusterMetadata := some (cluster "main")
  domain := none
  gatedIps := some "10.0.0.1"
  gatedCluster := some (cluster gatedCluster)
  statisticsLogger := none
  bindingTopic := some "orders"
  consumeFrom := none
  broadcast := none
  suspend := none

end GatedMove

open GatedMove

theorem restarts_iff_connected_gate : ∃ proxy : Proxy ConsumerGroupMetadata, proxy.running = true ∧
    proxy.metadata.gatedIps = none ∧ (KafkaConsumerProxy "10.0.0.1").Connected "10.0.0.1" proxy := by
  have run : ∃ proxy, ((KafkaConsumerProxy "10.0.0.1").machine.restrict
      (Notices (ConsumerGatedMove "10.0.0.1"))).Reachable proxy ∧
      proxy.running = true ∧ proxy.metadata.gatedIps = none :=
    Guarded.exists_reachable
      [.start true, .dataChange (some { group "gray" with gatedIps := none }) .completes]
      ⟨group "gray", rfl⟩ (by decide)
  obtain ⟨proxy, reached, running, ungated⟩ := run
  exact ⟨proxy, running, ungated,
    (restarts_iff_connected "10.0.0.1").2.2.1 _ List.mem_cons_self proxy reached⟩

/-- The gated cluster changes under a gated consumer, which keeps its old address. -/
theorem not_connected : ¬ ∀ (host : String) (proxy : Proxy ConsumerGroupMetadata),
    (KafkaConsumerProxy host).machine.Reachable proxy → (KafkaConsumerProxy host).Connected host proxy := by
  intro always
  have run : ∃ proxy, (KafkaConsumerProxy "10.0.0.1").machine.Reachable proxy ∧
      ¬ (KafkaConsumerProxy "10.0.0.1").Connected "10.0.0.1" proxy :=
    Guarded.exists_reachable [.start true, .dataChange (some (group "blue")) .completes]
      ⟨group "gray", rfl⟩ (by decide)
  obtain ⟨proxy, reached, lost⟩ := run
  exact lost (always "10.0.0.1" proxy reached)

end Zms.Client
