import Mathlib
import Zms.Portal.Launches

/-! A gated node is usable by clients: it names a gated cluster of the type of its main
cluster, as long as nobody sets another gate or moves a gated node to another type.
-/

set_option autoImplicit false

namespace Zms.Portal.Resources

open Zms.Client Zms.Registry Zms.Transition

/-- Both clusters are in the ZooKeeper and have the same broker type. -/
def SameType (clusters : String → Option ClusterMetadata) (clusterName other : String) : Prop :=
  ∃ cluster otherCluster, clusters clusterName = some cluster ∧ clusters other = some otherCluster ∧
    otherCluster.brokerType = cluster.brokerType

/-- A gated node names a gated cluster of the type of its main cluster. -/
def Usable (clusters : String → Option ClusterMetadata) (data : Properties) : Prop :=
  isNotBlank data.gatedIps = true → ∃ gated, data.gated = some gated ∧ SameType clusters data.clusterName gated

/-- A gated launch has a gated cluster, and the class of the proxy is that of the cluster
it connects to. -/
structure Connects {M : Type} (zmsMetadata : M → ZmsMetadata) (launched : Launched M) : Prop where
  gatedCluster : (zmsMetadata launched.proxy.metadata).isGatedLaunch launched.host = true →
    (zmsMetadata launched.proxy.metadata).gatedCluster.isSome
  class_ : ∃ cluster, (zmsMetadata launched.proxy.metadata).effectiveCluster launched.host = some cluster ∧
    classFor cluster = launched.brokerType

structure AllUsable (s : Launches) : Prop where
  nodes : ∀ env type name data, s.portal.nodes env type name = some data → Usable (s.portal.clusters env) data
  producers : ∀ launched ∈ s.producers, Connects id launched
  consumers : ∀ launched ∈ s.consumers, Connects (·.toZmsMetadata) launched

/-- The gates that are set name clusters of the right type, and no gated node is migrated
to another one. -/
def Keeps (configured : EnvId → Bool) (fold : Char → Char) (s : Launches) : LaunchStep → Prop
  | .updateGated type dto _ => Checked type s.portal.db dto → ∀ name, gatedName type s.portal.db dto = some name →
      ∀ info ∈ dto.environments, isNotBlank info.gatedIps = true → ∀ data,
        s.portal.nodes info.environmentId type name = some data →
        Configurable (s.portal.clusters info.environmentId) type data →
        ∃ gated, gateClusterName type s.portal.db dto info = some gated ∧ isNotBlank (some gated) = true ∧
          SameType (s.portal.clusters info.environmentId) data.clusterName gated
  | .updateGroupGated env dto _ => isNotBlank dto.gatedIps = true → ∀ data,
      s.portal.nodes env .CONSUMER_GRUOP dto.name = some data → Readable (s.portal.clusters env) data →
      ∃ gated, dto.gatedCluster = some gated ∧ isNotBlank (some gated) = true ∧
        SameType (s.portal.clusters env) data.clusterName gated
  | .migrate call dto outcomes => ∀ migration,
      MigrationService.Plans fold outcomes s.portal.forMigration dto call migration → ∀ env name data,
        migration.Rewrites configured fold outcomes s.portal.forMigration dto env name data →
        isNotBlank data.gatedIps = true →
        SameType (s.portal.clusters env) data.clusterName migration.targetCluster
  | _ => True

section Nodes

def NodesUsable (s : State) : Prop :=
  ∀ env type name data, s.nodes env type name = some data → Usable (s.clusters env) data

/-- Nodes are registered anew or deleted. -/
def Settles (before after : Nodes) : Prop :=
  ∀ env type name, after env type name = before env type name ∨ after env type name = none ∨
    ∃ data, after env type name = some data ∧ Plain type data

instance : IsPreorder Nodes Settles where
  refl _ _ _ _ := .inl rfl
  trans first second third settles settles' env type name := by
    obtain same | settled := settles' env type name
    · rw [same]
      exact settles env type name
    · exact .inr settled

theorem settles_put (nodes : Nodes) (env : EnvId) (type : ZmsType) (name : String) {data : Option Properties}
    (plain : ∀ properties, data = some properties → Plain type properties) :
    Settles nodes (nodes.put env type name data) := by
  intro env' type' name'
  by_cases place : env' = env ∧ type' = type ∧ name' = name
  · obtain ⟨rfl, rfl, rfl⟩ := place
    right
    cases data with
    | none => exact .inl (put_self _ _ _ _ _)
    | some properties => exact .inr ⟨properties, put_self _ _ _ _ _, plain properties rfl⟩
  · exact .inl (put_of_ne nodes _ place)

theorem usable_of_blank {clusters : String → Option ClusterMetadata} {data : Properties}
    (blank : isNotBlank data.gatedIps = false) : Usable clusters data := by
  intro notBlank
  rw [blank] at notBlank
  cases notBlank

variable {s t : State}

theorem nodesUsable_of_settles (usable : NodesUsable s) (settles : OnNodes Settles s t) : NodesUsable t := by
  intro env type name data is
  rw [settles.2]
  obtain same | deleted | ⟨other, becomes, plain⟩ := settles.1 env type name
  · exact usable env type name data (same ▸ is)
  · cases deleted.symm.trans is
  · obtain rfl := Option.some.inj (becomes.symm.trans is)
    apply usable_of_blank
    rw [plain.gatedIps]
    rfl

theorem isNotBlank_getD (text : Option String) : isNotBlank (some (text.getD "")) = isNotBlank text := by
  cases text <;> rfl

theorem usable_of_gatedAs {clusters : String → Option ClusterMetadata} {gatedIps gateName : Option String}
    {before after : Properties} (gatedAs : GatedAs gatedIps gateName before after)
    (good : isNotBlank gatedIps = true → ∃ gated, gateName = some gated ∧ isNotBlank (some gated) = true ∧
      SameType clusters before.clusterName gated) : Usable clusters after := by
  intro notBlank
  rw [gatedAs.gatedIps, isNotBlank_getD] at notBlank
  obtain ⟨gated, named, isName, same⟩ := good notBlank
  refine ⟨gated, ?_, gatedAs.clusterName ▸ same⟩
  rw [gatedAs.gated, named, if_pos isName]

theorem nodesUsable_of_gates {ready : EnvId → Properties → Prop} {type : ZmsType} {name : String}
    {gateName : EnvironmentInfoVo → Option String} {infos : List EnvironmentInfoVo} (usable : NodesUsable s)
    (clusters : t.clusters = s.clusters) (gates : Gates ready type name gateName infos s.nodes t.nodes)
    (good : ∀ info ∈ infos, isNotBlank info.gatedIps = true → ∀ data, s.nodes info.environmentId type name = some data →
      ready info.environmentId data → ∃ gated, gateName info = some gated ∧ isNotBlank (some gated) = true ∧
        SameType (s.clusters info.environmentId) data.clusterName gated) : NodesUsable t := by
  intro env type' name' data is
  rw [clusters]
  obtain same | ⟨rfl, rfl, info, member, rfl, before, after, was, isReady, becomes, gatedAs⟩ := gates env type' name'
  · exact usable env type' name' data (same ▸ is)
  · obtain rfl := Option.some.inj (becomes.symm.trans is)
    exact usable_of_gatedAs gatedAs fun notBlank => good info member notBlank before was isReady

theorem usable_of_rewritten {fold : Char → Char} {clusters : String → Option ClusterMetadata} {type : ZmsType}
    {targetCluster : String} {consumePosition : Option String} {data : Properties} (usable : Usable clusters data)
    (same : isNotBlank data.gatedIps = true → SameType clusters data.clusterName targetCluster) :
    Usable clusters (MigrationService.rewritten fold type targetCluster consumePosition data) := by
  intro notBlank
  have was : isNotBlank data.gatedIps = true := (isNotBlank_getD data.gatedIps).symm.trans notBlank
  obtain ⟨gated, isGated, cluster, gatedCluster, found, gatedFound, sameType⟩ := usable was
  obtain ⟨cluster', target, found', targetFound, sameTarget⟩ := same was
  obtain rfl := Option.some.inj (found.symm.trans found')
  refine ⟨gated, ?_, target, gatedCluster, targetFound, gatedFound, sameType.trans sameTarget.symm⟩
  have notBlankGate := isNotBlank_of_gated isGated
  unfold Properties.gated at isGated ⊢
  split at isGated
  · next named =>
      unfold MigrationService.rewritten
      dsimp only
      rw [if_pos named, isGated, Option.getD_some, if_pos notBlankGate]
  · cases isGated

theorem nodesUsable_migrate {configured : EnvId → Bool} {fold : Char → Char} {outcomes : MigrationService.Outcomes}
    {dto : MigrationService.MigrationDTO} {call : MigrationService.Call} (usable : NodesUsable s)
    (same : ∀ migration, MigrationService.Plans fold outcomes s.forMigration dto call migration → ∀ env name data,
      migration.Rewrites configured fold outcomes s.forMigration dto env name data → isNotBlank data.gatedIps = true →
      SameType (s.clusters env) data.clusterName migration.targetCluster) :
    NodesUsable (migrate configured fold s outcomes dto call) := by
  unfold migrate
  cases called : MigrationService.call configured fold outcomes s.forMigration dto call with
  | none => exact usable
  | some response =>
      obtain ⟨migration, plans, rfl⟩ := (MigrationService.call_eq_some_iff configured fold outcomes _ dto call _).mp called
      intro env type name data is
      change (migration.run configured fold outcomes s.forMigration dto).nodes env type name = some data at is
      change Usable (s.clusters env) data
      by_cases own : currentZkClient configured migration.context = some env ∧ type = migration.type
      · obtain ⟨client, rfl⟩ := own
        rw [MigrationService.Migration.run_nodes_of_client client] at is
        by_cases passes : MigrationService.Passes (migration.rewrites fold s.forMigration dto env) name
            (s.forMigration.nodes env migration.type name) (migration.attempts outcomes name)
        · rw [MigrationService.settled_of_passes passes] at is
          obtain ⟨read, was, rfl⟩ := MigrationService.rewrite_eq is
          rw [was] at passes
          exact usable_of_rewritten (usable env migration.type name read was)
            (same migration plans env name read ⟨client, was, passes⟩)
        · rw [MigrationService.settled_of_not_passes passes] at is
          exact usable env migration.type name data is
      · rw [MigrationService.Migration.run_nodes_of_ne] at is
        · exact usable env type name data is
        · by_cases client : currentZkClient configured migration.context = some env
          · exact .inr fun sameType => own ⟨client, sameType⟩
          · exact .inl client

end Nodes

section Proxies

/-- What a proxy knows of its clusters: the class is that of the main cluster, and a gated
cluster of a gated launch is of its type. -/
structure Sound (brokerType : BrokerType) (metadata : ZmsMetadata) : Prop where
  class_ : ∃ cluster, metadata.clusterMetadata = some cluster ∧ classFor cluster = brokerType
  gated : isNotBlank metadata.gatedIps = true → ∃ cluster gatedCluster, metadata.clusterMetadata = some cluster ∧
    metadata.gatedCluster = some gatedCluster ∧ gatedCluster.brokerType = cluster.brokerType

theorem classFor_congr {cluster other : ClusterMetadata} (same : other.brokerType = cluster.brokerType) :
    classFor other = classFor cluster := by
  unfold classFor
  rw [same]

theorem connects_of_sound {M : Type} {zmsMetadata : M → ZmsMetadata} {launched : Launched M}
    (sound : Sound launched.brokerType (zmsMetadata launched.proxy.metadata)) : Connects zmsMetadata launched := by
  obtain ⟨cluster, isCluster, isClass⟩ := sound.class_
  have gated (launch : (zmsMetadata launched.proxy.metadata).isGatedLaunch launched.host = true) :
      ∃ gatedCluster, (zmsMetadata launched.proxy.metadata).gatedCluster = some gatedCluster ∧
        gatedCluster.brokerType = cluster.brokerType := by
    obtain ⟨other, gatedCluster, isOther, isGated, same⟩ := sound.gated (Bool.and_eq_true_iff.mp launch).1
    obtain rfl := Option.some.inj (isCluster.symm.trans isOther)
    exact ⟨gatedCluster, isGated, same⟩
  constructor
  · intro launch
    obtain ⟨gatedCluster, isGated, -⟩ := gated launch
    rw [isGated]
    rfl
  · unfold ZmsMetadata.effectiveCluster
    split
    · next launch =>
        obtain ⟨gatedCluster, isGated, same⟩ := gated launch
        exact ⟨gatedCluster, isGated, (classFor_congr same).trans isClass⟩
    · exact ⟨cluster, isCluster, isClass⟩

theorem sound_of_readZkInfo {clusters : String → Option ClusterMetadata} {type : ZmsType} {name : String}
    {data : Option Properties} {metadata : ConsumerGroupMetadata} {cluster : ClusterMetadata}
    (usable : ∀ properties, data = some properties → Usable clusters properties)
    (read : readZkInfo clusters type name data = some metadata) (isCluster : metadata.clusterMetadata = some cluster) :
    Sound (classFor cluster) metadata.toZmsMetadata := by
  refine ⟨⟨cluster, isCluster, rfl⟩, fun notBlank => ?_⟩
  obtain ⟨properties, rfl⟩ := readZkInfo_data read
  have readAs := readAs_of_readZkInfo read
  rw [readAs.gatedIps] at notBlank
  obtain ⟨gated, isGated, stored, gatedStored, found, gatedFound, same⟩ := usable properties rfl notBlank
  have main : metadata.clusterMetadata = some { stored with clusterName := properties.clusterName } := by
    rw [readAs.clusterMetadata, readClusterMetadata, found]
    rfl
  refine ⟨_, { gatedStored with clusterName := gated }, main, ?_, same⟩
  rw [readAs.gatedCluster, isGated, Option.bind_some, readClusterMetadata, gatedFound]
  rfl

variable {M : Type} {zmsMetadata : M → ZmsMetadata}

theorem metadata_start (cls : ProxyClass M) (proxy : Proxy M) (runs : Bool) :
    (cls.start proxy runs).metadata = proxy.metadata := by
  unfold ProxyClass.start
  split
  · rfl
  · split <;> rfl

theorem metadata_restart (cls : ProxyClass M) (proxy : Proxy M) (ending : Ending) :
    (cls.restart proxy ending).metadata = proxy.metadata := by
  unfold ProxyClass.restart
  dsimp only
  split
  · rfl
  · split
    · exact metadata_start cls _ _
    · rfl

/-- A handler takes over only metadata whose main cluster is of the same type. -/
theorem metadata_handleDataChange (cls : ProxyClass M) (proxy : Proxy M) (newMetadata : Option M) (ending : Ending) :
    (cls.handleDataChange proxy newMetadata ending).metadata = proxy.metadata ∨
      ∃ taken cluster newCluster, newMetadata = some taken ∧
        (cls.zmsMetadata proxy.metadata).clusterMetadata = some cluster ∧
        (cls.zmsMetadata taken).clusterMetadata = some newCluster ∧ newCluster.brokerType = cluster.brokerType ∧
        (cls.handleDataChange proxy newMetadata ending).metadata = taken := by
  obtain ignores | ⟨taken, rfl, takes⟩ := cls.reaction_cases proxy.metadata newMetadata
  · left
    unfold ProxyClass.handleDataChange
    rw [ignores]
  · right
    have becomes : (cls.handleDataChange proxy (some taken) ending).metadata = taken := by
      unfold ProxyClass.handleDataChange
      obtain ⟨-, restarts⟩ | ⟨-, adopts⟩ := takes
      · rw [restarts]
        exact metadata_restart cls _ ending
      · rw [adopts]
    have notIgnored : cls.reaction proxy.metadata (some taken) ≠ .ignores := by
      intro ignores
      obtain ⟨-, restarts⟩ | ⟨-, adopts⟩ := takes
      · cases ignores.symm.trans restarts
      · cases ignores.symm.trans adopts
    unfold ProxyClass.reaction at notIgnored
    dsimp only at notIgnored
    split at notIgnored
    · next cluster newCluster isCluster isNew =>
        refine ⟨taken, cluster, newCluster, rfl, isCluster, isNew, ?_, becomes⟩
        by_contra other
        apply notIgnored
        split
        · rfl
        · rw [if_pos fun same => other same.symm]
    · exact absurd rfl notIgnored

/-- What a client reads of the nodes can be launched soundly. -/
def ReadsSoundly (zmsMetadata : M → ZmsMetadata) (read : EnvId → String → Option M) : Prop :=
  ∀ env name taken cluster, read env name = some taken → (zmsMetadata taken).clusterMetadata = some cluster →
    Sound (classFor cluster) (zmsMetadata taken)

theorem sound_newProxy {read : EnvId → String → Option M} (reads : ReadsSoundly zmsMetadata read) {env : EnvId}
    {host name : String} {customized : Option String} {launched : Launched M}
    (created : newProxy zmsMetadata env host name customized (read env name) = some launched) :
    Sound launched.brokerType (zmsMetadata launched.proxy.metadata) := by
  obtain ⟨metadata, isRead, created⟩ := Option.bind_eq_some_iff.mp created
  obtain ⟨cluster, isCluster, same⟩ := Option.bind_eq_some_iff.mp created
  obtain rfl := Option.some.inj same
  exact reads env name metadata cluster isRead isCluster

theorem sound_change {proxyClass : Launched M → ProxyClass M} {read : EnvId → String → Option M} {launched : Launched M}
    (reads : ReadsSoundly zmsMetadata read) (same : (proxyClass launched).zmsMetadata = zmsMetadata) (ending : Ending)
    (sound : Sound launched.brokerType (zmsMetadata launched.proxy.metadata)) :
    Sound (launched.change proxyClass read ending).brokerType
      (zmsMetadata (launched.change proxyClass read ending).proxy.metadata) := by
  subst same
  unfold Launched.change
  dsimp only
  obtain stays | ⟨taken, cluster, newCluster, isRead, isCluster, isNew, sameType, becomes⟩ :=
    metadata_handleDataChange (proxyClass launched) launched.proxy (read launched.env launched.name) ending
  · rw [stays]
    exact sound
  · rw [becomes]
    obtain ⟨own, isOwn, isClass⟩ := sound.class_
    obtain rfl := Option.some.inj (isCluster.symm.trans isOwn)
    rw [← isClass, ← classFor_congr sameType]
    exact reads _ _ taken newCluster isRead isNew

theorem sound_start (zmsMetadata : M → ZmsMetadata) {proxyClass : Launched M → ProxyClass M} {launched : Launched M} (runs : Bool)
    (sound : Sound launched.brokerType (zmsMetadata launched.proxy.metadata)) :
    Sound (launched.start proxyClass runs).brokerType
      (zmsMetadata (launched.start proxyClass runs).proxy.metadata) := by
  unfold Launched.start
  dsimp only
  rw [metadata_start]
  exact sound

theorem forall_mem_modify {α : Type} {P : α → Prop} {items : List α} {change : α → α} (holds : ∀ a ∈ items, P a)
    (keeps : ∀ a, P a → P (change a)) (index : Nat) : ∀ a ∈ items.modify index change, P a := by
  induction items generalizing index with
  | nil => cases index <;> exact fun a member => absurd member List.not_mem_nil
  | cons first rest ih =>
      obtain ⟨firstHolds, restHolds⟩ := List.forall_mem_cons.mp holds
      cases index with
      | zero => exact List.forall_mem_cons.mpr ⟨keeps first firstHolds, restHolds⟩
      | succ index => exact List.forall_mem_cons.mpr ⟨firstHolds, ih restHolds index⟩

theorem reads_consumer {s : State} (usable : NodesUsable s) :
    ReadsSoundly (·.toZmsMetadata) s.readConsumerGroupMetadata := by
  intro env name taken cluster isRead isCluster
  exact sound_of_readZkInfo (fun properties is => usable env .CONSUMER_GRUOP name properties is) isRead isCluster

theorem reads_producer {s : State} (usable : NodesUsable s) : ReadsSoundly id s.readTopicMetadata := by
  intro env name taken cluster isRead isCluster
  obtain ⟨metadata, found, rfl⟩ := Option.map_eq_some_iff.mp isRead
  exact sound_of_readZkInfo (fun properties is => usable env .TOPIC name properties is) found isCluster

theorem zmsMetadata_producerClass (launched : Launched TopicMetadata) : launched.producerClass.zmsMetadata = id := by
  unfold Launched.producerClass
  cases launched.brokerType <;> rfl

theorem zmsMetadata_consumerClass (launched : Launched ConsumerGroupMetadata) :
    launched.consumerClass.zmsMetadata = (·.toZmsMetadata) := by
  unfold Launched.consumerClass
  cases launched.brokerType <;> rfl

end Proxies

/-- What carries the usability through a run. -/
structure LaunchesSound (s : Launches) : Prop where
  nodes : NodesUsable s.portal
  producers : ∀ launched ∈ s.producers, Sound launched.brokerType launched.proxy.metadata
  consumers : ∀ launched ∈ s.consumers, Sound launched.brokerType launched.proxy.metadata.toZmsMetadata

theorem allUsable_of_sound {s : Launches} (sound : LaunchesSound s) : AllUsable s :=
  ⟨sound.nodes, fun launched member => connects_of_sound (sound.producers launched member),
    fun launched member => connects_of_sound (sound.consumers launched member)⟩

variable (configured : EnvId → Bool) (fold : Char → Char) (lower : String → String)

theorem nodesUsable_effect {s : Launches} {step : LaunchStep} (usable : NodesUsable s.portal)
    (keeps : Keeps configured fold s step) : NodesUsable (s.effect configured fold lower step).portal := by
  cases step with
  | request action =>
      have leaves : OnNodes Settles { s.portal with answers := action.answers }
          (action.request.leaves fold lower { s.portal with answers := action.answers }) := by
        apply onNodes_leaves
        · intro nodes env type name data plain
          apply settles_put
          intro properties same
          exact Option.some.inj same ▸ plain
        · intro nodes env type name
          apply settles_put
          intro properties impossible
          cases impossible
      exact nodesUsable_of_settles usable leaves
  | updateGated type dto answers =>
      have gated := gatedFrom_updateGated type dto { s.portal with answers := answers }
      obtain ⟨clusters, same | ⟨checked, name, named, gates⟩⟩ := gated
      · intro env type' name' data is
        change (updateGated type dto { s.portal with answers := answers }).2.nodes env type' name' = some data at is
        change Usable ((updateGated type dto { s.portal with answers := answers }).2.clusters env) data
        rw [clusters]
        rw [same] at is
        exact usable env type' name' data is
      · exact nodesUsable_of_gates usable clusters gates fun info member notBlank data was ready =>
          keeps checked name named info member notBlank data was ready
  | updateGroupGated env dto answers =>
      have gates := (gatesOn_updateGroupGated env dto).related { s.portal with answers := answers }
      refine nodesUsable_of_gates usable gates.2 gates.1 fun info member notBlank data was ready => ?_
      obtain rfl := List.mem_singleton.mp member
      exact keeps notBlank data was ready
  | migrate call dto outcomes => exact nodesUsable_migrate usable keeps
  | getProducer => exact usable
  | getConsumer => exact usable
  | startProducer => exact usable
  | startConsumer => exact usable
  | producerChange => exact usable
  | consumerChange => exact usable

theorem sound_effect {s : Launches} {step : LaunchStep} (sound : LaunchesSound s) (keeps : Keeps configured fold s step) :
    LaunchesSound (s.effect configured fold lower step) := by
  refine ⟨nodesUsable_effect configured fold lower sound.nodes keeps, ?_, ?_⟩
  · cases step with
    | getProducer env host name customized =>
        intro launched member
        obtain known | new := List.mem_append.mp member
        · exact sound.producers launched known
        · exact sound_newProxy (reads_producer sound.nodes) (Option.mem_toList.mp new)
    | startProducer index runs =>
        exact forall_mem_modify sound.producers (fun launched holds => sound_start id runs holds) index
    | producerChange index ending =>
        exact forall_mem_modify sound.producers (fun launched holds =>
          sound_change (reads_producer sound.nodes) (zmsMetadata_producerClass launched) ending holds) index
    | _ => exact sound.producers
  · cases step with
    | getConsumer env host name =>
        intro launched member
        obtain known | new := List.mem_append.mp member
        · exact sound.consumers launched known
        · exact sound_newProxy (reads_consumer sound.nodes) (Option.mem_toList.mp new)
    | startConsumer index runs =>
        exact forall_mem_modify sound.consumers
          (fun launched holds => sound_start ConsumerGroupMetadata.toZmsMetadata runs holds) index
    | consumerChange index ending =>
        exact forall_mem_modify sound.consumers (fun launched holds =>
          sound_change (reads_consumer sound.nodes) (zmsMetadata_consumerClass launched) ending holds) index
    | _ => exact sound.consumers

/-- A new topic, the cluster 10 for it and 11 for a gated launch. -/
def unlaunched : Launches where
  portal := {
    db := {
      environments := [1]
      services := .ofList [⟨⟨10, 1, "main", "ROCKETMQ", false⟩, "ENABLE"⟩, ⟨⟨11, 1, "gated", "ROCKETMQ", false⟩, "ENABLE"⟩]
      topics := .ofList [⟨⟨1, "orders", CREATE_NEW⟩, "owner", some 4⟩]
      consumers := .ofList []
      refs := fun type => match type with
        | .TOPIC => .ofList [.plain 1 1 none]
        | .CONSUMER_GRUOP => .ofList [] }
    nodes := fun _ _ _ => none
    clusters := fun _ name => some ⟨name, none, some .ROCKETMQ, none⟩
    answers := fun _ => true }
  producers := []
  consumers := []

def approveOrders : LaunchStep := .request
  ⟨.approveTopic 1 ⟨some "orders", none, none, none, none, some 4, none, some [⟨1, some 10, none, none⟩]⟩, fun _ => true⟩

/-- A gated launch of the topic on the cluster 11. -/
def gateOrders : LaunchStep := .updateGated .TOPIC (gateRequest "orders") fun _ => true

def launchOrders : LaunchStep := .getProducer 1 "10.0.0.1" "orders" none

theorem initial_unlaunched : (Launches.machine (fun _ => true) Char.toLower id).init unlaunched :=
  ⟨fun _ _ _ => rfl, rfl, rfl⟩

end Zms.Portal.Resources
