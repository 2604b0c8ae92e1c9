import Mathlib
import Zms.Metadata

/-! The data of topic and consumer group nodes: what a client makes of it when it
reads one, and the data it writes. -/

set_option autoImplicit false

namespace Zms

inductive ZmsType where
  | TOPIC | CONSUMER_GRUOP
  deriving DecidableEq, Repr

def ZmsType.getName : ZmsType → String
  | .TOPIC => "topic"
  | .CONSUMER_GRUOP => "consumergroup"

def ZmsType.other : ZmsType → ZmsType
  | .TOPIC => .CONSUMER_GRUOP
  | .CONSUMER_GRUOP => .TOPIC

structure Properties where
  clusterName : String
  gatedIps : Option String
  gatedCluster : Option String
  statisticsLogger : Option String
  bindingTopic : Option String
  broadcast : Option String
  consumeFrom : Option String
  suspend : Option String
  deriving DecidableEq, Repr

def readClusterMetadata (clusters : String → Option ClusterMetadata) (clusterName : String) :
    Option ClusterMetadata :=
  (clusters clusterName).map fun cluster => { cluster with clusterName }

/-- `none` for a node that does not exist or has no data yet, and for a cluster
that cannot be read: `null` or an exception. -/
def readZkInfo (clusters : String → Option ClusterMetadata) (type : ZmsType) (name : String)
    (data : Option Properties) : Option ConsumerGroupMetadata := do
  let properties ← data
  let clusterMetadata ← readClusterMetadata clusters properties.clusterName
  let metadata : ConsumerGroupMetadata :=
    { type := type.getName, name, clusterMetadata := some clusterMetadata, domain := none
      gatedIps := properties.gatedIps, gatedCluster := none, statisticsLogger := properties.statisticsLogger
      bindingTopic := if type = .TOPIC then none else properties.bindingTopic
      consumeFrom := if type = .TOPIC then none else properties.consumeFrom
      broadcast := if type = .TOPIC then none else properties.broadcast
      suspend := if type = .TOPIC then none else properties.suspend }
  if isNotBlank properties.gatedCluster then
    let gatedCluster ← readClusterMetadata clusters (← properties.gatedCluster)
    return { metadata with gatedCluster := some gatedCluster }
  else return metadata

def valueOf (text : Option String) : String := text.getD "null"

@[simp] theorem valueOf_some (text : String) : valueOf (some text) = text := rfl

def gatedClusterName (metadata : ZmsMetadata) : String :=
  match metadata.gatedCluster with
  | none => ""
  | some cluster => if isNotBlank (some cluster.clusterName) then cluster.clusterName else ""

/-- `none` when the metadata has no cluster: an exception. -/
def buildTopicData (metadata : TopicMetadata) : Option Properties :=
  metadata.clusterMetadata.map fun cluster =>
    { clusterName := cluster.clusterName, gatedIps := some (metadata.gatedIps.getD "")
      gatedCluster := some (gatedClusterName metadata), statisticsLogger := none
      bindingTopic := none, broadcast := none, consumeFrom := none, suspend := none }

def buildConsumerGroupData (metadata : ConsumerGroupMetadata) : Option Properties :=
  metadata.clusterMetadata.map fun cluster =>
    { clusterName := cluster.clusterName, gatedIps := some (metadata.gatedIps.getD "")
      gatedCluster := some (gatedClusterName metadata.toZmsMetadata), statisticsLogger := none
      bindingTopic := some (valueOf metadata.bindingTopic), broadcast := some (valueOf metadata.broadcast)
      consumeFrom := some (valueOf metadata.consumeFrom), suspend := some (valueOf metadata.suspend) }

/-- The gated cluster that the data names. -/
def Properties.gated (properties : Properties) : Option String :=
  if isNotBlank properties.gatedCluster then properties.gatedCluster else none

theorem isNotBlank_of_gated {properties : Properties} {gated : String} (isGated : properties.gated = some gated) :
    isNotBlank (some gated) = true := by
  unfold Properties.gated at isGated
  split at isGated
  · next notBlank => exact isGated ▸ notBlank
  · cases isGated

/-- The clusters that the data names can be read. -/
structure Readable (clusters : String → Option ClusterMetadata) (properties : Properties) : Prop where
  cluster : (clusters properties.clusterName).isSome
  gated : ∀ gated, properties.gated = some gated → (clusters gated).isSome

/-- What is read of the data. -/
structure ReadAs (clusters : String → Option ClusterMetadata) (type : ZmsType) (name : String)
    (properties : Properties) (metadata : ConsumerGroupMetadata) : Prop where
  name : metadata.name = name
  clusterMetadata : metadata.clusterMetadata = readClusterMetadata clusters properties.clusterName
  gatedCluster : metadata.gatedCluster = properties.gated.bind (readClusterMetadata clusters)
  gatedIps : metadata.gatedIps = properties.gatedIps
  readable : Readable clusters properties
  group : type = .CONSUMER_GRUOP → metadata.bindingTopic = properties.bindingTopic ∧
    metadata.broadcast = properties.broadcast ∧ metadata.consumeFrom = properties.consumeFrom ∧
    metadata.suspend = properties.suspend

section Reading
variable {clusters : String → Option ClusterMetadata} {type : ZmsType} {name : String} {data : Option Properties}
  {metadata : ConsumerGroupMetadata}

theorem readZkInfo_data (read : readZkInfo clusters type name data = some metadata) :
    ∃ properties, data = some properties := by
  cases data with
  | none => cases read
  | some properties => exact ⟨properties, rfl⟩

theorem readAs_of_readZkInfo {properties : Properties}
    (read : readZkInfo clusters type name (some properties) = some metadata) :
    ReadAs clusters type name properties metadata := by
  unfold readZkInfo at read
  simp only [Option.bind_eq_bind, Option.bind_some, Option.bind_eq_some_iff] at read
  obtain ⟨cluster, found, read⟩ := read
  have isSome : (clusters properties.clusterName).isSome := by
    obtain ⟨stored, known, -⟩ := Option.map_eq_some_iff.mp found
    rw [known]
    rfl
  split at read
  · next notBlank =>
      simp only [Option.bind_eq_some_iff] at read
      obtain ⟨gated, isGated, gatedCluster, gatedFound, same⟩ := read
      obtain rfl := Option.some.inj same
      have names : properties.gated = some gated := by
        unfold Properties.gated
        rw [if_pos notBlank, isGated]
      refine ⟨rfl, found.symm, ?_, rfl, ⟨isSome, ?_⟩, ?_⟩
      · rw [names]
        exact gatedFound.symm
      · intro other isOther
        obtain rfl := Option.some.inj (names.symm.trans isOther)
        obtain ⟨stored, known, -⟩ := Option.map_eq_some_iff.mp gatedFound
        rw [known]
        rfl
      · intro consumer
        subst consumer
        exact ⟨rfl, rfl, rfl, rfl⟩
  · next blank =>
      obtain rfl := Option.some.inj read
      have names : properties.gated = none := if_neg blank
      refine ⟨rfl, found.symm, ?_, rfl, ⟨isSome, ?_⟩, ?_⟩
      · rw [names]
        rfl
      · intro other isOther
        cases names.symm.trans isOther
      · intro consumer
        subst consumer
        exact ⟨rfl, rfl, rfl, rfl⟩

theorem isSome_readZkInfo_iff {properties : Properties} :
    (readZkInfo clusters type name (some properties)).isSome ↔ Readable clusters properties := by
  constructor
  · intro isSome
    obtain ⟨metadata, read⟩ := Option.isSome_iff_exists.mp isSome
    exact (readAs_of_readZkInfo read).readable
  · intro readable
    obtain ⟨cluster, known⟩ := Option.isSome_iff_exists.mp readable.cluster
    have gated := readable.gated
    unfold Properties.gated at gated
    unfold readZkInfo readClusterMetadata
    simp only [Option.bind_eq_bind, Option.bind_some, known, Option.map_some]
    split
    · next notBlank =>
        rw [if_pos notBlank] at gated
        cases names : properties.gatedCluster with
        | none =>
            rw [names] at notBlank
            cases notBlank
        | some other =>
            obtain ⟨gatedCluster, gatedKnown⟩ := Option.isSome_iff_exists.mp (gated other names)
            simp only [Option.bind_some, gatedKnown, Option.map_some]
            rfl
    · rfl

theorem name_of_readZkInfo (read : readZkInfo clusters type name data = some metadata) :
    metadata.name = name := by
  obtain ⟨properties, rfl⟩ := readZkInfo_data read
  exact (readAs_of_readZkInfo read).name

theorem clusterName_of_readClusterMetadata {clusterName : String} (known : (clusters clusterName).isSome) :
    (readClusterMetadata clusters clusterName).map (·.clusterName) = some clusterName := by
  obtain ⟨cluster, is⟩ := Option.isSome_iff_exists.mp known
  unfold readClusterMetadata
  rw [is]
  rfl

/-- The cluster that is read is called by the name in the data. -/
theorem clusterName_of_readZkInfo {properties : Properties}
    (read : readZkInfo clusters type name (some properties) = some metadata) :
    metadata.clusterMetadata.map (·.clusterName) = some properties.clusterName := by
  have readAs := readAs_of_readZkInfo read
  rw [readAs.clusterMetadata]
  exact clusterName_of_readClusterMetadata readAs.readable.cluster

theorem gatedCluster_of_readZkInfo {properties : Properties}
    (read : readZkInfo clusters type name (some properties) = some metadata) :
    metadata.gatedCluster.map (·.clusterName) = properties.gated := by
  have readAs := readAs_of_readZkInfo read
  rw [readAs.gatedCluster]
  cases isGated : properties.gated with
  | none => rfl
  | some gated => exact clusterName_of_readClusterMetadata (readAs.readable.gated gated isGated)

theorem gatedClusterName_of_readZkInfo {properties : Properties}
    (read : readZkInfo clusters type name (some properties) = some metadata) :
    gatedClusterName metadata.toZmsMetadata =
      if isNotBlank properties.gatedCluster then properties.gatedCluster.getD "" else "" := by
  have named := gatedCluster_of_readZkInfo read
  unfold gatedClusterName
  unfold Properties.gated at named
  cases gatedCluster : metadata.gatedCluster with
  | none =>
      rw [gatedCluster] at named
      split at named
      · next notBlank => rw [if_pos notBlank, ← named]; rfl
      · next blank => rw [if_neg blank]
  | some cluster =>
      rw [gatedCluster] at named
      split at named
      · next notBlank =>
          rw [← named] at notBlank ⊢
          rw [if_pos notBlank]
          exact if_pos notBlank
      · cases named

/-- The other fields are read as they are; a topic has only the first. -/
theorem fields_of_readZkInfo {properties : Properties}
    (read : readZkInfo clusters type name (some properties) = some metadata) :
    metadata.gatedIps = properties.gatedIps ∧
      (type = .CONSUMER_GRUOP → metadata.bindingTopic = properties.bindingTopic ∧
        metadata.broadcast = properties.broadcast ∧ metadata.suspend = properties.suspend) := by
  have readAs := readAs_of_readZkInfo read
  refine ⟨readAs.gatedIps, fun consumer => ?_⟩
  obtain ⟨bindingTopic, broadcast, -, suspend⟩ := readAs.group consumer
  exact ⟨bindingTopic, broadcast, suspend⟩

end Reading

end Zms
