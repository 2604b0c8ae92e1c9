import Mathlib
import Zms.Zookeeper.ClusterRoundTrip

/-! Which metadata comes back from the nodes, and which nodes stay as they are when what is
read of them is written back. -/

set_option autoImplicit false

namespace Zms.Zookeeper

open Zms.Text.Properties

def TopicComesBack (nodes : Nodes) (metadata : TopicMetadata) : Prop :=
  ∃ written back, writeTopicMetadata nodes metadata = some written ∧
    readTopicMetadata written metadata.name = some back ∧ SameMetadata metadata back

def ConsumerGroupComesBack (nodes : Nodes) (metadata : ConsumerGroupMetadata) : Prop :=
  ∃ written back, writeConsumerGroupMetadata nodes metadata = some written ∧
    readConsumerGroupMetadata written metadata.name = some back ∧ SameGroup metadata back

/-- What is read is written back, as the callers that change one field do. -/
def writeBack (nodes : Nodes) (name : String) : ZmsType → Option Nodes
  | .TOPIC => (readTopicMetadata nodes name).bind (writeTopicMetadata nodes)
  | .CONSUMER_GRUOP => (readConsumerGroupMetadata nodes name).bind (writeConsumerGroupMetadata nodes)

def writeBackCluster (nodes : Nodes) (clusterName : String) : Option Nodes :=
  (readClusterMetadata nodes clusterName).bind (writeClusterMetadata nodes)

/-- The properties of a node that are read are what they were. -/
def Stays (type : ZmsType) (before : List (String × String)) (data : Option String) : Prop :=
  ∃ after, data.bind parseProperties = some after ∧ Unchanged type before after

def ClusterStays (before : List (String × String)) (data : Option String) : Prop :=
  ∃ after, data.bind parseProperties = some after ∧ UnchangedCluster before after

/-- No written value reaches into the next line. -/
def Ends (type : ZmsType) (metadata : ConsumerGroupMetadata) : Prop :=
  ∀ cluster ∈ metadata.clusterMetadata, Lines Terminated type (propertiesOfMetadata metadata cluster)

def DataEnds (type : ZmsType) (before : List (String × String)) : Prop :=
  ∀ key ∈ interpreted type, ∀ value ∈ getProperty before key, Terminated value

/-- A topic's metadata with the fields of a consumer group. -/
def ofTopic (metadata : TopicMetadata) : ConsumerGroupMetadata :=
  { metadata with bindingTopic := none, consumeFrom := none, broadcast := none, suspend := none }

section Topics
variable {nodes : Nodes} {metadata : TopicMetadata}

theorem topicComesBack_iff {cluster : ClusterMetadata} (isCluster : metadata.clusterMetadata = some cluster) :
    TopicComesBack nodes metadata ↔ ∃ back, readData nodes .TOPIC metadata.name
        (text (linesOf .TOPIC (propertiesOfMetadata (ofTopic metadata) cluster))) = some back ∧
      Same .TOPIC (ofTopic metadata) back := by
  have lines := topicLines_eq (ofTopic metadata) cluster
  have writes : writeTopicMetadata nodes metadata = some { nodes with
      topics := Function.update nodes.topics metadata.name (some (text (topicLines metadata cluster))) } := by
    rw [writeTopicMetadata, buildTopicData, isCluster]
    rfl
  have reads : readZkInfo { nodes with
      topics := Function.update nodes.topics metadata.name (some (text (topicLines metadata cluster))) } .TOPIC
        metadata.name = readData nodes .TOPIC metadata.name (text (topicLines metadata cluster)) := by
    simp only [readZkInfo, Nodes.data, Function.update_self]
    rfl
  rw [← lines]
  constructor
  · rintro ⟨written, back, isWritten, read, same⟩
    obtain rfl := Option.some.inj (writes.symm.trans isWritten)
    rw [readTopicMetadata, reads] at read
    obtain ⟨found, isFound, rfl⟩ := Option.map_eq_some_iff.mp read
    exact ⟨found, isFound, same, by simp⟩
  · rintro ⟨back, read, same⟩
    refine ⟨_, back.toZmsMetadata, writes, ?_, same.same⟩
    rw [readTopicMetadata, reads]
    exact congrArg (Option.map (·.toZmsMetadata)) read

theorem keptAs_ofTopic_iff {cluster : ClusterMetadata} :
    KeptAs .TOPIC (ofTopic metadata) cluster ↔ Kept .TOPIC metadata :=
  ⟨fun kept => kept.kept, fun kept => ⟨kept, by simp [groupKeys]⟩⟩

theorem topicComesBack_of_kept (read : ClustersRead nodes metadata) (kept : Kept .TOPIC metadata) :
    TopicComesBack nodes metadata := by
  obtain ⟨clusterName, isName, -⟩ := kept.clusterMetadata
  obtain ⟨cluster, isCluster, -⟩ := Option.map_eq_some_iff.mp isName
  exact (topicComesBack_iff isCluster).mpr
    (@exists_readData_of_kept _ _ (ofTopic metadata) _ isCluster read (keptAs_ofTopic_iff.mpr kept))

theorem kept_of_topicComesBack (ends : Ends .TOPIC (ofTopic metadata)) (back : TopicComesBack nodes metadata) :
    Kept .TOPIC metadata := by
  cases isCluster : metadata.clusterMetadata with
  | none =>
    obtain ⟨written, -, writes, -⟩ := back
    rw [writeTopicMetadata, buildTopicData, isCluster] at writes
    cases writes
  | some cluster =>
    obtain ⟨found, read, same⟩ := (topicComesBack_iff isCluster).mp back
    exact keptAs_ofTopic_iff.mp
      (@kept_of_readData _ _ (ofTopic metadata) _ isCluster (ends cluster isCluster) _ read same)

end Topics

section ConsumerGroups
variable {nodes : Nodes} {metadata : ConsumerGroupMetadata}

theorem consumerGroupComesBack_iff {cluster : ClusterMetadata} (isCluster : metadata.clusterMetadata = some cluster) :
    ConsumerGroupComesBack nodes metadata ↔ ∃ back, readData nodes .CONSUMER_GRUOP metadata.name
        (text (linesOf .CONSUMER_GRUOP (propertiesOfMetadata metadata cluster))) = some back ∧
      Same .CONSUMER_GRUOP metadata back := by
  have writes : writeConsumerGroupMetadata nodes metadata = some { nodes with
      consumergroups := Function.update nodes.consumergroups metadata.name
        (some (text (consumerGroupLines metadata cluster))) } := by
    rw [writeConsumerGroupMetadata, buildConsumerGroupData, isCluster]
    rfl
  have reads : readZkInfo { nodes with
      consumergroups := Function.update nodes.consumergroups metadata.name
        (some (text (consumerGroupLines metadata cluster))) } .CONSUMER_GRUOP metadata.name =
        readData nodes .CONSUMER_GRUOP metadata.name (text (consumerGroupLines metadata cluster)) := by
    simp only [readZkInfo, Nodes.data, Function.update_self]
    rfl
  rw [← consumerGroupLines_eq metadata cluster]
  constructor
  · rintro ⟨written, back, isWritten, read, ⟨same, bindingTopic, consumeFrom, broadcast, suspend⟩⟩
    obtain rfl := Option.some.inj (writes.symm.trans isWritten)
    rw [readConsumerGroupMetadata, reads] at read
    exact ⟨back, read, same, fun _ => ⟨bindingTopic.symm, broadcast.symm, consumeFrom.symm, suspend.symm⟩⟩
  · rintro ⟨back, read, same, group⟩
    obtain ⟨bindingTopic, broadcast, consumeFrom, suspend⟩ := group rfl
    refine ⟨_, back, writes, ?_, same, bindingTopic.symm, consumeFrom.symm, broadcast.symm, suspend.symm⟩
    rw [readConsumerGroupMetadata, reads]
    exact read

theorem keptAs_iff {cluster : ClusterMetadata} :
    KeptAs .CONSUMER_GRUOP metadata cluster ↔ KeptGroup metadata := by
  constructor
  · rintro ⟨kept, group⟩
    exact ⟨kept, group "bindingTopic" (by simp [groupKeys]), group "consumeFrom" (by simp [groupKeys]),
      group "broadcast" (by simp [groupKeys]), group "suspend" (by simp [groupKeys])⟩
  · rintro ⟨kept, bindingTopic, consumeFrom, broadcast, suspend⟩
    refine ⟨kept, fun key isGroup => ?_⟩
    simp only [groupKeys, List.mem_cons, List.not_mem_nil, or_false] at isGroup
    rcases isGroup with rfl | rfl | rfl | rfl
    · exact bindingTopic
    · exact broadcast
    · exact consumeFrom
    · exact suspend

theorem consumerGroupComesBack_of_kept (read : ClustersRead nodes metadata.toZmsMetadata)
    (kept : KeptGroup metadata) : ConsumerGroupComesBack nodes metadata := by
  obtain ⟨clusterName, isName, -⟩ := kept.toZmsMetadata.clusterMetadata
  obtain ⟨cluster, isCluster, -⟩ := Option.map_eq_some_iff.mp isName
  exact (consumerGroupComesBack_iff isCluster).mpr (exists_readData_of_kept isCluster read (keptAs_iff.mpr kept))

theorem kept_of_consumerGroupComesBack (ends : Ends .CONSUMER_GRUOP metadata)
    (back : ConsumerGroupComesBack nodes metadata) : KeptGroup metadata := by
  cases isCluster : metadata.clusterMetadata with
  | none =>
    obtain ⟨written, -, writes, -⟩ := back
    rw [writeConsumerGroupMetadata, buildConsumerGroupData, isCluster] at writes
    cases writes
  | some cluster =>
    obtain ⟨found, read, same⟩ := (consumerGroupComesBack_iff isCluster).mp back
    exact keptAs_iff.mp (kept_of_readData isCluster (ends cluster isCluster) read same)

end ConsumerGroups

section WriteBack
variable {nodes written : Nodes} {type : ZmsType} {name : String} {before : List (String × String)}

/-- What is written back has the lines of what was read. -/
theorem writeBack_data (loads : (nodes.data type name).bind parseProperties = some before)
    (writes : writeBack nodes name type = some written) :
    ∃ properties, ReadOf type properties before ∧ written.data type name = some (text (linesOf type properties)) := by
  obtain ⟨data, isData, parses⟩ := Option.bind_eq_some_iff.mp loads
  have readIs : ∀ {metadata}, readZkInfo nodes type name = some metadata →
      Zms.readZkInfo (readClusterMetadata nodes) type name (some (propertiesOf before)) = some metadata := by
    intro metadata read
    simpa only [readZkInfo, isData, Option.bind_eq_bind, Option.bind_some, parses] using read
  cases type with
  | TOPIC =>
    obtain ⟨topic, isTopic, writesTopic⟩ := Option.bind_eq_some_iff.mp writes
    obtain ⟨metadata, read, rfl⟩ := Option.map_eq_some_iff.mp isTopic
    obtain ⟨built, isBuilt, rfl⟩ := Option.map_eq_some_iff.mp writesTopic
    obtain ⟨cluster, isCluster, rfl⟩ := Option.map_eq_some_iff.mp isBuilt
    refine ⟨_, readOf_of_readZkInfo (readIs read) isCluster, ?_⟩
    rw [← topicLines_eq]
    show Function.update nodes.topics metadata.name _ name = _
    rw [name_of_readZkInfo (readIs read), Function.update_self]
  | CONSUMER_GRUOP =>
    obtain ⟨metadata, read, writesGroup⟩ := Option.bind_eq_some_iff.mp writes
    obtain ⟨built, isBuilt, rfl⟩ := Option.map_eq_some_iff.mp writesGroup
    obtain ⟨cluster, isCluster, rfl⟩ := Option.map_eq_some_iff.mp isBuilt
    refine ⟨_, readOf_of_readZkInfo (readIs read) isCluster, ?_⟩
    rw [← consumerGroupLines_eq]
    show Function.update nodes.consumergroups metadata.name _ name = _
    rw [name_of_readZkInfo (readIs read), Function.update_self]

theorem lines_terminated {properties : Properties} (read : ReadOf type properties before)
    (ends : DataEnds type before) : Lines Terminated type properties := by
  have null : Terminated "null" := by decide
  have empty : Terminated "" := by decide
  have valueEnds : ∀ key ∈ interpreted type, Terminated (valueOf (getProperty before key)) := by
    intro key isKey
    cases value : getProperty before key with
    | none => exact null
    | some value' => exact ends key isKey value' value
  refine (lines_iff (P := Terminated) (by cases type <;> decide)).mpr ⟨?_, ?_, ?_, fun key isGroup => ?_⟩
  · rw [read.clusterName]
    exact valueEnds _ (by simp [interpreted])
  · rw [read.gatedIps]
    cases value : getProperty before "gatedIps" with
    | none => exact empty
    | some ips => exact ends "gatedIps" (by simp [interpreted]) ips value
  · rw [gatedLine_of_readOf read, gatedLine]
    split
    · cases value : (propertiesOf before).gatedCluster with
      | none => exact empty
      | some gated => exact ends "gatedCluster" (by simp [interpreted]) gated value
    · exact empty
  · rw [read.group key isGroup]
    exact valueEnds key (List.mem_append_right _ isGroup)

theorem stays_of_keptData (loads : (nodes.data type name).bind parseProperties = some before)
    (writes : writeBack nodes name type = some written) (kept : KeptData type before) :
    Stays type before (written.data type name) := by
  obtain ⟨properties, read, data⟩ := writeBack_data loads writes
  rw [data]
  exact unchanged_of_keptData read kept

theorem keptData_of_stays (loads : (nodes.data type name).bind parseProperties = some before)
    (writes : writeBack nodes name type = some written) (ends : DataEnds type before)
    (stays : Stays type before (written.data type name)) : KeptData type before := by
  obtain ⟨properties, read, data⟩ := writeBack_data loads writes
  rw [data] at stays
  obtain ⟨after, parses, unchanged⟩ := stays
  exact keptData_of_unchanged read (lines_terminated read ends) parses unchanged

theorem clusterStays_iff (loads : (nodes.clusters name).bind parseProperties = some before)
    (writes : writeBackCluster nodes name = some written) :
    ClusterStays before (written.clusters name) ↔ KeptClusterData before := by
  obtain ⟨data, isData, parses⟩ := Option.bind_eq_some_iff.mp loads
  obtain ⟨cluster, read, writesCluster⟩ := Option.bind_eq_some_iff.mp writes
  have nonempty : data ≠ "" := by
    rintro rfl
    simp [readClusterMetadata, isData] at read
  obtain ⟨loaded, isLoaded, sameName, bootAddr, parsesType, serverIps⟩ :=
    (readClusterMetadata_eq_some_iff isData nonempty).mp read
  obtain rfl := Option.some.inj (parses.symm.trans isLoaded)
  obtain ⟨built, isBuilt, rfl⟩ := Option.map_eq_some_iff.mp writesCluster
  obtain ⟨brokerType, isBroker, rfl⟩ := Option.map_eq_some_iff.mp isBuilt
  rw [isBroker] at parsesType
  rw [← unchangedCluster_iff bootAddr parsesType serverIps, ← sameName]
  show ClusterStays _ (Function.update nodes.clusters cluster.clusterName _ cluster.clusterName) ↔ _
  rw [Function.update_self]
  rfl

end WriteBack

/-- The codec is the identity on what is kept, and on nothing else that ends its lines. -/
theorem codec_identity (nodes : Nodes) :
    (∀ cluster, ClusterComesBack nodes cluster ↔ KeptCluster cluster) ∧
    (∀ metadata : TopicMetadata,
      (ClustersRead nodes metadata → Kept .TOPIC metadata → TopicComesBack nodes metadata) ∧
      (Ends .TOPIC (ofTopic metadata) → TopicComesBack nodes metadata → Kept .TOPIC metadata)) ∧
    (∀ metadata : ConsumerGroupMetadata,
      (ClustersRead nodes metadata.toZmsMetadata → KeptGroup metadata → ConsumerGroupComesBack nodes metadata) ∧
      (Ends .CONSUMER_GRUOP metadata → ConsumerGroupComesBack nodes metadata → KeptGroup metadata)) ∧
    (∀ type name before written, (nodes.data type name).bind parseProperties = some before →
      writeBack nodes name type = some written →
      (KeptData type before → Stays type before (written.data type name)) ∧
      (DataEnds type before → Stays type before (written.data type name) → KeptData type before)) ∧
    (∀ name before written, (nodes.clusters name).bind parseProperties = some before →
      writeBackCluster nodes name = some written →
      (ClusterStays before (written.clusters name) ↔ KeptClusterData before)) := by
  refine ⟨clusterComesBack_iff nodes, ?_, ?_, ?_, ?_⟩
  · exact fun metadata => ⟨topicComesBack_of_kept, kept_of_topicComesBack⟩
  · exact fun metadata => ⟨consumerGroupComesBack_of_kept, kept_of_consumerGroupComesBack⟩
  · intro type name before written loads writes
    exact ⟨stays_of_keptData loads writes, keptData_of_stays loads writes⟩
  · intro name before written loads writes
    exact clusterStays_iff loads writes

def oneCluster : Nodes where
  clusters clusterName :=
    if clusterName = "main" then some "bootAddr=kafka1:9092\nbrokerType=kafka\nserverIps=10.0.0.1" else none
  topics name := if name = "counted" then
    some "clusterName=main\ngatedIps=\ngatedCluster=\nstatisticsLogger=file" else none
  consumergroups _ := none

/-- A consumer group of the cluster; the portal leaves `consumeFrom` absent. -/
def groupFrom (consumeFrom : Option String) : ConsumerGroupMetadata :=
  { type := "consumergroup", name := "orders", clusterMetadata := some ⟨"main", none, none, none⟩, domain := none
    gatedIps := some "10.0.0.7", gatedCluster := none, statisticsLogger := none, bindingTopic := some "orders"
    consumeFrom, broadcast := some "false", suspend := some "false" }

theorem codec_identity_group : KeptGroup (groupFrom (some "latest")) ∧
    ConsumerGroupComesBack oneCluster (groupFrom (some "latest")) := by
  have kept : KeptGroup (groupFrom (some "latest")) := by
    refine ⟨⟨rfl, rfl, rfl, ⟨"main", rfl, by decide⟩, ⟨"10.0.0.7", rfl, by decide⟩, ?_⟩,
      ⟨"orders", rfl, by decide⟩, ⟨"latest", rfl, by decide⟩, ⟨"false", rfl, by decide⟩, ⟨"false", rfl, by decide⟩⟩
    intro gated isGated
    cases isGated
  have read : ClustersRead oneCluster (groupFrom (some "latest")).toZmsMetadata := by
    refine ⟨fun cluster isCluster => ?_, fun gated isGated => ?_⟩
    · cases isCluster
      decide
    · cases isGated
  exact ⟨kept, ((codec_identity oneCluster).2.2.1 _).1 read kept⟩

/-- An absent `consumeFrom` comes back as the text `null`, a boot address without its
backslash, and the statistics logger is gone when the topic is written back. -/
theorem codec_not_identity :
    ¬ ConsumerGroupComesBack oneCluster (groupFrom none) ∧
    ¬ ClusterComesBack oneCluster ⟨"other", some "kafka\\1:9092", some .KAFKA, some "10.0.0.1"⟩ ∧
    ∃ before written, (oneCluster.data .TOPIC "counted").bind parseProperties = some before ∧
      writeBack oneCluster "counted" .TOPIC = some written ∧ ¬ Stays .TOPIC before (written.data .TOPIC "counted") := by
  refine ⟨fun back => ?_, fun back => ?_, ?_⟩
  · have ends : Ends .CONSUMER_GRUOP (groupFrom none) := by
      intro cluster isCluster
      cases isCluster
      simp only [Lines, linesOf, groupLines, gateLines, propertiesOfMetadata]
      decide
    obtain ⟨value, absent, -⟩ := (kept_of_consumerGroupComesBack ends back).consumeFrom
    cases absent
  · obtain ⟨address, is, plain⟩ := ((clusterComesBack_iff _ _).mp back).bootAddr
    cases is
    revert plain
    decide
  · have loads : (oneCluster.data .TOPIC "counted").bind parseProperties = some [("clusterName", "main"),
        ("gatedIps", ""), ("gatedCluster", ""), ("statisticsLogger", "file")] := by decide +kernel
    obtain ⟨written, writes⟩ := Option.isSome_iff_exists.mp
      (by decide +kernel : (writeBack oneCluster "counted" .TOPIC).isSome = true)
    refine ⟨_, written, loads, writes, fun stays => ?_⟩
    have ends : DataEnds .TOPIC [("clusterName", "main"), ("gatedIps", ""), ("gatedCluster", ""),
        ("statisticsLogger", "file")] := by
      unfold DataEnds
      decide
    have logger := (keptData_of_stays loads writes ends stays).statisticsLogger
    revert logger
    decide

end Zms.Zookeeper
