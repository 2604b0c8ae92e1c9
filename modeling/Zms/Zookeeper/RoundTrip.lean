import Mathlib
import Zms.Zookeeper.Lines

/-! Metadata that is written and read again, and data that is read and written back. -/

set_option autoImplicit false

namespace Zms.Zookeeper

open Zms.Text.Properties

/-- Every field is the same; clusters are compared by their names. -/
structure SameMetadata (metadata back : ZmsMetadata) : Prop where
  type : back.type = metadata.type
  name : back.name = metadata.name
  clusterMetadata : back.clusterMetadata.map (·.clusterName) = metadata.clusterMetadata.map (·.clusterName)
  domain : back.domain = metadata.domain
  gatedIps : back.gatedIps = metadata.gatedIps
  gatedCluster : back.gatedCluster.map (·.clusterName) = metadata.gatedCluster.map (·.clusterName)
  statisticsLogger : back.statisticsLogger = metadata.statisticsLogger

structure SameGroup (metadata back : ConsumerGroupMetadata) : Prop where
  toZmsMetadata : SameMetadata metadata.toZmsMetadata back.toZmsMetadata
  bindingTopic : back.bindingTopic = metadata.bindingTopic
  consumeFrom : back.consumeFrom = metadata.consumeFrom
  broadcast : back.broadcast = metadata.broadcast
  suspend : back.suspend = metadata.suspend

/-- A field that is there and needs no escapes. -/
def PlainField (field : Option String) : Prop := ∃ value, field = some value ∧ Plain value

/-- What metadata has to be to come back: it has no field that is not written, and all that
are. -/
structure Kept (type : ZmsType) (metadata : ZmsMetadata) : Prop where
  type : metadata.type = type.getName
  domain : metadata.domain = none
  statisticsLogger : metadata.statisticsLogger = none
  clusterMetadata : PlainField (metadata.clusterMetadata.map (·.clusterName))
  gatedIps : PlainField metadata.gatedIps
  gatedCluster : ∀ gated ∈ metadata.gatedCluster,
    isNotBlank (some gated.clusterName) = true ∧ Plain gated.clusterName

structure KeptGroup (metadata : ConsumerGroupMetadata) : Prop where
  toZmsMetadata : Kept .CONSUMER_GRUOP metadata.toZmsMetadata
  bindingTopic : PlainField metadata.bindingTopic
  consumeFrom : PlainField metadata.consumeFrom
  broadcast : PlainField metadata.broadcast
  suspend : PlainField metadata.suspend

/-- The clusters of the metadata can be read. -/
structure ClustersRead (nodes : Nodes) (metadata : ZmsMetadata) : Prop where
  cluster : ∀ cluster ∈ metadata.clusterMetadata, (readClusterMetadata nodes cluster.clusterName).isSome
  gated : ∀ gated ∈ metadata.gatedCluster, (readClusterMetadata nodes gated.clusterName).isSome

section Reading
variable {clusters : String → Option ClusterMetadata} {type : ZmsType} {name : String}
  {metadata : ConsumerGroupMetadata} {properties : Properties}

theorem unwritten_of_readZkInfo (read : Zms.readZkInfo clusters type name (some properties) = some metadata) :
    metadata.type = type.getName ∧ metadata.domain = none ∧
      metadata.statisticsLogger = properties.statisticsLogger := by
  unfold Zms.readZkInfo at read
  simp only [Option.bind_eq_bind, Option.bind_some, Option.bind_eq_some_iff] at read
  obtain ⟨cluster, found, read⟩ := read
  split at read
  · simp only [Option.bind_eq_some_iff] at read
    obtain ⟨gated, isGated, gatedCluster, gatedFound, same⟩ := read
    obtain rfl := Option.some.inj same
    exact ⟨rfl, rfl, rfl⟩
  · obtain rfl := Option.some.inj read
    exact ⟨rfl, rfl, rfl⟩

end Reading

theorem groupField_propertiesOf {type : ZmsType} {key : String} (group : key ∈ groupKeys type)
    (loaded : List (String × String)) : groupField (propertiesOf loaded) key = getProperty loaded key := by
  cases type with
  | TOPIC => cases group
  | CONSUMER_GRUOP =>
    simp only [groupKeys, List.mem_cons, List.not_mem_nil, or_false] at group
    rcases group with rfl | rfl | rfl | rfl <;> rfl

theorem groupField_eq_iff {type : ZmsType} {properties others : Properties} :
    (∀ key ∈ groupKeys type, groupField properties key = groupField others key) ↔
      (type = .CONSUMER_GRUOP → properties.bindingTopic = others.bindingTopic ∧
        properties.broadcast = others.broadcast ∧ properties.consumeFrom = others.consumeFrom ∧
        properties.suspend = others.suspend) := by
  cases type with
  | TOPIC => simp [groupKeys]
  | CONSUMER_GRUOP => simp [groupKeys, groupField]

/-- What comes back of either kind, a topic without the last four. -/
structure Same (type : ZmsType) (metadata back : ConsumerGroupMetadata) : Prop where
  same : SameMetadata metadata.toZmsMetadata back.toZmsMetadata
  group : type = .CONSUMER_GRUOP → metadata.bindingTopic = back.bindingTopic ∧ metadata.broadcast = back.broadcast ∧
    metadata.consumeFrom = back.consumeFrom ∧ metadata.suspend = back.suspend

structure KeptAs (type : ZmsType) (metadata : ConsumerGroupMetadata) (cluster : ClusterMetadata) : Prop where
  kept : Kept type metadata.toZmsMetadata
  group : ∀ key ∈ groupKeys type, PlainField (groupField (propertiesOfMetadata metadata cluster) key)

section Lines
variable {clusters : String → Option ClusterMetadata} {type : ZmsType} {name : String} {properties : Properties}

theorem propertiesOf_linesOf : (propertiesOf (linesOf type properties)).clusterName = properties.clusterName ∧
    (propertiesOf (linesOf type properties)).gatedIps = some (properties.gatedIps.getD "") ∧
    (propertiesOf (linesOf type properties)).gatedCluster = some (gatedLine properties) ∧
    (propertiesOf (linesOf type properties)).statisticsLogger = none := by
  refine ⟨?_, ?_, ?_, statisticsLogger_linesOf type properties⟩
  · exact congrArg valueOf (getProperty_linesOf type properties (clusterName_mem_linesOf type properties))
  · exact getProperty_linesOf type properties (gatedIps_mem_linesOf type properties)
  · exact getProperty_linesOf type properties (gatedCluster_mem_linesOf type properties)

theorem gated_linesOf : (propertiesOf (linesOf type properties)).gated = properties.gated := by
  have gatedCluster := (@propertiesOf_linesOf type properties).2.2.1
  rw [Properties.gated, gatedCluster, gatedLine, Properties.gated]
  cases gated : properties.gatedCluster with
  | none => rfl
  | some name =>
    by_cases notBlank : isNotBlank (some name) = true
    · simp [notBlank]
    · have blank : (if isNotBlank (some name) = true then (some name).getD "" else "") = "" := if_neg notBlank
      rw [blank, if_neg notBlank]
      rfl

theorem groupField_linesOf {key : String} (group : key ∈ groupKeys type) :
    groupField (propertiesOf (linesOf type properties)) key = some (valueOf (groupField properties key)) := by
  rw [groupField_propertiesOf group]
  exact getProperty_linesOf type properties (groupField_mem_linesOf group properties)

theorem lines_iff {P : String → Prop} (typeLine : P type.getName) : Lines P type properties ↔
    P properties.clusterName ∧ P (properties.gatedIps.getD "") ∧ P (gatedLine properties) ∧
      ∀ key ∈ groupKeys type, P (valueOf (groupField properties key)) := by
  constructor
  · intro all
    exact ⟨all _ (clusterName_mem_linesOf type properties), all _ (gatedIps_mem_linesOf type properties),
      all _ (gatedCluster_mem_linesOf type properties),
      fun key group => all _ (groupField_mem_linesOf group properties)⟩
  · rintro ⟨clusterName, gatedIps, gatedCluster, group⟩ entry member
    rcases mem_linesOf member with rfl | rfl | rfl | rfl | ⟨key, isGroup, rfl⟩
    · exact clusterName
    · exact typeLine
    · exact gatedIps
    · exact gatedCluster
    · exact group key isGroup

theorem lines_plain_iff : Lines Plain type properties ↔
    Plain properties.clusterName ∧ Plain (properties.gatedIps.getD "") ∧ Plain (gatedLine properties) ∧
      ∀ key ∈ groupKeys type, Plain (valueOf (groupField properties key)) := by
  apply lines_iff
  cases type <;> decide

/-- What is read of a text that gives the properties back agrees with them. -/
theorem agrees_of_read {loaded : List (String × String)} {back : ConsumerGroupMetadata}
    (read : Zms.readZkInfo clusters type name (some (propertiesOf loaded)) = some back)
    (clusterName : back.clusterMetadata.map (·.clusterName) = some properties.clusterName)
    (gatedIps : back.gatedIps = properties.gatedIps)
    (gatedCluster : isNotBlank properties.gatedCluster = true →
      back.gatedCluster.map (·.clusterName) = properties.gatedCluster)
    (group : ∀ key ∈ groupKeys type, groupField (propertiesOf loaded) key = groupField properties key) :
    Agrees type properties loaded where
  clusterName := Option.some.inj ((clusterName_of_readZkInfo read).symm.trans clusterName)
  gatedIps ips isIps := by
    have readIps : back.gatedIps = getProperty loaded "gatedIps" := (readAs_of_readZkInfo read).gatedIps
    rw [← readIps, gatedIps, isIps]
  gatedCluster notBlank := by
    have gated := (gatedCluster_of_readZkInfo read).symm.trans (gatedCluster notBlank)
    rw [Properties.gated] at gated
    split at gated
    · exact gated
    · rw [← gated] at notBlank
      cases notBlank
  group key isGroup value isValue := by
    rw [← groupField_propertiesOf isGroup, group key isGroup, isValue]

end Lines

section Metadata
variable {nodes : Nodes} {type : ZmsType} {metadata : ConsumerGroupMetadata} {cluster : ClusterMetadata}

/-- What is read of the data of a node. -/
def readData (nodes : Nodes) (type : ZmsType) (name data : String) : Option ConsumerGroupMetadata := do
  let properties ← parseProperties data
  Zms.readZkInfo (readClusterMetadata nodes) type name (some (propertiesOf properties))

theorem exists_readData_of_kept (isCluster : metadata.clusterMetadata = some cluster)
    (read : ClustersRead nodes metadata.toZmsMetadata) (kept : KeptAs type metadata cluster) :
    ∃ back, readData nodes type metadata.name (text (linesOf type (propertiesOfMetadata metadata cluster))) =
      some back ∧ Same type metadata back := by
  obtain ⟨⟨typeIs, domain, statisticsLogger, clusterPlain, gatedIpsPlain, gatedPlain⟩, group⟩ := kept
  set properties := propertiesOfMetadata metadata cluster with isProperties
  obtain ⟨ips, isIps, plainIps⟩ := gatedIpsPlain
  have plainCluster : Plain properties.clusterName := by
    obtain ⟨clusterName, isName, plain⟩ := clusterPlain
    rw [isCluster] at isName
    have same : cluster.clusterName = clusterName := Option.some.inj isName
    show Plain cluster.clusterName
    rwa [same]
  have sameIps : properties.gatedIps.getD "" = ips := by
    show metadata.gatedIps.getD "" = ips
    rw [isIps]
    rfl
  have gatedName : properties.gated = metadata.gatedCluster.map (·.clusterName) := by
    rw [Properties.gated]
    cases gated : metadata.gatedCluster with
    | none =>
      have none : properties.gatedCluster = none := by rw [isProperties, propertiesOfMetadata, gated]; rfl
      rw [none]
      rfl
    | some gatedCluster =>
      have some : properties.gatedCluster = some gatedCluster.clusterName := by
        rw [isProperties, propertiesOfMetadata, gated]
        rfl
      rw [some, if_pos (gatedPlain _ gated).1]
      rfl
  have plainGated : Plain (gatedLine properties) := by
    have named : properties.gatedCluster = metadata.gatedCluster.map (·.clusterName) := rfl
    rw [gatedLine, named]
    cases gated : metadata.gatedCluster with
    | none => exact plain_empty
    | some gatedCluster =>
      rw [Option.map_some, if_pos (gatedPlain _ gated).1]
      exact (gatedPlain _ gated).2
  have plain : Lines Plain type properties := by
    refine lines_plain_iff.mpr ⟨plainCluster, by rwa [sameIps], plainGated, fun key isGroup => ?_⟩
    obtain ⟨value, is, plainValue⟩ := group key isGroup
    rw [is]
    exact plainValue
  obtain ⟨sameName, sameGatedIps, -, noLogger⟩ := @propertiesOf_linesOf type properties
  have readable : Readable (readClusterMetadata nodes) (propertiesOf (linesOf type properties)) := by
    refine ⟨?_, fun gated isGated => ?_⟩
    · rw [sameName]
      exact read.cluster cluster isCluster
    · rw [gated_linesOf, gatedName] at isGated
      obtain ⟨gatedCluster, is, rfl⟩ := Option.map_eq_some_iff.mp isGated
      exact read.gated gatedCluster is
  obtain ⟨back, isBack⟩ := Option.isSome_iff_exists.mp
    ((@isSome_readZkInfo_iff _ type metadata.name _).mpr readable)
  refine ⟨back, ?_, ?_⟩
  · rw [readData, parseProperties_of_plain plain]
    exact isBack
  · obtain ⟨backType, backDomain, backLogger⟩ := unwritten_of_readZkInfo isBack
    have readAs := readAs_of_readZkInfo isBack
    refine ⟨⟨?_, readAs.name, ?_, ?_, ?_, ?_, ?_⟩, ?_⟩
    · rw [backType, typeIs]
    · rw [clusterName_of_readZkInfo isBack, sameName, isCluster]
      rfl
    · rw [backDomain, domain]
    · rw [readAs.gatedIps, sameGatedIps, sameIps, isIps]
    · rw [gatedCluster_of_readZkInfo isBack, gated_linesOf, gatedName]
    · rw [backLogger, noLogger, statisticsLogger]
    · intro isGroup
      have fields : ∀ key ∈ groupKeys type, groupField properties key =
          groupField (propertiesOf (linesOf type properties)) key := by
        intro key member
        obtain ⟨value, is, -⟩ := group key member
        rw [groupField_linesOf member, is]
        rfl
      obtain ⟨bindingTopic, broadcast, consumeFrom, suspend⟩ := groupField_eq_iff.mp fields isGroup
      obtain ⟨backTopic, backBroadcast, backFrom, backSuspend⟩ := readAs.group isGroup
      rw [backTopic, backBroadcast, backFrom, backSuspend]
      exact ⟨bindingTopic, broadcast, consumeFrom, suspend⟩

theorem kept_of_readData (isCluster : metadata.clusterMetadata = some cluster)
    (terminated : Lines Terminated type (propertiesOfMetadata metadata cluster)) {back : ConsumerGroupMetadata}
    (read : readData nodes type metadata.name (text (linesOf type (propertiesOfMetadata metadata cluster))) =
      some back) (same : Same type metadata back) : KeptAs type metadata cluster := by
  obtain ⟨sameMetadata, sameGroup⟩ := same
  obtain ⟨loaded, loads, isRead⟩ := Option.bind_eq_some_iff.mp read
  have readAs := readAs_of_readZkInfo isRead
  have fields : ∀ key ∈ groupKeys type, groupField (propertiesOf loaded) key =
      groupField (propertiesOfMetadata metadata cluster) key := by
    apply groupField_eq_iff.mpr
    intro isGroup
    obtain ⟨backTopic, backBroadcast, backFrom, backSuspend⟩ := readAs.group isGroup
    obtain ⟨bindingTopic, broadcast, consumeFrom, suspend⟩ := sameGroup isGroup
    exact ⟨(bindingTopic.trans backTopic).symm, (broadcast.trans backBroadcast).symm,
      (consumeFrom.trans backFrom).symm, (suspend.trans backSuspend).symm⟩
  have agrees : Agrees type (propertiesOfMetadata metadata cluster) loaded := by
    apply agrees_of_read isRead _ sameMetadata.gatedIps (fun _ => sameMetadata.gatedCluster) fields
    rw [sameMetadata.clusterMetadata, isCluster]
    rfl
  obtain ⟨plain, rfl⟩ := loaded_of_agrees terminated loads agrees
  obtain ⟨plainCluster, plainIps, plainGated, plainGroup⟩ := lines_plain_iff.mp plain
  obtain ⟨backType, backDomain, backLogger⟩ := unwritten_of_readZkInfo isRead
  obtain ⟨-, sameIps, -, noLogger⟩ := @propertiesOf_linesOf type (propertiesOfMetadata metadata cluster)
  refine ⟨⟨?_, ?_, ?_, ?_, ?_, ?_⟩, ?_⟩
  · rw [← sameMetadata.type, backType]
  · rw [← sameMetadata.domain, backDomain]
  · rw [← sameMetadata.statisticsLogger, backLogger, noLogger]
  · exact ⟨cluster.clusterName, by rw [isCluster]; rfl, plainCluster⟩
  · exact ⟨_, sameMetadata.gatedIps.symm.trans (readAs.gatedIps.trans sameIps), plainIps⟩
  · intro gated isGated
    have names := gatedCluster_of_readZkInfo isRead
    rw [sameMetadata.gatedCluster, isGated, gated_linesOf] at names
    have notBlank := isNotBlank_of_gated names.symm
    refine ⟨notBlank, ?_⟩
    have named : (propertiesOfMetadata metadata cluster).gatedCluster = some gated.clusterName := by
      rw [propertiesOfMetadata, isGated]
      rfl
    rw [gatedLine, named, if_pos notBlank] at plainGated
    exact plainGated
  · intro key isGroup
    exact ⟨_, (fields key isGroup).symm.trans (groupField_linesOf isGroup), plainGroup key isGroup⟩

end Metadata

/-- The properties that are read of a node. -/
def interpreted (type : ZmsType) : List String :=
  ["clusterName", "gatedIps", "gatedCluster", "statisticsLogger"] ++ groupKeys type

def Unchanged (type : ZmsType) (before after : List (String × String)) : Prop :=
  ∀ key ∈ interpreted type, getProperty after key = getProperty before key

/-- What the data of a node has to be to stay as it is. -/
structure KeptData (type : ZmsType) (properties : List (String × String)) : Prop where
  clusterName : PlainField (getProperty properties "clusterName")
  gatedIps : PlainField (getProperty properties "gatedIps")
  gatedCluster : ∃ gated, getProperty properties "gatedCluster" = some gated ∧ Plain gated ∧
    (gated = "" ∨ isNotBlank (some gated) = true)
  statisticsLogger : getProperty properties "statisticsLogger" = none
  group : ∀ key ∈ groupKeys type, PlainField (getProperty properties key)

section WriteBack
variable {nodes : Nodes} {type : ZmsType} {name : String} {metadata : ConsumerGroupMetadata}
  {cluster : ClusterMetadata} {before : List (String × String)}

/-- Of what is read, the properties are what they were, without a blank gated cluster. -/
structure ReadOf (type : ZmsType) (properties : Properties) (before : List (String × String)) : Prop where
  clusterName : properties.clusterName = valueOf (getProperty before "clusterName")
  gatedIps : properties.gatedIps = getProperty before "gatedIps"
  gatedCluster : properties.gatedCluster = (propertiesOf before).gated
  group : ∀ key ∈ groupKeys type, groupField properties key = getProperty before key

theorem readOf_of_readZkInfo {clusters : String → Option ClusterMetadata}
    (read : Zms.readZkInfo clusters type name (some (propertiesOf before)) = some metadata)
    (isCluster : metadata.clusterMetadata = some cluster) :
    ReadOf type (propertiesOfMetadata metadata cluster) before where
  clusterName := by
    have named := clusterName_of_readZkInfo read
    rw [isCluster] at named
    exact Option.some.inj named
  gatedIps := (readAs_of_readZkInfo read).gatedIps
  gatedCluster := gatedCluster_of_readZkInfo read
  group key isGroup := by
    rw [← groupField_propertiesOf isGroup]
    revert key
    exact groupField_eq_iff.mpr fun group => (readAs_of_readZkInfo read).group group

theorem gatedLine_of_readOf {properties : Properties} (read : ReadOf type properties before) :
    gatedLine properties = gatedLine (propertiesOf before) := by
  have named := read.gatedCluster
  rw [Properties.gated] at named
  unfold gatedLine
  split at named
  · rw [named]
  · next blank =>
    rw [named, if_neg blank]
    rfl

theorem unchanged_of_keptData {properties : Properties} (read : ReadOf type properties before)
    (kept : KeptData type before) : ∃ after, parseProperties (text (linesOf type properties)) = some after ∧
      Unchanged type before after := by
  obtain ⟨⟨clusterName, isName, plainName⟩, ⟨ips, isIps, plainIps⟩, ⟨gated, isGated, plainGated, form⟩,
    statisticsLogger, group⟩ := kept
  have sameName : properties.clusterName = clusterName := by rw [read.clusterName, isName]; rfl
  have sameIps : properties.gatedIps.getD "" = ips := by rw [read.gatedIps, isIps]; rfl
  have sameGated : gatedLine properties = gated := by
    have named : (propertiesOf before).gatedCluster = some gated := isGated
    rw [gatedLine_of_readOf read, gatedLine, named]
    rcases form with rfl | notBlank
    · rfl
    · rw [if_pos notBlank]
      rfl
  have sameGroup : ∀ key ∈ groupKeys type, ∃ value, getProperty before key = some value ∧ Plain value ∧
      valueOf (groupField properties key) = value := by
    intro key isGroup
    obtain ⟨value, is, plain⟩ := group key isGroup
    exact ⟨value, is, plain, by rw [read.group key isGroup, is]; rfl⟩
  have plain : Lines Plain type properties := by
    refine lines_plain_iff.mpr ⟨by rwa [sameName], by rwa [sameIps], by rwa [sameGated], fun key isGroup => ?_⟩
    obtain ⟨value, -, plain, same⟩ := sameGroup key isGroup
    rwa [same]
  refine ⟨_, parseProperties_of_plain plain, fun key member => ?_⟩
  rcases List.mem_append.mp member with common | isGroup
  · simp only [List.mem_cons, List.not_mem_nil, or_false] at common
    rcases common with rfl | rfl | rfl | rfl
    · rw [getProperty_linesOf type properties (clusterName_mem_linesOf type properties), sameName, isName]
    · rw [getProperty_linesOf type properties (gatedIps_mem_linesOf type properties), sameIps, isIps]
    · rw [getProperty_linesOf type properties (gatedCluster_mem_linesOf type properties), sameGated, isGated]
    · rw [statisticsLogger_linesOf, statisticsLogger]
  · obtain ⟨value, is, -, same⟩ := sameGroup key isGroup
    rw [getProperty_linesOf type properties (groupField_mem_linesOf isGroup properties), same, is]

theorem keptData_of_unchanged {properties : Properties} (read : ReadOf type properties before)
    (terminated : Lines Terminated type properties) {after : List (String × String)}
    (loads : parseProperties (text (linesOf type properties)) = some after)
    (unchanged : Unchanged type before after) : KeptData type before := by
  have clusterName := unchanged "clusterName" (by simp [interpreted])
  have gatedIps := unchanged "gatedIps" (by simp [interpreted])
  have gatedCluster := unchanged "gatedCluster" (by simp [interpreted])
  have statisticsLogger := unchanged "statisticsLogger" (by simp [interpreted])
  have group : ∀ key ∈ groupKeys type, getProperty after key = getProperty before key :=
    fun key isGroup => unchanged key (List.mem_append_right _ isGroup)
  have agrees : Agrees type properties after := by
    refine ⟨?_, ?_, ?_, ?_⟩
    · rw [clusterName, read.clusterName]
    · intro ips isIps
      rw [gatedIps, ← read.gatedIps, isIps]
    · intro notBlank
      rw [gatedCluster, read.gatedCluster]
      rw [read.gatedCluster, Properties.gated] at notBlank
      split at notBlank
      · next isGated =>
        rw [Properties.gated, if_pos isGated]
        rfl
      · cases notBlank
    · intro key isGroup value isValue
      rw [group key isGroup, ← read.group key isGroup, isValue]
  obtain ⟨plain, rfl⟩ := loaded_of_agrees terminated loads agrees
  obtain ⟨plainName, plainIps, plainGated, plainGroup⟩ := lines_plain_iff.mp plain
  refine ⟨?_, ?_, ?_, ?_, ?_⟩
  · rw [← clusterName]
    exact ⟨_, getProperty_linesOf type properties (clusterName_mem_linesOf type properties), plainName⟩
  · rw [← gatedIps]
    exact ⟨_, getProperty_linesOf type properties (gatedIps_mem_linesOf type properties), plainIps⟩
  · refine ⟨gatedLine properties, ?_, plainGated, ?_⟩
    · rw [← gatedCluster]
      exact getProperty_linesOf type properties (gatedCluster_mem_linesOf type properties)
    · rw [gatedLine]
      cases gated : properties.gatedCluster with
      | none => exact .inl rfl
      | some name =>
        by_cases notBlank : isNotBlank (some name) = true
        · rw [if_pos notBlank]
          exact .inr notBlank
        · rw [if_neg notBlank]
          exact .inl rfl
  · rw [← statisticsLogger, statisticsLogger_linesOf]
  · intro key isGroup
    rw [← group key isGroup]
    exact ⟨_, getProperty_linesOf type properties (groupField_mem_linesOf isGroup properties),
      plainGroup key isGroup⟩

end WriteBack

end Zms.Zookeeper
