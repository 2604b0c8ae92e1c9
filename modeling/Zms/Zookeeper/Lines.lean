import Mathlib
import Zms.Text.PropertiesRoundTrip
import Zms.Zookeeper.Codec

/-! The lines that are written of the properties of a topic or a consumer group, and which
properties are read of them again. -/

set_option autoImplicit false

namespace Zms.Zookeeper

open Zms.Text.Properties

def gatedLine (properties : Properties) : String :=
  if isNotBlank properties.gatedCluster then properties.gatedCluster.getD "" else ""

def groupLines (properties : Properties) : List (String × String) :=
  [("bindingTopic", valueOf properties.bindingTopic), ("broadcast", valueOf properties.broadcast),
    ("consumeFrom", valueOf properties.consumeFrom), ("suspend", valueOf properties.suspend)]

def gateLines (properties : Properties) : List (String × String) :=
  [("gatedIps", properties.gatedIps.getD ""), ("gatedCluster", gatedLine properties)]

def linesOf : ZmsType → Properties → List (String × String)
  | .TOPIC, properties => ("clusterName", properties.clusterName) :: ("type", "topic") :: gateLines properties
  | .CONSUMER_GRUOP, properties =>
      ("clusterName", properties.clusterName) :: ("type", "consumergroup") ::
        (groupLines properties ++ gateLines properties)

def keysOf : ZmsType → List String
  | .TOPIC => ["clusterName", "type", "gatedIps", "gatedCluster"]
  | .CONSUMER_GRUOP =>
      ["clusterName", "type", "bindingTopic", "broadcast", "consumeFrom", "suspend", "gatedIps", "gatedCluster"]

/-- The properties that metadata has. -/
def propertiesOfMetadata (metadata : ConsumerGroupMetadata) (cluster : ClusterMetadata) : Properties where
  clusterName := cluster.clusterName
  gatedIps := metadata.gatedIps
  gatedCluster := metadata.gatedCluster.map (·.clusterName)
  statisticsLogger := metadata.statisticsLogger
  bindingTopic := metadata.bindingTopic
  broadcast := metadata.broadcast
  consumeFrom := metadata.consumeFrom
  suspend := metadata.suspend

theorem gatedLine_of_metadata (metadata : ConsumerGroupMetadata) (cluster : ClusterMetadata) :
    gatedLine (propertiesOfMetadata metadata cluster) = gatedClusterName metadata.toZmsMetadata := by
  unfold gatedLine gatedClusterName propertiesOfMetadata
  cases metadata.gatedCluster with
  | none => rfl
  | some gated => rfl

theorem topicLines_eq (metadata : ConsumerGroupMetadata) (cluster : ClusterMetadata) :
    topicLines metadata.toZmsMetadata cluster = linesOf .TOPIC (propertiesOfMetadata metadata cluster) := by
  rw [topicLines, linesOf, gateLines, gatedLine_of_metadata]
  rfl

theorem consumerGroupLines_eq (metadata : ConsumerGroupMetadata) (cluster : ClusterMetadata) :
    consumerGroupLines metadata cluster = linesOf .CONSUMER_GRUOP (propertiesOfMetadata metadata cluster) := by
  rw [consumerGroupLines, linesOf, gateLines, gatedLine_of_metadata]
  rfl

section Keys
variable (type : ZmsType) (properties : Properties)

theorem keys_linesOf : (linesOf type properties).map Prod.fst = keysOf type := by
  cases type <;> rfl

theorem nodup_linesOf : ((linesOf type properties).map Prod.fst).Nodup := by
  rw [keys_linesOf]
  cases type <;> decide

theorem letters_linesOf : ∀ entry ∈ linesOf type properties, Letters entry.1 := by
  have keys : ∀ key ∈ keysOf type, Letters key := by
    cases type <;> decide
  intro entry member
  apply keys
  rw [← keys_linesOf type properties]
  exact List.mem_map_of_mem member

/-- A property of the lines. -/
theorem getProperty_linesOf {key value : String} (member : (key, value) ∈ linesOf type properties) :
    getProperty (linesOf type properties) key = some value :=
  (getProperty_eq_some_iff (nodup_linesOf type properties)).mpr member

theorem clusterName_mem_linesOf : ("clusterName", properties.clusterName) ∈ linesOf type properties := by
  cases type <;> simp [linesOf]

theorem gatedIps_mem_linesOf : ("gatedIps", properties.gatedIps.getD "") ∈ linesOf type properties := by
  cases type <;> simp [linesOf, gateLines]

theorem gatedCluster_mem_linesOf : ("gatedCluster", gatedLine properties) ∈ linesOf type properties := by
  cases type <;> simp [linesOf, gateLines]

theorem statisticsLogger_linesOf : getProperty (linesOf type properties) "statisticsLogger" = none := by
  apply Option.eq_none_iff_forall_ne_some.mpr
  intro value is
  have key := List.mem_map_of_mem (f := Prod.fst) (mem_of_getProperty is)
  rw [keys_linesOf] at key
  cases type <;> simp [keysOf] at key

end Keys

/-- What a property is read of, by its key. -/
def groupField (properties : Properties) : String → Option String
  | "bindingTopic" => properties.bindingTopic
  | "broadcast" => properties.broadcast
  | "consumeFrom" => properties.consumeFrom
  | "suspend" => properties.suspend
  | _ => none

def groupKeys : ZmsType → List String
  | .TOPIC => []
  | .CONSUMER_GRUOP => ["bindingTopic", "broadcast", "consumeFrom", "suspend"]

theorem groupField_mem_linesOf {type : ZmsType} {key : String} (group : key ∈ groupKeys type)
    (properties : Properties) : (key, valueOf (groupField properties key)) ∈ linesOf type properties := by
  cases type with
  | TOPIC => cases group
  | CONSUMER_GRUOP =>
    simp only [groupKeys, List.mem_cons, List.not_mem_nil, or_false] at group
    rcases group with rfl | rfl | rfl | rfl <;> simp [linesOf, groupLines, groupField]

theorem mem_linesOf {type : ZmsType} {properties : Properties} {entry : String × String}
    (member : entry ∈ linesOf type properties) :
    entry = ("clusterName", properties.clusterName) ∨ entry = ("type", type.getName) ∨
      entry = ("gatedIps", properties.gatedIps.getD "") ∨ entry = ("gatedCluster", gatedLine properties) ∨
      ∃ key ∈ groupKeys type, entry = (key, valueOf (groupField properties key)) := by
  cases type with
  | TOPIC =>
    simp only [linesOf, gateLines, List.mem_cons, List.not_mem_nil, or_false] at member
    rcases member with rfl | rfl | rfl | rfl <;> simp [ZmsType.getName]
  | CONSUMER_GRUOP =>
    simp only [linesOf, gateLines, groupLines, List.cons_append, List.nil_append, List.mem_cons,
      List.not_mem_nil, or_false] at member
    rcases member with rfl | rfl | rfl | rfl | rfl | rfl | rfl | rfl <;>
      simp [ZmsType.getName, groupKeys, groupField]

/-- What is read of a text agrees with the properties that it was written of, as far as these
are there. -/
structure Agrees (type : ZmsType) (properties : Properties) (loaded : List (String × String)) : Prop where
  clusterName : valueOf (getProperty loaded "clusterName") = properties.clusterName
  gatedIps : ∀ ips, properties.gatedIps = some ips → getProperty loaded "gatedIps" = some ips
  gatedCluster : isNotBlank properties.gatedCluster = true →
    getProperty loaded "gatedCluster" = properties.gatedCluster
  group : ∀ key ∈ groupKeys type, ∀ value, groupField properties key = some value →
    getProperty loaded key = some value

def Lines (P : String → Prop) (type : ZmsType) (properties : Properties) : Prop :=
  ∀ entry ∈ linesOf type properties, P entry.2

theorem parseProperties_of_plain {type : ZmsType} {properties : Properties} (plain : Lines Plain type properties) :
    parseProperties (text (linesOf type properties)) = some (linesOf type properties) := by
  rw [parseProperties, bytesOf_text]
  exact load_print_of_plain (letters_linesOf type properties) plain

theorem plain_null : Plain "null" := by decide

theorem plain_empty : Plain "" := by decide

/-- Lines that end come back only as they are. -/
theorem loaded_of_agrees {type : ZmsType} {properties : Properties} (terminated : Lines Terminated type properties)
    {loaded : List (String × String)} (loads : parseProperties (text (linesOf type properties)) = some loaded)
    (agrees : Agrees type properties loaded) : Lines Plain type properties ∧ loaded = linesOf type properties := by
  rw [parseProperties, bytesOf_text] at loads
  apply load_print_eq (nodup_linesOf type properties) (letters_linesOf type properties) terminated loads
  intro entry member
  rcases mem_linesOf member with rfl | rfl | rfl | rfl | ⟨key, group, rfl⟩
  · have is := agrees.clusterName
    cases found : getProperty loaded "clusterName" with
    | none =>
      rw [found] at is
      exact .inr (is ▸ plain_null)
    | some clusterName =>
      rw [found] at is
      exact .inl (congrArg some is)
  · right
    cases type <;> decide
  · cases ips : properties.gatedIps with
    | none => exact .inr plain_empty
    | some value => exact .inl (agrees.gatedIps value ips)
  · dsimp only
    rw [gatedLine]
    split
    · next notBlank =>
      left
      rw [agrees.gatedCluster notBlank]
      cases gated : properties.gatedCluster with
      | none => rw [gated] at notBlank; cases notBlank
      | some name => rfl
    · exact .inr plain_empty
  · cases field : groupField properties key with
    | none => exact .inr plain_null
    | some value => exact .inl (agrees.group key group value field)

end Zms.Zookeeper
