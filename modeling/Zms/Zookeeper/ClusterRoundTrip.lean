import Mathlib
import Zms.Zookeeper.RoundTrip

/-! The data of cluster nodes, written and read again and read and written back. -/

set_option autoImplicit false

namespace Zms.Zookeeper

open Zms.Text.Properties

section Lines
variable {cluster : ClusterMetadata} {brokerType : BrokerType} {loaded : List (String × String)}

theorem nodup_clusterLines (cluster : ClusterMetadata) (brokerType : BrokerType) :
    ((clusterLines cluster brokerType).map Prod.fst).Nodup := by
  have keys : (clusterLines cluster brokerType).map Prod.fst = ["bootAddr", "brokerType", "serverIps"] := rfl
  rw [keys]
  decide

theorem letters_clusterLines (cluster : ClusterMetadata) (brokerType : BrokerType) :
    ∀ entry ∈ clusterLines cluster brokerType, Letters entry.1 := by
  simp only [clusterLines, List.mem_cons, List.not_mem_nil, or_false]
  have keys : Letters "bootAddr" ∧ Letters "brokerType" ∧ Letters "serverIps" := by decide
  rintro entry (rfl | rfl | rfl)
  · exact keys.1
  · exact keys.2.1
  · exact keys.2.2

theorem bootAddr_mem_clusterLines (cluster : ClusterMetadata) (brokerType : BrokerType) :
    ("bootAddr", valueOf cluster.bootAddr) ∈ clusterLines cluster brokerType := by
  simp [clusterLines]

theorem brokerType_mem_clusterLines (cluster : ClusterMetadata) (brokerType : BrokerType) :
    ("brokerType", BrokerType.getName brokerType) ∈ clusterLines cluster brokerType := by
  simp [clusterLines]

theorem serverIps_mem_clusterLines (cluster : ClusterMetadata) (brokerType : BrokerType) :
    ("serverIps", valueOf cluster.serverIps) ∈ clusterLines cluster brokerType := by
  simp [clusterLines]

theorem plain_getName (brokerType : BrokerType) : Plain (BrokerType.getName brokerType) := by
  cases brokerType <;> decide

theorem toUpperCase_getName (brokerType : BrokerType) :
    BrokerType.parse (some (BrokerType.getName brokerType)) = some (some brokerType) := by
  cases brokerType <;> decide

/-- Upper case has the same weight. -/
theorem weight_toUpperCase (text : String) : weight (toUpperCase text).toList = weight text.toList := by
  have same : ∀ c : Char, counted c.toUpper.toNat = counted c.toNat := by
    intro c
    unfold Char.toUpper
    split
    · next lower =>
      obtain ⟨low, high⟩ := lower
      have atLeast : 97 ≤ c.val.toNat := UInt32.le_iff_toNat_le.mp low
      have atMost : c.val.toNat ≤ 122 := UInt32.le_iff_toNat_le.mp high
      have shifted : (c.val + ('A'.val - 'a'.val)).toNat = c.val.toNat - 32 := by
        have difference : ('A'.val - 'a'.val).toNat = 4294967264 := rfl
        rw [UInt32.toNat_add, difference]
        omega
      have is : c.toNat = c.val.toNat := rfl
      have upper : counted (c.val.toNat - 32) = true := by
        simp only [counted, Bool.and_eq_true, decide_eq_true_eq]
        omega
      have lower : counted c.val.toNat = true := by
        simp only [counted, Bool.and_eq_true, decide_eq_true_eq]
        omega
      rw [is, lower]
      show counted (c.val + ('A'.val - 'a'.val)).toNat = true
      rw [shifted, upper]
    · rfl
  rw [toUpperCase, String.toList_ofList]
  unfold weight
  rw [List.countP_map]
  exact List.countP_congr fun c _ => by simp [same]

theorem toUpperCase_of_parse {property : String} {brokerType : BrokerType}
    (parses : BrokerType.parse (some property) = some (some brokerType)) :
    toUpperCase property = toUpperCase (BrokerType.getName brokerType) := by
  have kafka : toUpperCase "kafka" = "KAFKA" := by decide
  have rocketmq : toUpperCase "rocketmq" = "ROCKETMQ" := by decide
  unfold BrokerType.parse at parses
  split at parses
  · cases parses
  · next value same =>
    cases same
    split at parses
    · cases parses
    split at parses
    · next upper =>
      cases parses
      rw [upper, BrokerType.getName, kafka]
    split at parses
    · next upper =>
      cases parses
      rw [upper, BrokerType.getName, rocketmq]
    · cases parses

/-- What is read agrees with the cluster, as far as its fields are there. -/
structure AgreesCluster (cluster : ClusterMetadata) (brokerType : BrokerType) (loaded : List (String × String)) :
    Prop where
  bootAddr : ∀ address, cluster.bootAddr = some address → getProperty loaded "bootAddr" = some address
  brokerType : BrokerType.parse (getProperty loaded "brokerType") = some (some brokerType)
  serverIps : ∀ ips, cluster.serverIps = some ips → getProperty loaded "serverIps" = some ips

theorem loaded_of_agreesCluster (loads : parseProperties (text (clusterLines cluster brokerType)) = some loaded)
    (agrees : AgreesCluster cluster brokerType loaded) :
    (∀ entry ∈ clusterLines cluster brokerType, Plain entry.2) ∧ loaded = clusterLines cluster brokerType := by
  rw [parseProperties, bytesOf_text] at loads
  have letters := letters_clusterLines cluster brokerType
  have bootAddr : ("bootAddr", valueOf cluster.bootAddr) ∈ loaded := by
    cases address : cluster.bootAddr with
    | none =>
      rw [clusterLines, address] at loads
      exact @mem_of_terminated [] _ _ (letters _ (by simp [clusterLines, address])) plain_null (by simp) _ loads
    | some value => exact mem_of_getProperty (agrees.bootAddr value address)
  have serverIps : ("serverIps", valueOf cluster.serverIps) ∈ loaded := by
    cases ips : cluster.serverIps with
    | none =>
      rw [clusterLines, ips] at loads
      -- the line before is that of the broker type
      have leaves : Terminated (BrokerType.getName brokerType) := by cases brokerType <;> decide
      apply @mem_of_terminated [_, _] _ _ (letters _ (by simp [clusterLines, ips])) plain_null _ _ loads
      intro last isLast
      cases isLast
      exact leaves
    | some value => exact mem_of_getProperty (agrees.serverIps value ips)
  obtain ⟨property, isProperty⟩ : ∃ property, getProperty loaded "brokerType" = some property := by
    have parses := agrees.brokerType
    cases found : getProperty loaded "brokerType" with
    | none => rw [found] at parses; cases parses
    | some property => exact ⟨property, rfl⟩
  have upper := toUpperCase_of_parse (isProperty ▸ agrees.brokerType)
  have one : ∀ entry ∈ clusterLines cluster brokerType, OneLine (bytesOf entry.2) := by
    apply oneLine_of_weight loads
    have subset : [("bootAddr", valueOf cluster.bootAddr), ("brokerType", property),
        ("serverIps", valueOf cluster.serverIps)] ⊆ loaded := by
      intro entry member
      simp only [List.mem_cons, List.not_mem_nil, or_false] at member
      rcases member with rfl | rfl | rfl
      · exact bootAddr
      · exact mem_of_getProperty isProperty
      · exact serverIps
    have least := sum_entryWeight_le (by simp) subset
    have same : weight property.toList = weight (BrokerType.getName brokerType).toList := by
      rw [← weight_toUpperCase, upper, weight_toUpperCase]
    have sameEntry : entryWeight ("brokerType", property) =
        entryWeight ("brokerType", BrokerType.getName brokerType) := by
      simp only [entryWeight, same]
    simp only [clusterLines, List.map_cons, List.map_nil, List.sum_cons, List.sum_nil] at least ⊢
    omega
  obtain rfl := Option.some.inj ((load_print letters one).symm.trans loads)
  have decodes : ∀ {key value : String}, (key, value) ∈ clusterLines cluster brokerType →
      (key, value) ∈ (clusterLines cluster brokerType).map (fun entry => (entry.1, decoded entry.2)) → Plain value := by
    intro key value member back
    obtain ⟨other, isOther, same⟩ := List.mem_map.mp back
    have sameKey : other.1 = key := congrArg Prod.fst same
    obtain rfl : other = (key, value) :=
      List.inj_on_of_nodup_map (nodup_clusterLines cluster brokerType) isOther member sameKey
    exact (decoded_eq_iff (one _ member)).mp (congrArg Prod.snd same)
  have plain : ∀ entry ∈ clusterLines cluster brokerType, Plain entry.2 := by
    intro entry member
    have lines := member
    simp only [clusterLines, List.mem_cons, List.not_mem_nil, or_false] at member
    rcases member with rfl | rfl | rfl
    · exact decodes lines bootAddr
    · exact plain_getName brokerType
    · exact decodes lines serverIps
  exact ⟨plain, Option.some.inj (loads.symm.trans (load_print_of_plain letters plain))⟩

theorem text_clusterLines_ne (cluster : ClusterMetadata) (brokerType : BrokerType) :
    text (clusterLines cluster brokerType) ≠ "" := by
  intro empty
  have bytes := congrArg (fun data => (bytesOf data).length) empty
  simp only [bytesOf_text, clusterLines, print, lineOf, List.length_append, List.length_cons] at bytes
  have none : (bytesOf "").length = 0 := rfl
  omega

end Lines

section Clusters
variable {nodes : Nodes} {cluster : ClusterMetadata}

theorem readClusterMetadata_eq_some_iff {clusterName data : String} (isData : nodes.clusters clusterName = some data)
    (nonempty : data ≠ "") : readClusterMetadata nodes clusterName = some cluster ↔
      ∃ loaded, parseProperties data = some loaded ∧ cluster.clusterName = clusterName ∧
        cluster.bootAddr = getProperty loaded "bootAddr" ∧
        BrokerType.parse (getProperty loaded "brokerType") = some cluster.brokerType ∧
        cluster.serverIps = getProperty loaded "serverIps" := by
  unfold readClusterMetadata
  simp only [isData, Option.bind_eq_bind, Option.bind_some, nonempty, if_false, Option.bind_eq_some_iff,
    Option.pure_def, Option.some.injEq]
  constructor
  · rintro ⟨loaded, loads, brokerType, parses, rfl⟩
    exact ⟨loaded, loads, rfl, rfl, parses, rfl⟩
  · rintro ⟨loaded, loads, name, bootAddr, parses, serverIps⟩
    refine ⟨loaded, loads, cluster.brokerType, parses, ?_⟩
    rw [← name, ← bootAddr, ← serverIps]

/-- What a cluster has to be to come back. -/
structure KeptCluster (cluster : ClusterMetadata) : Prop where
  brokerType : cluster.brokerType.isSome
  bootAddr : PlainField cluster.bootAddr
  serverIps : PlainField cluster.serverIps

theorem getProperty_clusterLines {brokerType : BrokerType} {key value : String}
    (member : (key, value) ∈ clusterLines cluster brokerType) :
    getProperty (clusterLines cluster brokerType) key = some value :=
  (getProperty_eq_some_iff (nodup_clusterLines cluster brokerType)).mpr member

theorem parseProperties_clusterLines {brokerType : BrokerType} (plain : Plain (valueOf cluster.bootAddr))
    (plainIps : Plain (valueOf cluster.serverIps)) :
    parseProperties (text (clusterLines cluster brokerType)) = some (clusterLines cluster brokerType) := by
  rw [parseProperties, bytesOf_text]
  apply load_print_of_plain (letters_clusterLines cluster brokerType)
  simp only [clusterLines, List.mem_cons, List.not_mem_nil, or_false]
  rintro entry (rfl | rfl | rfl)
  · exact plain
  · exact plain_getName brokerType
  · exact plainIps

def ClusterComesBack (nodes : Nodes) (cluster : ClusterMetadata) : Prop :=
  ∃ written, writeClusterMetadata nodes cluster = some written ∧
    readClusterMetadata written cluster.clusterName = some cluster

theorem clusterComesBack_iff (nodes : Nodes) (cluster : ClusterMetadata) :
    ClusterComesBack nodes cluster ↔ KeptCluster cluster := by
  cases isBroker : cluster.brokerType with
  | none =>
    have fails : writeClusterMetadata nodes cluster = none := by
      rw [writeClusterMetadata, buildClusterData, isBroker]
      rfl
    constructor
    · rintro ⟨written, writes, -⟩
      rw [fails] at writes
      cases writes
    · intro kept
      have := kept.brokerType
      rw [isBroker] at this
      cases this
  | some brokerType =>
    have writes : writeClusterMetadata nodes cluster = some { nodes with
        clusters := Function.update nodes.clusters cluster.clusterName
          (some (text (clusterLines cluster brokerType))) } := by
      rw [writeClusterMetadata, buildClusterData, isBroker]
      rfl
    have data : (Function.update nodes.clusters cluster.clusterName
        (some (text (clusterLines cluster brokerType)))) cluster.clusterName =
          some (text (clusterLines cluster brokerType)) := Function.update_self ..
    constructor
    · rintro ⟨written, isWritten, reads⟩
      obtain rfl := Option.some.inj (writes.symm.trans isWritten)
      obtain ⟨loaded, loads, -, bootAddr, parses, serverIps⟩ :=
        (readClusterMetadata_eq_some_iff data (text_clusterLines_ne cluster brokerType)).mp reads
      have agrees : AgreesCluster cluster brokerType loaded :=
        ⟨fun address is => bootAddr.symm.trans is, isBroker ▸ parses, fun ips is => serverIps.symm.trans is⟩
      obtain ⟨plain, rfl⟩ := loaded_of_agreesCluster loads agrees
      have boot := bootAddr_mem_clusterLines cluster brokerType
      have server := serverIps_mem_clusterLines cluster brokerType
      exact ⟨by rw [isBroker]; rfl, ⟨_, bootAddr.trans (getProperty_clusterLines boot), plain _ boot⟩,
        ⟨_, serverIps.trans (getProperty_clusterLines server), plain _ server⟩⟩
    · rintro ⟨-, ⟨address, isAddress, plainAddress⟩, ⟨ips, isIps, plainIps⟩⟩
      refine ⟨_, writes, ?_⟩
      apply (readClusterMetadata_eq_some_iff data (text_clusterLines_ne cluster brokerType)).mpr
      have boot := bootAddr_mem_clusterLines cluster brokerType
      have broker := brokerType_mem_clusterLines cluster brokerType
      have server := serverIps_mem_clusterLines cluster brokerType
      refine ⟨_, parseProperties_clusterLines (by rwa [isAddress]) (by rwa [isIps]), rfl, ?_, ?_, ?_⟩
      · rw [getProperty_clusterLines boot, isAddress]
        rfl
      · rw [getProperty_clusterLines broker, isBroker, toUpperCase_getName]
      · rw [getProperty_clusterLines server, isIps]
        rfl

/-- The properties that are read of a cluster node. -/
def UnchangedCluster (before after : List (String × String)) : Prop :=
  ∀ key ∈ ["bootAddr", "brokerType", "serverIps"], getProperty after key = getProperty before key

/-- What the data of a cluster node has to be to stay as it is. -/
structure KeptClusterData (before : List (String × String)) : Prop where
  bootAddr : PlainField (getProperty before "bootAddr")
  brokerType : ∃ brokerType, getProperty before "brokerType" = some (BrokerType.getName brokerType)
  serverIps : PlainField (getProperty before "serverIps")

theorem unchangedCluster_iff {brokerType : BrokerType} {before : List (String × String)}
    (bootAddr : cluster.bootAddr = getProperty before "bootAddr")
    (parses : BrokerType.parse (getProperty before "brokerType") = some (some brokerType))
    (serverIps : cluster.serverIps = getProperty before "serverIps") :
    (∃ after, parseProperties (text (clusterLines cluster brokerType)) = some after ∧
      UnchangedCluster before after) ↔ KeptClusterData before := by
  have boot := bootAddr_mem_clusterLines cluster brokerType
  have broker := brokerType_mem_clusterLines cluster brokerType
  have server := serverIps_mem_clusterLines cluster brokerType
  constructor
  · rintro ⟨after, loads, unchanged⟩
    have sameBoot := unchanged "bootAddr" (by simp)
    have sameBroker := unchanged "brokerType" (by simp)
    have sameServer := unchanged "serverIps" (by simp)
    have agrees : AgreesCluster cluster brokerType after := by
      refine ⟨fun address is => ?_, by rwa [sameBroker], fun ips is => ?_⟩
      · rw [sameBoot, ← bootAddr, is]
      · rw [sameServer, ← serverIps, is]
    obtain ⟨plain, rfl⟩ := loaded_of_agreesCluster loads agrees
    rw [getProperty_clusterLines broker] at sameBroker
    exact ⟨⟨_, sameBoot.symm.trans (getProperty_clusterLines boot), plain _ boot⟩, ⟨brokerType, sameBroker.symm⟩,
      ⟨_, sameServer.symm.trans (getProperty_clusterLines server), plain _ server⟩⟩
  · rintro ⟨⟨address, isAddress, plainAddress⟩, ⟨other, isOther⟩, ⟨ips, isIps, plainIps⟩⟩
    rw [isAddress] at bootAddr
    rw [isIps] at serverIps
    rw [isOther, toUpperCase_getName] at parses
    obtain rfl : other = brokerType := by simpa using parses
    refine ⟨_, parseProperties_clusterLines (by rwa [bootAddr]) (by rwa [serverIps]), fun key member => ?_⟩
    simp only [List.mem_cons, List.not_mem_nil, or_false] at member
    rcases member with rfl | rfl | rfl
    · rw [getProperty_clusterLines boot, isAddress, bootAddr]
      rfl
    · rw [getProperty_clusterLines broker, isOther]
    · rw [getProperty_clusterLines server, isIps, serverIps]
      rfl

end Clusters

end Zms.Zookeeper
