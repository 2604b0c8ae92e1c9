import Zms.Collector.KafkaLag
import Zms.Registry.Association
import Zms.Transition.Collecting

/-! When the lag that the collector reports for a consumer group is the one that the portal shows. -/

set_option autoImplicit false

namespace Zms.Collector.KafkaLag

open Client.Consumer.Kafka (TopicPartition)
open Portal.Kafka Registry Transition

/-! ### A cluster that answers -/

structure Group where
  name : String
  members : List MemberDescription
  committed : List (TopicPartition × Nat)
  committedOnce : (committed.map Prod.fst).Nodup

structure Cluster where
  groups : List Group
  partitions : String → List Nat
  endOffset : TopicPartition → Nat
  namesOnce : (groups.map Group.name).Nodup
  partitionsOnce : ∀ topic, (partitions topic).Nodup

def Group.assigned (group : Group) : List TopicPartition := group.members.flatMap MemberDescription.assignment

namespace Cluster
variable (cluster : Cluster)

def find (name : String) : Option Group := cluster.groups.find? fun group => group.name = name

def calls : AdminCalls where
  describeConsumerGroups name := (cluster.find name).map Group.members
  listConsumerGroupOffsets name :=
    (cluster.find name).map fun group => group.committed.map fun entry => (entry.1, (entry.2 : Int))
  describeTopics topics := some (topics.map fun topic => (topic, cluster.partitions topic))
  endOffsets _ := some fun topicPartition => cluster.endOffset topicPartition

end Cluster

/-- The members share out all partitions of the topics that they have any of. -/
structure Assigned (cluster : Cluster) (group : Group) : Prop where
  known : group ∈ cluster.groups
  someMember : group.members ≠ []
  disjoint : group.assigned.Nodup
  covers : ∀ topicPartition ∈ group.assigned, ∀ partition,
    partition ∈ cluster.partitions topicPartition.topic ↔ ⟨topicPartition.topic, partition⟩ ∈ group.assigned

/-! ### The two figures -/

section Specification
variable (sort : CollectionsSort KafkaConsumerInfo) (cluster : Cluster) (group : Group)

def reportedLag : Option Int :=
  ((collectKafkaConsumerInfo cluster.calls (cluster.groups.map Group.name)).bind fun collected =>
    collected.lookup group.name).map fun statuses => (statuses.map ConsumerStatus.lag).sum

def shownLag : Option Int := (load sort cluster.calls group.name).map KafkaConsumerSummary.totalLag

/-- A rule says what counts for a partition without a committed offset. -/
def lagBy (rule : Nat → Int) (topicPartition : TopicPartition) : Int :=
  match group.committed.lookup topicPartition with
  | some offset => (cluster.endOffset topicPartition : Int) - offset
  | none => rule (cluster.endOffset topicPartition)

/-- Both count the committed partitions the same, and the others by one rule. -/
def Agree : Prop := ∃ rule : Nat → Int,
  reportedLag cluster group = some (group.assigned.map (lagBy cluster group rule)).sum ∧
    shownLag sort cluster group = some (group.assigned.map (lagBy cluster group rule)).sum

/-! ### The condition -/

/-- Offsets that only the reporter counts: the end where nothing is committed, and what is committed
where the log is empty. -/
def onlyReported (topicPartition : TopicPartition) : Nat :=
  if topicPartition.topic = kafkaInternalTopic then 0
  else
    match group.committed.lookup topicPartition with
    | some offset => if cluster.endOffset topicPartition = 0 then offset else 0
    | none => cluster.endOffset topicPartition

/-- The lag in the internal topic, which only the loader counts. -/
def onlyShown (topicPartition : TopicPartition) : Int :=
  if topicPartition.topic = kafkaInternalTopic then lagBy cluster group (fun _ => 0) topicPartition else 0

/-- What only one of the two counts is the same in sum. -/
def Balanced : Prop :=
  ((group.assigned.map (onlyReported cluster group)).sum : Int) = (group.assigned.map (onlyShown cluster group)).sum

end Specification

/-! ### The loader -/

section Loader
variable {sort : CollectionsSort KafkaConsumerInfo} {cluster : Cluster} {group : Group}

theorem foldl_add {α : Type} (f : α → Int) (elements : List α) (total : Int) :
    elements.foldl (fun total element => total + f element) total = total + (elements.map f).sum := by
  induction elements generalizing total with
  | nil => exact (Int.add_zero total).symm
  | cons element rest ih => rw [List.foldl_cons, ih, List.map_cons, List.sum_cons, Int.add_assoc]

theorem sum_flatMap {α β : Type} (f : α → List β) (g : β → Int) (elements : List α) :
    ((elements.flatMap f).map g).sum = (elements.map fun element => ((f element).map g).sum).sum := by
  induction elements with
  | nil => rfl
  | cons element rest ih =>
      rw [List.flatMap_cons, List.map_append, List.sum_append, ih, List.map_cons, List.sum_cons]

theorem find_of_known (known : group ∈ cluster.groups) : cluster.find group.name = some group :=
  find?_of_mem cluster.namesOnce known

def Group.offsets (group : Group) : List (TopicPartition × Int) :=
  group.committed.map fun entry => (entry.1, (entry.2 : Int))

theorem lookup_offsets (group : Group) (topicPartition : TopicPartition) :
    group.offsets.lookup topicPartition =
      (group.committed.lookup topicPartition).map fun offset : Nat => (offset : Int) :=
  lookup_mapValues (fun offset : Nat => (offset : Int)) group.committed topicPartition

theorem listConsumerGroupOffsets_of_known (known : group ∈ cluster.groups) :
    cluster.calls.listConsumerGroupOffsets group.name = some group.offsets :=
  congrArg (Option.map Group.offsets) (find_of_known known)

theorem describeConsumerGroups_of_known (known : group ∈ cluster.groups) :
    cluster.calls.describeConsumerGroups group.name = some group.members :=
  congrArg (Option.map Group.members) (find_of_known known)

def Cluster.memberInfo (cluster : Cluster) (group : Group) (consumerSummary : MemberDescription) :
    TopicPartition → KafkaConsumerInfo :=
  Portal.Kafka.memberInfo group.name consumerSummary group.offsets fun topicPartition => cluster.endOffset topicPartition

theorem memberInfos_eq (members : List MemberDescription) :
    memberInfos cluster.calls group.name group.offsets members = members.flatMap fun consumerSummary =>
      consumerSummary.assignment.map (cluster.memberInfo group consumerSummary) := by
  induction members with
  | nil => rfl
  | cons consumerSummary rest ih =>
      rw [List.flatMap_cons, ← ih]
      rfl

theorem consumerInfos_eq (assigned : Assigned cluster group) :
    consumerInfos cluster.calls group.name = group.members.flatMap fun consumerSummary =>
      consumerSummary.assignment.map (cluster.memberInfo group consumerSummary) := by
  unfold consumerInfos
  rw [listConsumerGroupOffsets_of_known assigned.known, describeConsumerGroups_of_known assigned.known]
  exact (if_pos assigned.someMember).trans (memberInfos_eq group.members)

theorem lag_memberInfo (consumerSummary : MemberDescription) (topicPartition : TopicPartition) :
    (cluster.memberInfo group consumerSummary topicPartition).lag = lagBy cluster group (fun _ => 0) topicPartition := by
  have known := lookup_offsets group topicPartition
  unfold Cluster.memberInfo Portal.Kafka.memberInfo lagBy
  rw [known]
  cases group.committed.lookup topicPartition <;> rfl

theorem sum_consumerInfos (assigned : Assigned cluster group) :
    ((consumerInfos cluster.calls group.name).map KafkaConsumerInfo.lag).sum =
      (group.assigned.map (lagBy cluster group fun _ => 0)).sum := by
  unfold Group.assigned
  rw [consumerInfos_eq assigned, sum_flatMap, sum_flatMap]
  simp only [List.map_map, Function.comp_def, lag_memberInfo]

theorem shownLag_eq (sort : CollectionsSort KafkaConsumerInfo) (assigned : Assigned cluster group) :
    shownLag sort cluster group = (sort.sort (consumerInfos cluster.calls group.name)).map fun _ =>
      (group.assigned.map (lagBy cluster group fun _ => 0)).sum := by
  unfold shownLag load consumerGroup
  cases sorted : sort.sort (consumerInfos cluster.calls group.name) with
  | none => rfl
  | some infos =>
      have total : infos.foldl (fun totalLag consumerGroup => totalLag + consumerGroup.lag) 0 =
          (group.assigned.map (lagBy cluster group fun _ => 0)).sum := by
        rw [foldl_add KafkaConsumerInfo.lag, Int.zero_add, ← sum_consumerInfos assigned]
        exact ((sort.perm sorted).map KafkaConsumerInfo.lag).sum_eq
      exact congrArg some total

end Loader

/-! ### The reporter -/

section Reporter
variable {cluster : Cluster} {group : Group}

/-- What the reporter counts for a partition. -/
def Group.reported (group : Group) (cluster : Cluster) (topicPartition : TopicPartition) : Int :=
  lagOf (cluster.endOffset topicPartition) ((group.offsets.lookup topicPartition).getD 0)

def Cluster.described (cluster : Cluster) (topic : String) : List Nat :=
  if topic = kafkaInternalTopic then [] else cluster.partitions topic

theorem foldlM_addPartition (group topic : String) (offsets : List (TopicPartition × Int)) (partitions : List Nat)
    (status : ConsumerStatus) :
    ∃ final, partitions.foldlM (addPartition cluster.calls group topic offsets) status = some final ∧
      final.lag = status.lag + (partitions.map fun partition =>
        lagOf (cluster.endOffset ⟨topic, partition⟩) ((offsets.lookup ⟨topic, partition⟩).getD 0)).sum := by
  induction partitions generalizing status with
  | nil => exact ⟨status, rfl, (Int.add_zero _).symm⟩
  | cons partition rest ih =>
      obtain ⟨next, added⟩ : ∃ next, addPartition cluster.calls group topic offsets status partition = some next ∧
          next.lag = status.lag +
            lagOf (cluster.endOffset ⟨topic, partition⟩) ((offsets.lookup ⟨topic, partition⟩).getD 0) :=
        ⟨_, rfl, rfl⟩
      obtain ⟨final, folded, lag⟩ := ih next
      refine ⟨final, ?_, ?_⟩
      · rw [List.foldlM_cons, added.1]
        exact folded
      · rw [lag, added.2, List.map_cons, List.sum_cons, Int.add_assoc]

theorem getKafkaConsumerTopics_of_known (known : group ∈ cluster.groups) :
    getKafkaConsumerTopics cluster.calls group.name = (group.assigned.map TopicPartition.topic).dedup := by
  unfold getKafkaConsumerTopics getKafkaMetadata Group.assigned
  rw [describeConsumerGroups_of_known known, List.map_flatMap]
  rfl

/-- Every topic that some group consumes is described, the internal one without partitions. -/
theorem lookup_findTopicPartitions {topics : List String} {topic : String} (member : topic ∈ topics) :
    (findTopicPartitions cluster.calls topics).lookup topic = some (cluster.described topic) := by
  have others : (cluster.calls.describeTopics (topics.dedup.filter fun topic => topic ≠ kafkaInternalTopic)).getD [] =
      (topics.dedup.filter fun topic => topic ≠ kafkaInternalTopic).map fun topic =>
        (topic, cluster.partitions topic) := rfl
  unfold findTopicPartitions Cluster.described
  rw [others]
  by_cases isInternal : topic = kafkaInternalTopic
  · subst isInternal
    rw [if_pos member, if_pos rfl]
    exact List.lookup_cons_self
  · have kept : topic ∈ topics.dedup.filter fun topic => topic ≠ kafkaInternalTopic :=
      List.mem_filter.mpr ⟨List.mem_dedup.mpr member, decide_eq_true isInternal⟩
    have found : ((topics.dedup.filter fun topic => topic ≠ kafkaInternalTopic).map fun topic =>
        (topic, cluster.partitions topic)).lookup topic = some (cluster.partitions topic) := lookup_of_values kept
    rw [if_neg isInternal]
    by_cases hasInternal : kafkaInternalTopic ∈ topics
    · rw [if_pos hasInternal, List.singleton_append, List.lookup_cons, beq_false_of_ne isInternal]
      exact found
    · rw [if_neg hasInternal]
      exact found

theorem groupStatuses_total (cluster : Cluster) (topicPartitions : List (String × List Nat)) (name : String) :
    ∃ statuses, groupStatuses cluster.calls topicPartitions name = some statuses := by
  have each : ∀ entry : String × List Nat, ∃ final,
      entry.2.foldlM (addPartition cluster.calls name entry.1 (getKafkaOffset cluster.calls name))
        ConsumerStatus.new = some final ∧ True := by
    intro entry
    obtain ⟨final, folded, _⟩ := foldlM_addPartition name entry.1 (getKafkaOffset cluster.calls name) entry.2
      ConsumerStatus.new
    exact ⟨final, folded, trivial⟩
  obtain ⟨statuses, all, _⟩ := exists_mapM fun entry _ => each entry
  exact ⟨statuses, all⟩

theorem groupStatuses_of_known (known : group ∈ cluster.groups) {topics : List String}
    (consumed : ∀ topicPartition ∈ group.assigned, topicPartition.topic ∈ topics) :
    ∃ statuses, groupStatuses cluster.calls (findTopicPartitions cluster.calls topics) group.name = some statuses ∧
      (statuses.map ConsumerStatus.lag).sum =
        (((group.assigned.map TopicPartition.topic).dedup.flatMap fun topic =>
          (cluster.described topic).map (TopicPartition.mk topic)).map (group.reported cluster)).sum := by
  have offsets : getKafkaOffset cluster.calls group.name = group.offsets :=
    congrArg (Option.getD · []) (listConsumerGroupOffsets_of_known known)
  have entries : ((getKafkaConsumerTopics cluster.calls group.name).filterMap fun topic =>
      ((findTopicPartitions cluster.calls topics).lookup topic).map fun partitions => (topic, partitions)) =
        (group.assigned.map TopicPartition.topic).dedup.map fun topic => (topic, cluster.described topic) := by
    rw [getKafkaConsumerTopics_of_known known]
    refine (List.filterMap_congr ?_).trans (congrFun List.filterMap_eq_map _)
    intro topic member
    obtain ⟨topicPartition, assigned, rfl⟩ := List.mem_map.mp (List.mem_dedup.mp member)
    rw [lookup_findTopicPartitions (consumed topicPartition assigned)]
    rfl
  have each (entry : String × List Nat) : ∃ final,
      entry.2.foldlM (addPartition cluster.calls group.name entry.1 group.offsets) ConsumerStatus.new = some final ∧
        final.lag = (entry.2.map fun partition => group.reported cluster ⟨entry.1, partition⟩).sum := by
    obtain ⟨final, folded, lag⟩ := foldlM_addPartition group.name entry.1 group.offsets entry.2 ConsumerStatus.new
    exact ⟨final, folded, lag.trans (Int.zero_add _)⟩
  unfold groupStatuses
  rw [entries, offsets]
  obtain ⟨statuses, all, _⟩ := exists_mapM fun entry _ => each entry
  refine ⟨statuses, all, ?_⟩
  have lags : statuses.map ConsumerStatus.lag =
      ((group.assigned.map TopicPartition.topic).dedup.map fun topic => (topic, cluster.described topic)).map
        fun entry => (entry.2.map fun partition => group.reported cluster ⟨entry.1, partition⟩).sum := by
    refine map_eq_of_mapM ?_ all
    intro entry status folded
    obtain ⟨final, same, lag⟩ := each entry
    rw [Option.some.inj (folded.symm.trans same)]
    exact lag
  rw [lags, sum_flatMap]
  simp only [List.map_map, Function.comp_def]

theorem collectKafkaConsumerInfo_total (cluster : Cluster) (names : List String) : ∃ collected,
    collectKafkaConsumerInfo cluster.calls names = some collected ∧
      ∀ name ∈ names, ∃ statuses, collected.lookup name = some statuses ∧
        groupStatuses cluster.calls
          (findTopicPartitions cluster.calls (names.flatMap (getKafkaConsumerTopics cluster.calls))) name =
            some statuses := by
  have each (name : String) : ∃ entry : String × List ConsumerStatus,
      ((groupStatuses cluster.calls
        (findTopicPartitions cluster.calls (names.flatMap (getKafkaConsumerTopics cluster.calls))) name).map fun
          statuses => (name, statuses)) = some entry ∧ entry.1 = name := by
    obtain ⟨statuses, total⟩ := groupStatuses_total cluster
      (findTopicPartitions cluster.calls (names.flatMap (getKafkaConsumerTopics cluster.calls))) name
    exact ⟨(name, statuses), by rw [total]; rfl, rfl⟩
  obtain ⟨collected, all, _⟩ := exists_mapM fun name (_ : name ∈ names.dedup) => each name
  refine ⟨collected, all, fun name member => ?_⟩
  have keys : collected.map Prod.fst = names.dedup.map id := by
    refine map_eq_of_mapM ?_ all
    intro name entry found
    obtain ⟨statuses, _, rfl⟩ := Option.map_eq_some_iff.mp found
    rfl
  have distinct : (collected.map Prod.fst).Nodup := by
    rw [keys, List.map_id]
    exact List.nodup_dedup names
  obtain ⟨entry, mem, found⟩ := exists_of_mem_of_mapM all (List.mem_dedup.mpr member)
  obtain ⟨statuses, same, rfl⟩ := Option.map_eq_some_iff.mp found
  exact ⟨statuses, lookup_of_mem distinct mem, same⟩

theorem reportedLag_of_known (known : group ∈ cluster.groups) :
    reportedLag cluster group = some
      (((group.assigned.map TopicPartition.topic).dedup.flatMap fun topic =>
        (cluster.described topic).map (TopicPartition.mk topic)).map (group.reported cluster)).sum := by
  obtain ⟨collected, all, each⟩ := collectKafkaConsumerInfo_total cluster (cluster.groups.map Group.name)
  have listed : group.name ∈ cluster.groups.map Group.name := List.mem_map_of_mem known
  obtain ⟨statuses, found, ofGroup⟩ := each group.name listed
  have consumed : ∀ topicPartition ∈ group.assigned, topicPartition.topic ∈
      (cluster.groups.map Group.name).flatMap (getKafkaConsumerTopics cluster.calls) := by
    intro topicPartition assigned
    refine List.mem_flatMap.mpr ⟨group.name, listed, ?_⟩
    rw [getKafkaConsumerTopics_of_known known]
    exact List.mem_dedup.mpr (List.mem_map_of_mem assigned)
  obtain ⟨others, same, lags⟩ := groupStatuses_of_known known consumed
  unfold reportedLag
  rw [all, Option.bind_some, found, Option.map_some, Option.some.inj (ofGroup.symm.trans same), lags]

theorem described_perm (assigned : Assigned cluster group) :
    ((group.assigned.map TopicPartition.topic).dedup.flatMap fun topic =>
      (cluster.described topic).map (TopicPartition.mk topic)).Perm
        (group.assigned.filter fun topicPartition => topicPartition.topic ≠ kafkaInternalTopic) := by
  refine (List.perm_ext_iff_of_nodup ?_ ?_).mpr ?_
  · refine List.nodup_flatMap.mpr ⟨?_, ?_⟩
    · intro topic _
      refine List.Nodup.map ?_ ?_
      · intro partition other same
        exact congrArg TopicPartition.partition same
      · unfold Cluster.described
        split
        · exact List.nodup_nil
        · exact cluster.partitionsOnce topic
    · refine (List.nodup_dedup _).imp ?_
      intro topic other different topicPartition first second
      obtain ⟨_, _, rfl⟩ := List.mem_map.mp first
      obtain ⟨_, _, same⟩ := List.mem_map.mp second
      exact different (congrArg TopicPartition.topic same).symm
  · exact assigned.disjoint.filter _
  · intro topicPartition
    constructor
    · intro member
      obtain ⟨topic, ofGroup, described⟩ := List.mem_flatMap.mp member
      obtain ⟨partition, exists_, rfl⟩ := List.mem_map.mp described
      obtain ⟨other, isAssigned, rfl⟩ := List.mem_map.mp (List.mem_dedup.mp ofGroup)
      unfold Cluster.described at exists_
      split at exists_
      · cases exists_
      · rename_i notInternal
        exact List.mem_filter.mpr ⟨(assigned.covers other isAssigned partition).mp exists_, decide_eq_true notInternal⟩
    · intro member
      obtain ⟨isAssigned, notInternal⟩ := List.mem_filter.mp member
      refine List.mem_flatMap.mpr ⟨topicPartition.topic, List.mem_dedup.mpr (List.mem_map_of_mem isAssigned), ?_⟩
      refine List.mem_map.mpr ⟨topicPartition.partition, ?_, rfl⟩
      unfold Cluster.described
      rw [if_neg (of_decide_eq_true notInternal)]
      exact (assigned.covers topicPartition isAssigned topicPartition.partition).mpr isAssigned

/-- Outside of the internal topic the reporter counts what the loader counts, and more. -/
theorem reported_eq {topicPartition : TopicPartition} (notInternal : topicPartition.topic ≠ kafkaInternalTopic) :
    group.reported cluster topicPartition =
      lagBy cluster group (fun _ => 0) topicPartition + onlyReported cluster group topicPartition := by
  unfold Group.reported onlyReported lagBy lagOf
  rw [lookup_offsets, if_neg notInternal]
  cases group.committed.lookup topicPartition with
  | none =>
      simp only [Option.map_none, Option.getD_none]
      split <;> omega
  | some offset =>
      simp only [Option.map_some, Option.getD_some]
      by_cases isEmpty : cluster.endOffset topicPartition = 0
      · rw [if_pos isEmpty, if_neg (by omega)]
        omega
      · rw [if_neg isEmpty, if_pos (by omega), if_neg (by omega)]
        omega

theorem sum_reported (topicPartitions : List TopicPartition) :
    ((topicPartitions.filter fun topicPartition => topicPartition.topic ≠ kafkaInternalTopic).map
        (group.reported cluster)).sum + (topicPartitions.map (onlyShown cluster group)).sum =
      (topicPartitions.map (lagBy cluster group fun _ => 0)).sum +
        ((topicPartitions.map (onlyReported cluster group)).sum : Int) := by
  induction topicPartitions with
  | nil => rfl
  | cons topicPartition rest ih =>
      rw [List.filter_cons, List.map_cons, List.map_cons, List.map_cons, List.sum_cons, List.sum_cons, List.sum_cons,
        Nat.cast_add]
      by_cases isInternal : topicPartition.topic = kafkaInternalTopic
      · have shown : onlyShown cluster group topicPartition = lagBy cluster group (fun _ => 0) topicPartition :=
          if_pos isInternal
        have reported : onlyReported cluster group topicPartition = 0 := if_pos isInternal
        rw [if_neg (by simp [isInternal]), shown, reported]
        omega
      · have shown : onlyShown cluster group topicPartition = 0 := if_neg isInternal
        rw [if_pos (decide_eq_true isInternal), List.map_cons, List.sum_cons, shown, reported_eq isInternal]
        omega

theorem reportedLag_eq (assigned : Assigned cluster group) : ∃ reported : Int,
    reportedLag cluster group = some reported ∧
      reported + (group.assigned.map (onlyShown cluster group)).sum =
        (group.assigned.map (lagBy cluster group fun _ => 0)).sum +
          ((group.assigned.map (onlyReported cluster group)).sum : Int) := by
  refine ⟨_, reportedLag_of_known assigned.known, ?_⟩
  rw [← sum_reported, ((described_perm assigned).map (group.reported cluster)).sum_eq]

end Reporter

/-! ### Agreement -/

section Agreement
variable (sort : CollectionsSort KafkaConsumerInfo) (cluster : Cluster) (group : Group)

/-- The listing that the loader sorts. -/
def listing : List KafkaConsumerInfo :=
  group.members.flatMap fun consumerSummary => consumerSummary.assignment.map (cluster.memberInfo group consumerSummary)

theorem lags_agree_iff (assigned : Assigned cluster group) :
    Agree sort cluster group ↔ (sort.sort (listing cluster group)).isSome ∧ Balanced cluster group := by
  obtain ⟨reported, isReported, sum⟩ := reportedLag_eq assigned
  have isShown := shownLag_eq sort assigned
  rw [consumerInfos_eq assigned] at isShown
  unfold Agree Balanced
  rw [isReported, isShown]
  constructor
  · rintro ⟨rule, byReporter, byLoader⟩
    obtain ⟨sorted, sorts, byZero⟩ := Option.map_eq_some_iff.mp byLoader
    have same : reported = (group.assigned.map (lagBy cluster group fun _ => 0)).sum :=
      (Option.some.inj byReporter).trans byZero.symm
    refine ⟨Option.isSome_iff_exists.mpr ⟨sorted, sorts⟩, ?_⟩
    omega
  · rintro ⟨sorts, balanced⟩
    obtain ⟨sorted, sorts⟩ := Option.isSome_iff_exists.mp sorts
    refine ⟨fun _ => 0, ?_, congrArg (Option.map _) sorts⟩
    congr 1
    omega

end Agreement

/-! ### A group of one member -/

def orders : TopicPartition := ⟨"orders", 0⟩

/-- The only member of the group has the only partition of the only topic. -/
def soleGroup (committed : Option Nat) : Group where
  name := "billing"
  members := [⟨"billing-1", "billing", "/127.0.0.1", [orders]⟩]
  committed := (committed.map fun offset => (orders, offset)).toList
  committedOnce := by cases committed <;> simp

def soleCluster (group : Group) (endOffset : Nat) : Cluster where
  groups := [group]
  partitions topic := if topic = orders.topic then [orders.partition] else []
  endOffset _ := endOffset
  namesOnce := List.nodup_singleton group.name
  partitionsOnce topic := by split <;> simp

theorem assigned_soleGroup (committed : Option Nat) (endOffset : Nat) :
    Assigned (soleCluster (soleGroup committed) endOffset) (soleGroup committed) where
  known := List.mem_singleton_self _
  someMember := List.cons_ne_nil _ _
  disjoint := List.nodup_singleton orders
  covers topicPartition assigned partition := by
    obtain rfl : topicPartition = orders := List.mem_singleton.mp assigned
    have listed : (soleCluster (soleGroup committed) endOffset).partitions orders.topic = [0] := by
      simp [soleCluster, orders]
    rw [listed]
    constructor
    · intro only
      rw [List.mem_singleton.mp only]
      exact List.mem_singleton_self orders
    · intro only
      exact List.mem_singleton.mpr (congrArg TopicPartition.partition (List.mem_singleton.mp only))

def sortOne : CollectionsSort KafkaConsumerInfo where
  sort := some
  perm sorted := (Option.some.inj sorted) ▸ List.Perm.refl _

theorem lags_agree_committed : Agree sortOne (soleCluster (soleGroup (some 3)) 5) (soleGroup (some 3)) :=
  (lags_agree_iff sortOne _ _ (assigned_soleGroup (some 3) 5)).mpr ⟨rfl, rfl⟩

/-- Five records and nothing committed: five are reported and none is shown. -/
theorem lags_differ_uncommitted : Assigned (soleCluster (soleGroup none) 5) (soleGroup none) ∧
    ¬Agree sortOne (soleCluster (soleGroup none) 5) (soleGroup none) := by
  refine ⟨assigned_soleGroup none 5, ?_⟩
  rintro ⟨rule, byReporter, byLoader⟩
  have reported : reportedLag (soleCluster (soleGroup none) 5) (soleGroup none) = some 5 := by decide
  have shown : shownLag sortOne (soleCluster (soleGroup none) 5) (soleGroup none) = some 0 := by decide
  have same : some (5 : Int) = some 0 := reported.symm.trans (byReporter.trans (byLoader.symm.trans shown))
  cases same

end Zms.Collector.KafkaLag
