import Mathlib
import Zms.Metadata

/-! The resetters of a Kafka group's committed offsets. -/

set_option autoImplicit false

namespace Zms.Service.KafkaReset

structure TopicPartition where
  topic : String
  partition : Nat
  deriving DecidableEq, Repr

structure Record where
  offset : Int
  timestamp : Int
  deriving DecidableEq, Repr

/-- The records that are left of a partition, in the order of their offsets. -/
structure Log where
  beginningOffset : Int
  endOffset : Int
  records : List Record
  ordered : beginningOffset ≤ endOffset
  sorted : records.Pairwise fun first later => first.offset < later.offset
  within : ∀ record ∈ records, beginningOffset ≤ record.offset ∧ record.offset < endOffset

/-- A map, `none` where it has no entry. -/
abbrev Offsets : Type := TopicPartition → Option Int

/-- The logs of a cluster, and the committed offsets of each group. -/
structure Cluster where
  logs : TopicPartition → Log
  committed : String → Offsets

/-- A name that Kafka accepts has at least one character that is not blank. -/
structure Topic where
  name : String
  legal : isNotBlank (some name) = true

inductive Resetter where
  | KafkaEarliestResetter
  | KafkaLatestResetter
  | KafkaOffsetResetter (offset : Int)
  | KafkaTimeResetter (time : Int)
  deriving DecidableEq, Repr

/-- The earliest record from the time on; `none` where there is none. -/
def Log.offsetsForTimes (log : Log) (time : Int) : Option Int :=
  (log.records.find? fun record => time ≤ record.timestamp).map (·.offset)

/-- The target of a partition that has a committed offset. -/
def Resetter.target (resetter : Resetter) (log : Log) : Option Int :=
  match resetter with
  | .KafkaEarliestResetter => some log.beginningOffset
  | .KafkaLatestResetter => some log.endOffset
  | .KafkaOffsetResetter offset =>
      if log.endOffset < offset then some log.endOffset
      else if offset < log.beginningOffset then some log.beginningOffset
      else some offset
  | .KafkaTimeResetter time => log.offsetsForTimes time

/-- `keys` says which partitions have a committed offset. -/
def Resetter.findOffsets (resetter : Resetter) (cluster : Cluster) (keys : TopicPartition → Bool) : Offsets :=
  fun topicPartition => if keys topicPartition then resetter.target (cluster.logs topicPartition) else none

/-- The entries that are committed: those of the topic, or all where the topic is blank. -/
def select (topic : String) (targetOffsets : Offsets) : Offsets := fun topicPartition =>
  if isNotBlank (some topic) then
    if topicPartition.topic = topic then targetOffsets topicPartition else none
  else targetOffsets topicPartition

def Cluster.commitSync (cluster : Cluster) (group : String) (offsets : Offsets) : Cluster :=
  let updated : Offsets := fun topicPartition =>
    (offsets topicPartition).or (cluster.committed group topicPartition)
  { cluster with committed := Function.update cluster.committed group updated }

/-- `throws` says that one of the calls fails. -/
def execute (throws : Bool) (resetter : Resetter) (topic consumer : String) (cluster : Cluster) : Option Cluster :=
  if throws then none
  else
    let targetOffsets := resetter.findOffsets cluster fun topicPartition =>
      (cluster.committed consumer topicPartition).isSome
    some (cluster.commitSync consumer (select topic targetOffsets))

/-- The offset is the first whose timestamp is not before the time. -/
def IsFirst (log : Log) (time offset : Int) : Prop :=
  ∃ record ∈ log.records, record.offset = offset ∧ time ≤ record.timestamp ∧
    ∀ other ∈ log.records, time ≤ other.timestamp → offset ≤ other.offset

/-- What the group is to have committed for a partition that is reset. -/
def Asked (resetter : Resetter) (log : Log) (offset : Int) : Prop :=
  match resetter with
  | .KafkaEarliestResetter => offset = log.beginningOffset
  | .KafkaLatestResetter => offset = log.endOffset
  | .KafkaOffsetResetter requested => offset = min (max requested log.beginningOffset) log.endOffset
  | .KafkaTimeResetter time =>
      IsFirst log time offset ∨ (∀ record ∈ log.records, record.timestamp < time) ∧ offset = log.endOffset

/-- Exactly the topic's partitions that had a committed offset are reset, and as asked. -/
structure Resets (resetter : Resetter) (topic consumer : String) (cluster after : Cluster) : Prop where
  moved : ∀ topicPartition, topicPartition.topic = topic → (cluster.committed consumer topicPartition).isSome = true →
    ∃ offset, after.committed consumer topicPartition = some offset ∧
      Asked resetter (cluster.logs topicPartition) offset
  others : ∀ group topicPartition,
    group ≠ consumer ∨ topicPartition.topic ≠ topic ∨ cluster.committed group topicPartition = none →
      after.committed group topicPartition = cluster.committed group topicPartition

/-- Each of the partitions has a record from the time on, or is at the end of its log already. -/
def Reaches (resetter : Resetter) (topic consumer : String) (cluster : Cluster) : Prop :=
  match resetter with
  | .KafkaTimeResetter time => ∀ topicPartition, topicPartition.topic = topic →
      ∀ offset, cluster.committed consumer topicPartition = some offset →
        (∃ record ∈ (cluster.logs topicPartition).records, time ≤ record.timestamp) ∨
          offset = (cluster.logs topicPartition).endOffset
  | _ => True

section Targets
variable {log : Log} {time offset : Int}

theorem offsetsForTimes_eq_some (found : log.offsetsForTimes time = some offset) : IsFirst log time offset := by
  obtain ⟨record, first, rfl⟩ := Option.map_eq_some_iff.mp found
  refine ⟨record, List.mem_of_find?_eq_some first, rfl, by simpa using List.find?_some first, ?_⟩
  intro other member late
  obtain ⟨-, before, after, split, early⟩ := List.find?_eq_some_iff_append.mp first
  rw [split] at member
  obtain old | here := List.mem_append.mp member
  · have absurdity := early other old
    simp [late] at absurdity
  · obtain rfl | later := List.mem_cons.mp here
    · exact le_rfl
    · have sorted := log.sorted
      rw [split, List.pairwise_append, List.pairwise_cons] at sorted
      exact (sorted.2.1.1 other later).le

theorem offsetsForTimes_eq_none : log.offsetsForTimes time = none ↔ ∀ record ∈ log.records, record.timestamp < time := by
  unfold Log.offsetsForTimes
  rw [Option.map_eq_none_iff, List.find?_eq_none]
  simp

theorem asked_of_target {resetter : Resetter} (target : resetter.target log = some offset) :
    Asked resetter log offset := by
  cases resetter with
  | KafkaEarliestResetter => exact (Option.some.inj target).symm
  | KafkaLatestResetter => exact (Option.some.inj target).symm
  | KafkaOffsetResetter requested =>
    have ordered := log.ordered
    simp only [Resetter.target] at target
    unfold Asked
    split at target
    · cases target
      omega
    · split at target
      · cases target
        omega
      · cases target
        omega
  | KafkaTimeResetter time => exact .inl (offsetsForTimes_eq_some target)

end Targets

section Committed
variable {throws : Bool} {resetter : Resetter} {topic : Topic} {consumer : String} {cluster after : Cluster}

theorem committed_of_execute (returns : execute throws resetter topic.name consumer cluster = some after)
    (group : String) (topicPartition : TopicPartition) :
    after.committed group topicPartition =
      if group = consumer ∧ topicPartition.topic = topic.name ∧ (cluster.committed consumer topicPartition).isSome then
        (resetter.target (cluster.logs topicPartition)).or (cluster.committed group topicPartition)
      else cluster.committed group topicPartition := by
  unfold execute at returns
  split at returns
  · cases returns
  · cases returns
    by_cases same : group = consumer
    · subst same
      simp only [Cluster.commitSync, Function.update_self, select, topic.legal, if_true, Resetter.findOffsets, true_and]
      by_cases own : topicPartition.topic = topic.name
      · by_cases known : (cluster.committed group topicPartition).isSome = true
        · simp only [own, known, if_true, and_self]
        · simp only [own, known, if_true, and_false, if_false, Bool.false_eq_true, Option.none_or]
      · simp only [own, if_false, false_and, Option.none_or]
    · simp only [Cluster.commitSync, Function.update_of_ne same, same, false_and, if_false]

/-- A reset that returns did what was asked exactly when the time is reached. -/
theorem resets_iff (returns : execute throws resetter topic.name consumer cluster = some after) :
    Resets resetter topic.name consumer cluster after ↔ Reaches resetter topic.name consumer cluster := by
  have committed := committed_of_execute returns
  have others : ∀ group topicPartition,
      group ≠ consumer ∨ topicPartition.topic ≠ topic.name ∨ cluster.committed group topicPartition = none →
        after.committed group topicPartition = cluster.committed group topicPartition := by
    intro group topicPartition other
    rw [committed, if_neg]
    rintro ⟨rfl, own, known⟩
    obtain other | other | unknown := other
    · exact other rfl
    · exact other own
    · rw [unknown] at known
      cases known
  have moved : ∀ topicPartition, topicPartition.topic = topic.name →
      (cluster.committed consumer topicPartition).isSome = true → after.committed consumer topicPartition =
        (resetter.target (cluster.logs topicPartition)).or (cluster.committed consumer topicPartition) := by
    intro topicPartition own known
    rw [committed, if_pos ⟨rfl, own, known⟩]
  constructor
  · intro resets
    cases resetter with
    | KafkaEarliestResetter | KafkaLatestResetter | KafkaOffsetResetter requested => trivial
    | KafkaTimeResetter time =>
      intro topicPartition own offset before
      have known : (cluster.committed consumer topicPartition).isSome = true := by
        rw [before]
        rfl
      obtain ⟨reset, now, ⟨record, member, -, late, -⟩ | ⟨early, ends⟩⟩ := resets.moved topicPartition own known
      · exact .inl ⟨record, member, late⟩
      · -- nothing is found, so that the offset is the old one
        rw [moved topicPartition own known, Resetter.target, offsetsForTimes_eq_none.mpr early, Option.none_or,
          before] at now
        cases now
        exact .inr ends
  · intro reaches
    refine ⟨fun topicPartition own known => ?_, others⟩
    rw [moved topicPartition own known]
    cases target : resetter.target (cluster.logs topicPartition) with
    | some offset => exact ⟨offset, rfl, asked_of_target target⟩
    | none =>
      obtain ⟨offset, before⟩ := Option.isSome_iff_exists.mp known
      refine ⟨offset, before, ?_⟩
      cases resetter with
      | KafkaEarliestResetter => cases target
      | KafkaLatestResetter => cases target
      | KafkaOffsetResetter requested =>
        simp only [Resetter.target] at target
        split at target
        · cases target
        · split at target <;> cases target
      | KafkaTimeResetter time =>
        have early := offsetsForTimes_eq_none.mp target
        obtain ⟨record, member, late⟩ | ends := reaches topicPartition own offset before
        · exact absurd (early record member) (not_lt.mpr late)
        · exact .inr ⟨early, ends⟩

end Committed

section Example

def orders : Topic := ⟨"orders", by decide⟩

def twoRecords : Log := ⟨0, 2, [⟨0, 100⟩, ⟨1, 200⟩], by decide, by decide, by decide⟩

/-- A group that has committed offset 0 of every partition. -/
def fresh : Cluster := ⟨fun _ => twoRecords, fun _ _ => some 0⟩

theorem resets_at_150 : ∃ after, execute false (.KafkaTimeResetter 150) orders.name "group" fresh = some after ∧
    after.committed "group" ⟨"orders", 0⟩ = some 1 ∧
    Resets (.KafkaTimeResetter 150) orders.name "group" fresh after := by
  have done : ∃ after, execute false (.KafkaTimeResetter 150) orders.name "group" fresh = some after := ⟨_, rfl⟩
  obtain ⟨after, returns⟩ := done
  refine ⟨after, returns, ?_, (resets_iff returns).mpr ?_⟩
  · cases returns
    decide
  · intro topicPartition _ offset _
    have late : ∃ record ∈ twoRecords.records, 150 ≤ record.timestamp := by decide
    exact .inl late

/-- A time after the last record: the group stays at the beginning of the log. -/
theorem not_resets : ¬ ∀ (throws : Bool) (resetter : Resetter) (topic : Topic) (consumer : String)
    (cluster after : Cluster), execute throws resetter topic.name consumer cluster = some after →
      Resets resetter topic.name consumer cluster after := by
  intro always
  have resets := always false (.KafkaTimeResetter 300) orders "group" fresh _ rfl
  obtain ⟨offset, now, asked⟩ := resets.moved ⟨"orders", 0⟩ rfl rfl
  cases now
  obtain ⟨record, member, -, late, -⟩ | ⟨-, ends⟩ := asked
  · have early : ∀ record ∈ twoRecords.records, ¬ 300 ≤ record.timestamp := by decide
    exact early record member late
  · revert ends
    decide

end Example

end Zms.Service.KafkaReset
