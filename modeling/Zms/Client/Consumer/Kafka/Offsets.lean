import Mathlib

/-! Acknowledged records and the offsets committed for them. -/

set_option autoImplicit false

namespace Zms.Client.Consumer.Kafka

structure TopicPartition where
  topic : String
  partition : Nat
  deriving DecidableEq, Repr

structure ConsumerRecord where
  topic : String
  partition : Nat
  offset : Nat
  deriving DecidableEq, Repr

def ConsumerRecord.topicPartition (record : ConsumerRecord) : TopicPartition :=
  ⟨record.topic, record.partition⟩

theorem ConsumerRecord.eq_of_place {record other : ConsumerRecord}
    (samePartition : record.topicPartition = other.topicPartition) (sameOffset : record.offset = other.offset) :
    record = other := by
  cases record
  cases other
  simp_all [topicPartition]

/-- The capacity of the queue `acks`. -/
def acksCapacity : Nat := 100000

/-- The map `offsets`, with the topic and the partition joined into one key. -/
abbrev Offsets := List (TopicPartition × Nat)

def addOffset (record : ConsumerRecord) : Offsets → Offsets
  | [] => [(record.topicPartition, record.offset)]
  | (key, value) :: rest =>
      if key = record.topicPartition then (key, max value record.offset) :: rest
      else (key, value) :: addOffset record rest

def handleAcks (acks : List ConsumerRecord) (offsets : Offsets) : Offsets :=
  acks.foldl (fun offsets record => addOffset record offsets) offsets

def buildCommits (offsets : Offsets) : List (TopicPartition × Nat) :=
  offsets.map fun entry => (entry.1, entry.2 + 1)

theorem mem_addOffset {record : ConsumerRecord} {offsets : Offsets} {entry : TopicPartition × Nat}
    (member : entry ∈ addOffset record offsets) :
    entry ∈ offsets ∨ entry = (record.topicPartition, record.offset) := by
  induction offsets with
  | nil => exact Or.inr (List.mem_singleton.mp member)
  | cons head rest ih =>
    obtain ⟨key, value⟩ := head
    simp only [addOffset] at member
    split at member
    · next same =>
      subst same
      rcases List.mem_cons.mp member with rfl | later
      · rcases Nat.le_total value record.offset with below | above
        · exact Or.inr (by rw [Nat.max_eq_right below])
        · exact Or.inl (by rw [Nat.max_eq_left above]; exact List.mem_cons_self)
      · exact Or.inl (List.mem_cons_of_mem _ later)
    · rcases List.mem_cons.mp member with rfl | later
      · exact Or.inl List.mem_cons_self
      · exact (ih later).imp_left (List.mem_cons_of_mem _)

theorem mem_handleAcks {acks : List ConsumerRecord} {offsets : Offsets} {entry : TopicPartition × Nat}
    (member : entry ∈ handleAcks acks offsets) :
    entry ∈ offsets ∨ ∃ record ∈ acks, entry = (record.topicPartition, record.offset) := by
  induction acks generalizing offsets with
  | nil => exact Or.inl member
  | cons record rest ih =>
    rcases ih member with earlier | ⟨later, inRest, same⟩
    · rcases mem_addOffset earlier with old | new
      · exact Or.inl old
      · exact Or.inr ⟨record, List.mem_cons_self, new⟩
    · exact Or.inr ⟨later, List.mem_cons_of_mem _ inRest, same⟩

theorem mem_buildCommits {offsets : Offsets} {commit : TopicPartition × Nat} :
    commit ∈ buildCommits offsets ↔ ∃ entry ∈ offsets, commit = (entry.1, entry.2 + 1) := by
  simp only [buildCommits, List.mem_map, eq_comm]

end Zms.Client.Consumer.Kafka
