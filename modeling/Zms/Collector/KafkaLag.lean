import Zms.Portal.ConsumerGroupLoader

/-! `KafkaReporter.collectKafkaConsumerInfo`: the lag of the consumer groups by topic, as the
collector reports it.
-/

set_option autoImplicit false

namespace Zms.Collector.KafkaLag

open Client.Consumer.Kafka (TopicPartition)
open Portal.Kafka (AdminCalls MemberDescription)

structure ConsumerStatus where
  group : String
  topic : String
  brokerOffset : Int
  consumerOffset : Int
  lag : Int

def ConsumerStatus.new : ConsumerStatus := ⟨"", "", 0, 0, 0⟩

/-! ### `KafkaServiceImpl` -/

def kafkaInternalTopic : String := "__consumer_offsets"

section Service
variable (calls : AdminCalls)

/-- The members of the group; an exception leaves none. -/
def getKafkaMetadata (group : String) : List MemberDescription := (calls.describeConsumerGroups group).getD []

/-- A set. -/
def getKafkaConsumerTopics (group : String) : List String :=
  ((getKafkaMetadata calls group).flatMap fun consumerGroup => consumerGroup.assignment.map TopicPartition.topic).dedup

/-- The internal topic has no partitions here; where the others cannot be described, it is left alone. -/
def findTopicPartitions (topics : List String) : List (String × List Nat) :=
  let internal := if kafkaInternalTopic ∈ topics then [(kafkaInternalTopic, [])] else []
  internal ++ (calls.describeTopics (topics.dedup.filter fun topic => topic ≠ kafkaInternalTopic)).getD []

def getLogSize (topic : String) (partition : Nat) : Option Int :=
  (calls.endOffsets [⟨topic, partition⟩]).map fun endOffsets => endOffsets ⟨topic, partition⟩

def getKafkaOffset (consumerGroup : String) : List (TopicPartition × Int) :=
  (calls.listConsumerGroupOffsets consumerGroup).getD []

end Service

/-! ### `KafkaReporter` -/

/-- What a partition adds to the lag. -/
def lagOf (logSize offset : Int) : Int :=
  if logSize ≠ 0 then (if offset = -1 then 0 else logSize - offset) else 0

section Reporter
variable (calls : AdminCalls)

/-- Without a committed offset the offset counts as 0. -/
def addPartition (group topic : String) (consumerOffsetMap : List (TopicPartition × Int))
    (consumerStatus : ConsumerStatus) (partition : Nat) : Option ConsumerStatus :=
  (getLogSize calls topic partition).map fun logSize =>
    let offset := (consumerOffsetMap.lookup ⟨topic, partition⟩).getD 0
    ⟨group, topic, logSize + consumerStatus.brokerOffset, offset + consumerStatus.consumerOffset,
      consumerStatus.lag + lagOf logSize offset⟩

/-- A topic that is not described is left out. -/
def groupStatuses (topicPartitions : List (String × List Nat)) (group : String) : Option (List ConsumerStatus) :=
  ((getKafkaConsumerTopics calls group).filterMap fun topic =>
    (topicPartitions.lookup topic).map fun partitions => (topic, partitions)).mapM fun entry =>
      entry.2.foldlM (addPartition calls group entry.1 (getKafkaOffset calls group)) ConsumerStatus.new

/-- The statuses of each group; an exception ends the collection with nothing. -/
def collectKafkaConsumerInfo (consumerGroups : List String) : Option (List (String × List ConsumerStatus)) :=
  let topics := consumerGroups.flatMap (getKafkaConsumerTopics calls)
  consumerGroups.dedup.mapM fun group =>
    (groupStatuses calls (findTopicPartitions calls topics) group).map fun statuses => (group, statuses)

end Reporter

end Zms.Collector.KafkaLag
