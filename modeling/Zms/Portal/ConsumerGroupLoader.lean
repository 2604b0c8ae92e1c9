import Zms.Client.Consumer.Kafka.Offsets

/-! `ConsumerGroupLoader`: the partitions of a consumer group with their lag, as the portal shows
them; and the order of such listings, which `TopicLoader` has too.
-/

set_option autoImplicit false

namespace Zms.Portal.Kafka

open Client.Consumer.Kafka (TopicPartition)

structure MemberDescription where
  consumerId : String
  clientId : String
  host : String
  assignment : List TopicPartition

/-- The answers of a Kafka cluster; `none` is an exception. -/
structure AdminCalls where
  describeConsumerGroups : String → Option (List MemberDescription)
  listConsumerGroupOffsets : String → Option (List (TopicPartition × Int))
  describeTopics : List String → Option (List (String × List Nat))
  endOffsets : List TopicPartition → Option (TopicPartition → Int)

structure KafkaConsumerInfo where
  clientId : Option String
  consumerId : Option String
  host : Option String
  consumerOffset : Int
  brokerOffset : Int
  topic : String
  consumer : String
  partition : Nat
  lag : Int

structure KafkaConsumerSummary where
  consumerInfos : List KafkaConsumerInfo
  totalLag : Int

structure KafkaTopicInfo where
  topic : String
  partition : Nat
  offset : Int
  leader : String
  replicas : String
  isr : String

/-- The comparator of `ConsumerGroupLoader.consumerGroup` and `TopicLoader.load`. -/
def comparePartition {α : Type} (getPartition : α → Nat) (o1 o2 : α) : Int :=
  if getPartition o1 > getPartition o2 then 1 else -1

/-- Without a committed offset the offset and the lag keep their zeros. -/
def memberInfo (group : String) (consumerSummary : MemberDescription)
    (listGroupOffsets : List (TopicPartition × Int)) (endOffsets : TopicPartition → Int)
    (topicPartition : TopicPartition) : KafkaConsumerInfo where
  clientId := some consumerSummary.clientId
  consumerId := some consumerSummary.consumerId
  host := some consumerSummary.host
  consumerOffset := (listGroupOffsets.lookup topicPartition).getD 0
  brokerOffset := endOffsets topicPartition
  topic := topicPartition.topic
  consumer := group
  partition := topicPartition.partition
  lag :=
    match listGroupOffsets.lookup topicPartition with
    | some consumerOffset => endOffsets topicPartition - consumerOffset
    | none => 0

def offsetInfo (group : String) (endOffsets : TopicPartition → Int) (entry : TopicPartition × Int) :
    KafkaConsumerInfo where
  clientId := none
  consumerId := none
  host := none
  consumerOffset := entry.2
  brokerOffset := endOffsets entry.1
  topic := entry.1.topic
  consumer := group
  partition := entry.1.partition
  lag := endOffsets entry.1 - entry.2

/-- An exception keeps what the members before it have added. -/
def memberInfos (calls : AdminCalls) (group : String) (listGroupOffsets : List (TopicPartition × Int)) :
    List MemberDescription → List KafkaConsumerInfo
  | [] => []
  | consumerSummary :: rest =>
      match calls.endOffsets consumerSummary.assignment with
      | none => []
      | some endOffsets =>
          consumerSummary.assignment.map (memberInfo group consumerSummary listGroupOffsets endOffsets) ++
            memberInfos calls group listGroupOffsets rest

def consumerInfos (calls : AdminCalls) (group : String) : List KafkaConsumerInfo :=
  match calls.listConsumerGroupOffsets group, calls.describeConsumerGroups group with
  | some listGroupOffsets, some memberDescriptions =>
      if memberDescriptions ≠ [] then memberInfos calls group listGroupOffsets memberDescriptions
      else
        match calls.endOffsets (listGroupOffsets.map Prod.fst) with
        | none => []
        | some endOffsets => listGroupOffsets.map (offsetInfo group endOffsets)
  | _, _ => []

/-- `Collections.sort`: where it returns, the list has been permuted. -/
structure CollectionsSort (α : Type) where
  sort : List α → Option (List α)
  perm : ∀ {elements sorted}, sort elements = some sorted → sorted.Perm elements

def consumerGroup (sort : CollectionsSort KafkaConsumerInfo) (calls : AdminCalls) (group : String) :
    Option (List KafkaConsumerInfo) := sort.sort (consumerInfos calls group)

def load (sort : CollectionsSort KafkaConsumerInfo) (calls : AdminCalls) (group : String) :
    Option KafkaConsumerSummary :=
  (consumerGroup sort calls group).map fun consumerGroups =>
    ⟨consumerGroups, consumerGroups.foldl (fun totalLag consumerGroup => totalLag + consumerGroup.lag) 0⟩

end Zms.Portal.Kafka
