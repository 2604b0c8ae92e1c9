import Mathlib
import Zms.Metadata
import Zms.Transition.Catching

/-! The work of the two reporters, `RocketMQReporter` and `KafkaReporter`, on one
cluster: what calls out, what is cached, and which part of it which catch clause guards.

The calls of one execution answer, answer null (`none`) or throw, as the
environment chooses. The numbers in the metrics are left out: what is put into the
buffer is the measurement.
-/

set_option autoImplicit false

namespace Zms.Collector

open Zms.Transition Zms.Transition.Catching

/-- As far as the catch clauses tell them apart; `other` is any further exception, of which
`NullPointerException` is one, and `error` what is no `Exception`. -/
inductive Throwable where
  | interrupted | remotingConnect | remotingTimeout | remotingSendRequest | mqBroker | mqClient | other | error
  deriving DecidableEq, Repr

namespace Throwable

def isException (thrown : Throwable) : Bool := thrown != .error

def isThrowable (_ : Throwable) : Bool := true

/-- The clause of `putClusterInfo`. -/
def isRemoting : Throwable → Bool
  | .interrupted | .remotingConnect | .remotingTimeout | .remotingSendRequest | .mqBroker => true
  | .mqClient | .other | .error => false

end Throwable

abbrev Answer (α : Type) : Type := Except Throwable α

structure BrokerData where
  brokerName : String
  brokerAddrs : Option (List (Int × String))
  deriving Repr

structure ClusterInfo where
  brokerAddrTable : Option (List (String × Option BrokerData))
  deriving Repr

structure TopicList where
  topicList : Option (List String)
  deriving Repr

structure Node where
  id : Int
  host : String
  port : Int
  deriving Repr

structure ConsumerGroupInfo where
  group : String
  deriving Repr

inductive Measurement where
  | CLUSTER_NUMBER_INFO | CLUSTER_STRING_INFO | RT_TIME
  | MQ_BROKER_NUMBER_INFO | MQ_BROKER_STRING_INFO | MQ_TOPIC_INFO | MQ_CONSUMER_NUMBER_INFO | MQ_CONSUMER_STRING_INFO
  | KAFKA_BROKER_INFO | KAFKA_TOPIC_INFO | KAFKA_ENV_INFO | KAFKA_CONSUMER_NUMBER_INFO
  | STATISTIC_TOPIC_DAILY_OFFSETS_INFO | STATISTIC_CLUSTER_DAILY_OFFSETS_INFO
  | STATISTIC_TOPIC_OFFSETS_INFO | STATISTIC_DLQ_TOPIC_OFFSETS_INFO
  deriving DecidableEq, Repr

/-- The maps of the meta managers, those of the reporters and the buffer. -/
structure Caches where
  clusterInfos : String → Option ClusterInfo
  clusterTopics : String → Option TopicList
  clusterNodes : String → Option (List Node)
  clusterControllers : String → Option Node
  topics : String → Option (List String)
  consumers : String → Option (List ConsumerGroupInfo)
  topicMaxOffsets : BrokerType → String → Option Int
  metricBuffer : List Measurement

namespace Caches

def empty : Caches where
  clusterInfos _ := none
  clusterTopics _ := none
  clusterNodes _ := none
  clusterControllers _ := none
  topics _ := none
  consumers _ := none
  topicMaxOffsets _ _ := none
  metricBuffer := []

def putTopicMaxOffset (caches : Caches) (type : BrokerType) (cacheKey : String) (offset : Int) : Caches :=
  let ofType := Function.update (caches.topicMaxOffsets type) cacheKey (some offset)
  { caches with topicMaxOffsets := Function.update caches.topicMaxOffsets type ofType }

end Caches

abbrev Program (α : Type) : Type := Catching Throwable Caches α

/-- Follow a reference, with a `NullPointerException` where it is null. -/
def dereference {α : Type} (reference : Option α) : Program α := nonNull .other reference

def put (measurement : Measurement) : Program Unit :=
  modify fun caches => { caches with metricBuffer := caches.metricBuffer ++ [measurement] }

/-- InfluxDB, as `AbstractReporter` and the reporters query and write it. -/
structure InfluxCalls where
  getLastTopicMaxOffset : String → Answer (Option Int)
  getLastClusterMaxOffset : Answer (Option Int)
  writeData : Measurement → Answer Unit

namespace AbstractReporter

def saveStatisticClusterOffset (calls : InfluxCalls) : Program Unit := do
  let _ ← call calls.getLastClusterMaxOffset
  put .STATISTIC_CLUSTER_DAILY_OFFSETS_INFO

def saveStatisticTopicOffset (calls : InfluxCalls) (topic : String) : Program Unit := do
  let _ ← call (calls.getLastTopicMaxOffset topic)
  put .STATISTIC_TOPIC_DAILY_OFFSETS_INFO

def saveRtMetrics : Program Unit := do
  put .RT_TIME
  put .CLUSTER_NUMBER_INFO

/-- The offset that the increase is counted from. -/
def standardVal (calls : InfluxCalls) (type : BrokerType) (clusterName topic : String) : Program Int := do
  let cacheKey := clusterName ++ "." ++ topic
  let caches ← get
  match caches.topicMaxOffsets type cacheKey with
  | some offset => pure offset
  | none => do
      let latest ← call (calls.getLastTopicMaxOffset topic)
      match latest with
      | none => pure 0
      | some offset => do
          modify fun caches => caches.putTopicMaxOffset type cacheKey offset
          pure offset

def writeUnlessEmpty (calls : InfluxCalls) (measurement : Measurement) (isEmpty : Bool) : Program Unit :=
  if isEmpty then pure () else call (calls.writeData measurement)

end AbstractReporter

/-! ## RocketMQ -/

/-- The places that ask for the admin client of the cluster. -/
inductive MqAdminUse where
  | putClusterInfo | putClusterTopics | collectMqMetrics
  | consumer (name : String)
  | stats (topic : String)
  deriving DecidableEq, Repr

/-- `runtimeStats` stands for the call and the reading of its numbers. -/
structure MqCalls where
  getMqAdmin : MqAdminUse → Answer (Option Unit)
  examineBrokerClusterInfo : Answer (Option ClusterInfo)
  fetchTopicsByCLuster : Answer (Option TopicList)
  runtimeStats : Option String → Answer Unit
  viewBrokerStatsData : Option String → String → Answer Unit
  queryTopicConsumeByWho : String → Answer (List String)
  fetchConsumeStatsInBroker : Option String → Answer (List String)
  examineConsumerConnectionInfo : String → Answer Unit
  examineTopicStats : String → Answer (List Int)
  send : String → Answer Unit
  influx : InfluxCalls

namespace MqMetaManager

def RETRY_QUEUE : String := "%RETRY%"
def DLQ_QUEUE : String := "%DLQ%"
def TEMPLATE_QUEUE : String := "TBW012"
def BENCHMARK : String := "BenchmarkTest"

def startsWith (text start : String) : Bool := start.toList.isPrefixOf text.toList

def getClusterInfo (clusterName : String) : Program (Option ClusterInfo) := do
  let caches ← get
  pure (caches.clusterInfos clusterName)

/-- A null answer is not put into the map, which throws instead. -/
def putClusterInfo (calls : MqCalls) (clusterName : String) : Program Unit :=
  catching Throwable.isRemoting
    (do
      let mqAdmin ← call (calls.getMqAdmin .putClusterInfo)
      let _ ← dereference mqAdmin
      let answered ← call calls.examineBrokerClusterInfo
      let clusterInfo ← dereference answered
      modify fun caches =>
        { caches with clusterInfos := Function.update caches.clusterInfos clusterName (some clusterInfo) })
    (pure ())

def putClusterTopics (calls : MqCalls) (clusterName : String) : Program Unit :=
  catching Throwable.isException
    (do
      let mqAdmin ← call (calls.getMqAdmin .putClusterTopics)
      let _ ← dereference mqAdmin
      let answered ← call calls.fetchTopicsByCLuster
      let topicList ← dereference answered
      modify fun caches =>
        { caches with clusterTopics := Function.update caches.clusterTopics clusterName (some topicList) })
    (pure ())

def notMonitor (topicName clusterName : String) : Bool :=
  topicName == clusterName || topicName == TEMPLATE_QUEUE || topicName == BENCHMARK ||
    startsWith topicName RETRY_QUEUE

def filterUselessTopic (clusterName : String) (topicList : Option TopicList) : List String :=
  (((topicList.bind (·.topicList)).getD []).filter fun s => !notMonitor s clusterName).dedup

def getClusterTopics (clusterName : String) : Program (List String) := do
  let caches ← get
  pure (filterUselessTopic clusterName (caches.clusterTopics clusterName))

end MqMetaManager

namespace RocketMQReporter

open MqMetaManager AbstractReporter

def refreshMetaOfCluster (calls : MqCalls) (clusterName : String) : Program Unit := do
  putClusterInfo calls clusterName
  putClusterTopics calls clusterName

/-- The statistics of a topic at one broker, and of the retries of its groups. -/
def collectTopic (calls : MqCalls) (brokerAddr : Option String) (topic : String) : Program Unit :=
  catching Throwable.isException
    (do
      call (calls.viewBrokerStatsData brokerAddr topic)
      let groupList ← call (calls.queryTopicConsumeByWho topic)
      forEach (fun group => call (calls.viewBrokerStatsData brokerAddr (topic ++ "@" ++ group))) groupList)
    (pure ())

def collectConsumer (calls : MqCalls) (consumer : String) : Program Unit := do
  let mqAdminExt ← call (calls.getMqAdmin (.consumer consumer))
  catching Throwable.isException
    (do
      let _ ← dereference mqAdminExt
      call (calls.examineConsumerConnectionInfo consumer))
    (pure ())

def collectBroker (calls : MqCalls) (mqAdmin : Option Unit) (topicList : List String)
    (entry : String × Option BrokerData) : Program Unit := do
  let brokerData ← dereference entry.2
  let brokerAddrs ← dereference brokerData.brokerAddrs
  let brokerAddr := brokerAddrs.lookup 0
  let _ ← dereference mqAdmin
  call (calls.runtimeStats brokerAddr)
  forEach (collectTopic calls brokerAddr) topicList
  catching Throwable.isException
    (do
      let consumers ← call (calls.fetchConsumeStatsInBroker brokerAddr)
      forEach (collectConsumer calls) consumers)
    (pure ())

def collectMqMetrics (calls : MqCalls) (clusterName : String) : Program Unit :=
  catching Throwable.isException
    (do
      let mqAdmin ← call (calls.getMqAdmin .collectMqMetrics)
      let known ← getClusterInfo clusterName
      let topicList ← getClusterTopics clusterName
      let clusterInfo ← dereference known
      let brokerAddrTable ← dereference clusterInfo.brokerAddrTable
      forEach (collectBroker calls mqAdmin topicList) brokerAddrTable
      forEach put [.CLUSTER_NUMBER_INFO, .MQ_BROKER_NUMBER_INFO, .MQ_BROKER_STRING_INFO, .MQ_TOPIC_INFO,
        .MQ_CONSUMER_NUMBER_INFO, .MQ_CONSUMER_STRING_INFO])
    (pure ())

/-- The sum is over all entries, so one without addresses ends it. -/
def calcClusterNums (clusterInfo : Option ClusterInfo) : Program Unit := do
  let clusterInfo ← dereference clusterInfo
  let entries ← dereference clusterInfo.brokerAddrTable
  forEach
    (fun entry => do
      let brokerData ← dereference entry.2
      let _ ← dereference brokerData.brokerAddrs
      pure ())
    entries

def sendToBroker (calls : MqCalls) (entry : String × Option BrokerData) : Program Unit := do
  let brokerData ← dereference entry.2
  catching Throwable.isException (call (calls.send brokerData.brokerName)) (pure ())

/-- Only the look at the map of cluster infos and the sending are guarded. -/
def collectRtTime (calls : MqCalls) (clusterName : String) : Program Unit := do
  let clusterInfo ← getClusterInfo clusterName
  calcClusterNums clusterInfo
  let known ← dereference clusterInfo
  let brokerAddrTable ← dereference known.brokerAddrTable
  forEach (sendToBroker calls) brokerAddrTable
  saveRtMetrics

/-- `stats` wraps every exception in an unchecked one. -/
def stats (calls : MqCalls) (topic : String) : Program (List Int) :=
  catching Throwable.isException
    (do
      let mqAdminExt ← call (calls.getMqAdmin (.stats topic))
      let _ ← dereference mqAdminExt
      call (calls.examineTopicStats topic))
    (call (.error .other))

def recordTopic (calls : MqCalls) (clusterName topic : String) : Program Unit := do
  let topicStats ← catching Throwable.isThrowable (some <$> stats calls topic) (pure none)
  match topicStats with
  | none => pure ()
  | some topicStatsLst => do
      saveStatisticTopicOffset calls.influx topic
      modify fun caches =>
        caches.putTopicMaxOffset .ROCKETMQ (clusterName ++ "." ++ topic) topicStatsLst.sum

def recordMaxOffset (calls : MqCalls) (clusterName : String) : Program Unit :=
  catching Throwable.isThrowable
    (do
      let topics ← getClusterTopics clusterName
      forEach (recordTopic calls clusterName)
        (topics.filter fun topic => !(startsWith topic DLQ_QUEUE || startsWith topic RETRY_QUEUE))
      saveStatisticClusterOffset calls.influx)
    (pure ())

/-- Whether there is a metric of the topic, and whether it is one of a dead-letter queue. -/
def recordTopicInflux (calls : MqCalls) (clusterName topic : String) : Program (Option Bool) := do
  let topicStats ← catching Throwable.isThrowable (some <$> stats calls topic) (pure none)
  match topicStats with
  | none => pure none
  | some _ =>
      if startsWith topic DLQ_QUEUE then pure (some true)
      else do
        let _ ← standardVal calls.influx .ROCKETMQ clusterName topic
        pure (some false)

def recordMaxOffsetInflux (calls : MqCalls) (clusterName : String) : Program Unit :=
  catching Throwable.isThrowable
    (do
      let topics ← getClusterTopics clusterName
      let metrics ← collect (recordTopicInflux calls clusterName)
        (topics.filter fun topic => !startsWith topic RETRY_QUEUE)
      writeUnlessEmpty calls.influx .STATISTIC_TOPIC_OFFSETS_INFO (!metrics.contains (some false))
      writeUnlessEmpty calls.influx .STATISTIC_DLQ_TOPIC_OFFSETS_INFO (!metrics.contains (some true)))
    (pure ())

end RocketMQReporter

/-! ## Kafka -/

inductive KafkaAdminUse where
  | putClusterController | putClusterNodes | putClusterTopics | putKafkaConsumers
  deriving DecidableEq, Repr

/-- `partition` calls are those of `KafkaService`. -/
structure KafkaCalls where
  getKafkaAdmin : KafkaAdminUse → Answer (Option Unit)
  controller : Answer (Option Node)
  nodes : Answer (Option (List Node))
  listTopics : Answer (Option (List String))
  listConsumerGroups : Answer (Option (List String))
  buildKafkaMetricsInfo : List String → Option (List String) → Answer (Option Unit)
  getKafkaConsumerTopics : String → Answer (Option (List String))
  findTopicPartitions : Option (List String) → Answer (Option (List (String × List Nat)))
  getLogSize : String → Nat → Answer Int
  getKafkaOffset : String → Answer (Option (List ((String × Nat) × Int)))
  send : Node → Answer Unit
  influx : InfluxCalls

namespace KafkaMetaManager

def putClusterNodes (calls : KafkaCalls) (clusterName : String) : Program Unit :=
  catching Throwable.isException
    (do
      let kafkaAdmin ← call (calls.getKafkaAdmin .putClusterNodes)
      let _ ← dereference kafkaAdmin
      let answered ← call calls.nodes
      let nodes ← dereference answered
      modify fun caches =>
        { caches with clusterNodes := Function.update caches.clusterNodes clusterName (some nodes) })
    (pure ())

def putClusterController (calls : KafkaCalls) (clusterName : String) : Program Unit :=
  catching Throwable.isException
    (do
      let kafkaAdmin ← call (calls.getKafkaAdmin .putClusterController)
      let _ ← dereference kafkaAdmin
      let answered ← call calls.controller
      let controller ← dereference answered
      modify fun caches =>
        { caches with clusterControllers := Function.update caches.clusterControllers clusterName (some controller) })
    (pure ())

def putClusterTopics (calls : KafkaCalls) (clusterName : String) : Program Unit :=
  catching Throwable.isException
    (do
      let kafkaAdmin ← call (calls.getKafkaAdmin .putClusterTopics)
      let _ ← dereference kafkaAdmin
      let answered ← call calls.listTopics
      let topicLst ← dereference answered
      modify fun caches => { caches with topics := Function.update caches.topics clusterName (some topicLst) })
    (pure ())

def putKafkaConsumers (calls : KafkaCalls) (clusterName : String) : Program Unit :=
  catching Throwable.isException
    (do
      let adminClient ← call (calls.getKafkaAdmin .putKafkaConsumers)
      let _ ← dereference adminClient
      let answered ← call calls.listConsumerGroups
      let groupGroups ← dereference answered
      modify fun caches => { caches with
        consumers := Function.update caches.consumers clusterName (some (groupGroups.map ConsumerGroupInfo.mk)) })
    (pure ())

end KafkaMetaManager

namespace KafkaReporter

open KafkaMetaManager AbstractReporter

def refreshMetaOfCluster (calls : KafkaCalls) (clusterName : String) : Program Unit := do
  putClusterController calls clusterName
  putClusterNodes calls clusterName
  putClusterTopics calls clusterName
  putKafkaConsumers calls clusterName

def collectKafkaMetrics (calls : KafkaCalls) (clusterName : String) : Program Unit :=
  catching Throwable.isException
    (do
      let caches ← get
      let nodes ← dereference (caches.clusterNodes clusterName)
      let uriLst := nodes.map fun node => node.host ++ ":9999"
      let built ← call (calls.buildKafkaMetricsInfo uriLst (caches.topics clusterName))
      let _ ← dereference (caches.clusterControllers clusterName)
      let _ ← dereference built
      forEach put [.KAFKA_BROKER_INFO, .KAFKA_TOPIC_INFO, .KAFKA_ENV_INFO, .CLUSTER_STRING_INFO,
        .CLUSTER_NUMBER_INFO])
    (pure ())

/-- The sizes of the topic's partitions; a topic that is not found has none. -/
def logSizes (calls : KafkaCalls) (topicPartitions : Option (List (String × List Nat))) (topic : String) :
    Program (List Int) := do
  let topicPartitions ← dereference topicPartitions
  collect (fun partition => call (calls.getLogSize topic partition)) ((topicPartitions.lookup topic).getD [])

def consumerTopics (calls : KafkaCalls) (consumerGroup : ConsumerGroupInfo) : Program (String × List String) := do
  let answered ← call (calls.getKafkaConsumerTopics consumerGroup.group)
  let topics ← dereference answered
  pure (consumerGroup.group, topics)

/-- The offsets are looked up once there is a partition. -/
def collectGroup (calls : KafkaCalls) (topicPartitions : Option (List (String × List Nat)))
    (group : String × List String) : Program Unit := do
  let offsets ← call (calls.getKafkaOffset group.1)
  forEach
    (fun topic => do
      let sizes ← logSizes calls topicPartitions topic
      if sizes.isEmpty then pure ()
      else do
        let _ ← dereference offsets
        pure ())
    group.2

def collectKafkaConsumerInfo (calls : KafkaCalls) (clusterName : String) : Program Unit :=
  catching Throwable.isThrowable
    (do
      let caches ← get
      let consumerGroups ← dereference (caches.consumers clusterName)
      let consumers ← collect (consumerTopics calls) consumerGroups
      let topicPartitions ← call (calls.findTopicPartitions (some (consumers.flatMap Prod.snd).dedup))
      forEach (collectGroup calls topicPartitions) consumers
      put .KAFKA_CONSUMER_NUMBER_INFO)
    (pure ())

def collectMqMetrics (calls : KafkaCalls) (clusterName : String) : Program Unit := do
  collectKafkaMetrics calls clusterName
  collectKafkaConsumerInfo calls clusterName

def collectRtTime (calls : KafkaCalls) (clusterName : String) : Program Unit :=
  catching Throwable.isThrowable
    (do
      let caches ← get
      let nodes := (caches.clusterNodes clusterName).getD []
      if nodes.isEmpty then pure ()
      else do
        forEach (fun node => catching Throwable.isException (call (calls.send node)) (pure ())) nodes
        saveRtMetrics)
    (pure ())

def recordTopic (calls : KafkaCalls) (clusterName : String) (topicPartitions : Option (List (String × List Nat)))
    (topic : String) : Program Unit := do
  let sizes ← logSizes calls topicPartitions topic
  saveStatisticTopicOffset calls.influx topic
  modify fun caches => caches.putTopicMaxOffset .KAFKA (clusterName ++ "." ++ topic) sizes.sum

def recordMaxOffset (calls : KafkaCalls) (clusterName : String) : Program Unit :=
  catching Throwable.isThrowable
    (do
      let caches ← get
      let topicPartitions ← call (calls.findTopicPartitions (caches.topics clusterName))
      let topics ← dereference (caches.topics clusterName)
      forEach (recordTopic calls clusterName topicPartitions) topics
      saveStatisticClusterOffset calls.influx)
    (pure ())

def recordTopicInflux (calls : KafkaCalls) (clusterName : String)
    (topicPartitions : Option (List (String × List Nat))) (topic : String) : Program Unit := do
  let _ ← logSizes calls topicPartitions topic
  let _ ← standardVal calls.influx .KAFKA clusterName topic
  pure ()

def recordMaxOffsetInflux (calls : KafkaCalls) (clusterName : String) : Program Unit :=
  catching Throwable.isThrowable
    (do
      let caches ← get
      let topicPartitions ← call (calls.findTopicPartitions (caches.topics clusterName))
      let topics ← dereference (caches.topics clusterName)
      forEach (recordTopicInflux calls clusterName topicPartitions) topics
      writeUnlessEmpty calls.influx .STATISTIC_TOPIC_OFFSETS_INFO topics.isEmpty)
    (pure ())

end KafkaReporter

end Zms.Collector
