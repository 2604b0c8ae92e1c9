import Zms.Registry.Puts
import Zms.Text.Splitting

/-! `KafkaMbeanServiceImpl` and `KafkaJMXCollector`: the MBeans of the brokers, read into beans
and added up for each topic.

A `double` is a finite number that a broker answers; how two are added is a parameter. JSON carries
the map of a topic into beans, each key to the property of its name. The order of a map's entries
is that of its puts, and no result depends on it.
-/

set_option autoImplicit false

namespace Zms.Collector.Kafka

open Zms.Registry

variable {D : Type}

/-- The value of an MBean's attribute. -/
inductive Value (D : Type) where
  | long (n : Int)
  | double (d : D)

/-- The connections to the brokers' MBeans, and the arithmetic of `double`. -/
structure Jmx (D : Type) where
  /-- By URI, MBean and attribute; `none` is an exception. -/
  getAttribute : String → String → String → Option (Value D)
  zero : D
  ofLong : Int → D
  addCalc : D → D → D

namespace Value

/-- `(Long)`. -/
def asLong : Value D → Option Int
  | .long n => some n
  | .double _ => none

/-- `(Double)`. -/
def asDouble : Value D → Option D
  | .long _ => none
  | .double d => some d

end Value

structure MBeanRateInfo (D : Type) where
  count : Int
  meanRate : D
  fiveMinuteRate : D
  fifteenMinuteRate : D
  oneMinuteRate : D

structure MBeanValueInfo where
  value : Int

structure MBeanNetInfo (D : Type) where
  count : Int
  min : D
  max : D
  mean : D
  stdDev : D
  _50thPercentile : D
  _75thPercentile : D
  _95thPercentile : D
  _98thPercentile : D
  _99thPercentile : D
  _999thPercentile : D

namespace KafkaMbeanService
section
variable (jmx : Jmx D) (uri : String) (mbean : String)

def long (name : String) : Option Int := (jmx.getAttribute uri mbean name).bind Value.asLong

def double (name : String) : Option D := (jmx.getAttribute uri mbean name).bind Value.asDouble

def getMbeanNetInfo : MBeanNetInfo D :=
  let gathered : Option (MBeanNetInfo D) := do
    let count ← long jmx uri mbean "Count"
    let min ← double jmx uri mbean "Min"
    let max ← double jmx uri mbean "Max"
    let mean ← double jmx uri mbean "Mean"
    let stdDev ← double jmx uri mbean "StdDev"
    let percentile50th ← double jmx uri mbean "50thPercentile"
    let percentile75th ← double jmx uri mbean "75thPercentile"
    let percentile95th ← double jmx uri mbean "95thPercentile"
    let percentile98th ← double jmx uri mbean "98thPercentile"
    let percentile99th ← double jmx uri mbean "99thPercentile"
    let percentile999th ← double jmx uri mbean "999thPercentile"
    return ⟨count, min, max, mean, stdDev, percentile50th, percentile75th, percentile95th, percentile98th,
      percentile99th, percentile999th⟩
  gathered.getD ⟨0, jmx.zero, jmx.zero, jmx.zero, jmx.zero, jmx.zero, jmx.zero, jmx.zero, jmx.zero, jmx.zero,
    jmx.zero⟩

def getMbeanInfo : MBeanValueInfo := ⟨(long jmx uri mbean "Value").getD 0⟩

def getMbeanRateInfo : MBeanRateInfo D :=
  let gathered : Option (MBeanRateInfo D) := do
    let count ← long jmx uri mbean "Count"
    let meanRate ← double jmx uri mbean "MeanRate"
    let fiveMinuteRate ← double jmx uri mbean "FiveMinuteRate"
    let fifteenMinuteRate ← double jmx uri mbean "FifteenMinuteRate"
    let oneMinuteRate ← double jmx uri mbean "OneMinuteRate"
    return ⟨count, meanRate, fiveMinuteRate, fifteenMinuteRate, oneMinuteRate⟩
  gathered.getD ⟨0, jmx.zero, jmx.zero, jmx.zero, jmx.zero⟩

end

section Brokers
variable (jmx : Jmx D)

def bytesInPerSec (uri : String) : MBeanRateInfo D :=
  getMbeanRateInfo jmx uri "kafka.server:type=BrokerTopicMetrics,name=BytesInPerSec"

def bytesOutPerSec (uri : String) : MBeanRateInfo D :=
  getMbeanRateInfo jmx uri "kafka.server:type=BrokerTopicMetrics,name=BytesOutPerSec"

def bytesRejectedPerSec (uri : String) : MBeanRateInfo D :=
  getMbeanRateInfo jmx uri "kafka.server:type=BrokerTopicMetrics,name=BytesRejectedPerSec"

def messagesInPerSec (uri : String) : MBeanRateInfo D :=
  getMbeanRateInfo jmx uri "kafka.server:type=BrokerTopicMetrics,name=MessagesInPerSec"

def failedFetchRequestsPerSec (uri : String) : MBeanRateInfo D :=
  getMbeanRateInfo jmx uri "kafka.server:type=BrokerTopicMetrics,name=FailedFetchRequestsPerSec"

def failedProduceRequestsPerSec (uri : String) : MBeanRateInfo D :=
  getMbeanRateInfo jmx uri "kafka.server:type=BrokerTopicMetrics,name=FailedProduceRequestsPerSec"

def activeControllerCount (uri : String) : MBeanValueInfo :=
  getMbeanInfo jmx uri "kafka.controller:type=KafkaController,name=ActiveControllerCount"

def leaderElectionRateAndTimeMs (uri : String) : MBeanRateInfo D :=
  getMbeanRateInfo jmx uri "kafka.controller:type=ControllerStats,name=LeaderElectionRateAndTimeMs"

def uncleanLeaderElectionsPerSec (uri : String) : MBeanRateInfo D :=
  getMbeanRateInfo jmx uri "kafka.controller:type=ControllerStats,name=UncleanLeaderElectionsPerSec"

def leaderCount (uri : String) : MBeanValueInfo :=
  getMbeanInfo jmx uri "kafka.server:type=ReplicaManager,name=LeaderCount"

def partitionCount (uri : String) : MBeanValueInfo :=
  getMbeanInfo jmx uri "kafka.server:type=ReplicaManager,name=PartitionCount"

def offlinePartitionsCount (uri : String) : MBeanValueInfo :=
  getMbeanInfo jmx uri "kafka.controller:type=KafkaController,name=OfflinePartitionsCount"

def isrShrinksPerSec (uri : String) : MBeanRateInfo D :=
  getMbeanRateInfo jmx uri "kafka.server:type=ReplicaManager,name=IsrShrinksPerSec"

def requestHandlerAvgIdlePercent (uri : String) : MBeanRateInfo D :=
  getMbeanRateInfo jmx uri "kafka.server:type=KafkaRequestHandlerPool,name=RequestHandlerAvgIdlePercent"

def produceRequestsPerSec (uri : String) : MBeanRateInfo D :=
  getMbeanRateInfo jmx uri "kafka.network:type=RequestMetrics,name=RequestsPerSec,request=Produce"

def fetchConsumerRequestsPerSec (uri : String) : MBeanRateInfo D :=
  getMbeanRateInfo jmx uri "kafka.network:type=RequestMetrics,name=RequestsPerSec,request=FetchConsumer"

def fetchFollowerRequestsPerSec (uri : String) : MBeanRateInfo D :=
  getMbeanRateInfo jmx uri "kafka.network:type=RequestMetrics,name=RequestsPerSec,request=FetchFollower"

def produceTotalTimeMs (uri : String) : MBeanNetInfo D :=
  getMbeanNetInfo jmx uri "kafka.network:type=RequestMetrics,name=TotalTimeMs,request=Produce"

def fetchConsumerTotalTimeMs (uri : String) : MBeanNetInfo D :=
  getMbeanNetInfo jmx uri "kafka.network:type=RequestMetrics,name=TotalTimeMs,request=FetchConsumer"

def fetchFollowerTotalTimeMs (uri : String) : MBeanNetInfo D :=
  getMbeanNetInfo jmx uri "kafka.network:type=RequestMetrics,name=TotalTimeMs,request=FetchFollower"

def fetchFollowerRequestQueueTimeMs (uri : String) : MBeanNetInfo D :=
  getMbeanNetInfo jmx uri "kafka.network:type=RequestMetrics,name=RequestQueueTimeMs,request=FetchFollower"

def fetchConsumerRequestQueueTimeMs (uri : String) : MBeanNetInfo D :=
  getMbeanNetInfo jmx uri "kafka.network:type=RequestMetrics,name=RequestQueueTimeMs,request=FetchConsumer"

def produceRequestQueueTimeMs (uri : String) : MBeanNetInfo D :=
  getMbeanNetInfo jmx uri "kafka.network:type=RequestMetrics,name=RequestQueueTimeMs,request=Produce"

def logFlushRateAndTimeMs (uri : String) : MBeanNetInfo D :=
  getMbeanNetInfo jmx uri "kafka.log:type=LogFlushStats,name=LogFlushRateAndTimeMs"

end Brokers

/-! ### For a topic -/

namespace OfTopic
variable (jmx : Jmx D)

def bytesInPerSec (uri topic : String) : MBeanRateInfo D :=
  getMbeanRateInfo jmx uri ("kafka.server:type=BrokerTopicMetrics,name=BytesInPerSec,topic=" ++ topic)

def bytesOutPerSec (uri topic : String) : MBeanRateInfo D :=
  getMbeanRateInfo jmx uri ("kafka.server:type=BrokerTopicMetrics,name=BytesOutPerSec,topic=" ++ topic)

def bytesRejectedPerSec (uri topic : String) : MBeanRateInfo D :=
  getMbeanRateInfo jmx uri ("kafka.server:type=BrokerTopicMetrics,name=BytesRejectedPerSec,topic=" ++ topic)

def messagesInPerSec (uri topic : String) : MBeanRateInfo D :=
  getMbeanRateInfo jmx uri ("kafka.server:type=BrokerTopicMetrics,name=MessagesInPerSec,topic=" ++ topic)

def failedFetchRequestsPerSec (uri topic : String) : MBeanRateInfo D :=
  getMbeanRateInfo jmx uri ("kafka.server:type=BrokerTopicMetrics,name=FailedFetchRequestsPerSec,topic=" ++ topic)

def failedProduceRequestsPerSec (uri topic : String) : MBeanRateInfo D :=
  getMbeanRateInfo jmx uri ("kafka.server:type=BrokerTopicMetrics,name=FailedProduceRequestsPerSec,topic=" ++ topic)

end OfTopic
end KafkaMbeanService

/-- What of a broker's metrics the transformation reads; `none` is null. -/
structure KafkaBrokerInfo (D : Type) where
  fetchFollowerTotalTimeMs : Option (MBeanNetInfo D)
  activeControllerCount : Option MBeanValueInfo
  bytesRejectedPerSec : Option (MBeanRateInfo D)
  produceRequestsPerSec : Option (MBeanRateInfo D)
  isrShrinksPerSec : Option (MBeanRateInfo D)
  produceRequestQueueTimeMs : Option (MBeanNetInfo D)
  fetchFollowerRequestsPerSec : Option (MBeanRateInfo D)
  fetchConsumerTotalTimeMs : Option (MBeanNetInfo D)
  messagesInPerSec : Option (MBeanRateInfo D)
  underReplicatedPartitions : Option (MBeanRateInfo D)
  bytesOutPerSec : Option (MBeanRateInfo D)
  leaderCount : Option MBeanValueInfo
  logFlushRateAndTimeMs : Option (MBeanNetInfo D)
  bytesInPerSec : Option (MBeanRateInfo D)
  requestHandlerAvgIdlePercent : Option (MBeanRateInfo D)
  fetchFollowerRequestQueueTimeMs : Option (MBeanNetInfo D)
  produceTotalTimeMs : Option (MBeanNetInfo D)
  leaderElectionRateAndTimeMs : Option (MBeanRateInfo D)
  failedProduceRequestsPerSec : Option (MBeanRateInfo D)
  fetchConsumerRequestQueueTimeMs : Option (MBeanNetInfo D)
  failedFetchRequestsPerSec : Option (MBeanRateInfo D)
  uncleanLeaderElectionsPerSec : Option (MBeanRateInfo D)
  fetchConsumerRequestsPerSec : Option (MBeanRateInfo D)
  partitionCount : Option MBeanValueInfo
  offlinePartitionsCount : Option MBeanValueInfo

/-- The rates of a topic, at one broker or at all of them. -/
structure TopicMetrics (D : Type) where
  messagesInPerSec : Option (MBeanRateInfo D)
  bytesOutPerSec : Option (MBeanRateInfo D)
  bytesInPerSec : Option (MBeanRateInfo D)
  bytesRejectedPerSec : Option (MBeanRateInfo D)
  failedProduceRequestsPerSec : Option (MBeanRateInfo D)
  failedFetchRequestsPerSec : Option (MBeanRateInfo D)

/-- A topic's metrics with those of the brokers. -/
structure TopicMetricsInfo (D : Type) extends TopicMetrics D where
  topic : String
  topicBrokerMetrics : List (String × TopicMetrics D)

structure KafkaMetrics (D : Type) where
  clusterName : String
  brokersMetrics : List (String × KafkaBrokerInfo D)
  topicMetricsInfo : List (TopicMetricsInfo D)

/-- A value of the map that is gathered for a topic. -/
inductive Gathered (D : Type) where
  | topic (name : String)
  | broker (metrics : List (String × MBeanRateInfo D))
  | rate (info : MBeanRateInfo D)

abbrev TopicGather (D : Type) := List (String × Gathered D)

namespace KafkaJMXCollector
section
variable (jmx : Jmx D)

/-- `uri.split(":")[0]`. -/
def brokerOf (uri : String) : Option String := (Text.split ':' uri).head?

def brokerMetrics (uri : String) : KafkaBrokerInfo D where
  logFlushRateAndTimeMs := some (KafkaMbeanService.logFlushRateAndTimeMs jmx uri)
  underReplicatedPartitions := some (KafkaMbeanService.uncleanLeaderElectionsPerSec jmx uri)
  messagesInPerSec := some (KafkaMbeanService.messagesInPerSec jmx uri)
  bytesInPerSec := some (KafkaMbeanService.bytesInPerSec jmx uri)
  bytesOutPerSec := some (KafkaMbeanService.bytesOutPerSec jmx uri)
  bytesRejectedPerSec := some (KafkaMbeanService.bytesRejectedPerSec jmx uri)
  failedFetchRequestsPerSec := some (KafkaMbeanService.failedFetchRequestsPerSec jmx uri)
  failedProduceRequestsPerSec := some (KafkaMbeanService.failedProduceRequestsPerSec jmx uri)
  leaderCount := some (KafkaMbeanService.leaderCount jmx uri)
  partitionCount := some (KafkaMbeanService.partitionCount jmx uri)
  offlinePartitionsCount := some (KafkaMbeanService.offlinePartitionsCount jmx uri)
  requestHandlerAvgIdlePercent := some (KafkaMbeanService.requestHandlerAvgIdlePercent jmx uri)
  leaderElectionRateAndTimeMs := some (KafkaMbeanService.leaderElectionRateAndTimeMs jmx uri)
  uncleanLeaderElectionsPerSec := some (KafkaMbeanService.uncleanLeaderElectionsPerSec jmx uri)
  activeControllerCount := some (KafkaMbeanService.activeControllerCount jmx uri)
  produceRequestsPerSec := some (KafkaMbeanService.produceRequestsPerSec jmx uri)
  fetchConsumerRequestsPerSec := some (KafkaMbeanService.fetchConsumerRequestsPerSec jmx uri)
  fetchFollowerRequestsPerSec := some (KafkaMbeanService.fetchFollowerRequestsPerSec jmx uri)
  produceTotalTimeMs := some (KafkaMbeanService.produceTotalTimeMs jmx uri)
  fetchConsumerTotalTimeMs := some (KafkaMbeanService.fetchConsumerTotalTimeMs jmx uri)
  fetchFollowerTotalTimeMs := some (KafkaMbeanService.fetchFollowerTotalTimeMs jmx uri)
  produceRequestQueueTimeMs := some (KafkaMbeanService.produceRequestQueueTimeMs jmx uri)
  fetchFollowerRequestQueueTimeMs := some (KafkaMbeanService.fetchFollowerRequestQueueTimeMs jmx uri)
  fetchConsumerRequestQueueTimeMs := some (KafkaMbeanService.fetchConsumerRequestQueueTimeMs jmx uri)
  isrShrinksPerSec := some (KafkaMbeanService.isrShrinksPerSec jmx uri)

def buildBrokersMetricsInfo : List String → List (String × KafkaBrokerInfo D) →
    Option (List (String × KafkaBrokerInfo D))
  | [], brokerGather => some brokerGather
  | uri :: rest, brokerGather => do
      let broker ← brokerOf uri
      buildBrokersMetricsInfo rest (Puts.put brokerGather broker (brokerMetrics jmx uri))

def addLong (value1 value2 : Int) : Int := (value1 + value2).bmod (2 ^ 64)

def gatherMBeanRateInfo (mBeanRateInfo mbeanRateInfoGather : MBeanRateInfo D) : MBeanRateInfo D where
  count := addLong mbeanRateInfoGather.count mBeanRateInfo.count
  oneMinuteRate := jmx.addCalc mbeanRateInfoGather.oneMinuteRate mBeanRateInfo.oneMinuteRate
  fiveMinuteRate := jmx.addCalc mbeanRateInfoGather.fiveMinuteRate mBeanRateInfo.fiveMinuteRate
  fifteenMinuteRate := jmx.addCalc mbeanRateInfoGather.fifteenMinuteRate mBeanRateInfo.fifteenMinuteRate
  meanRate := jmx.addCalc mbeanRateInfoGather.meanRate mBeanRateInfo.meanRate

/-- The sum under a key with one more broker's, which starts as a copy of the first; `none` is a
`ClassCastException`. -/
def calcPerSec (key : String) (topicGather : TopicGather D) (mBeanRateInfo : MBeanRateInfo D) :
    Option (MBeanRateInfo D) :=
  match Puts.get topicGather key with
  | none => some mBeanRateInfo
  | some (.rate mbeanRateInfoGather) => some (gatherMBeanRateInfo jmx mBeanRateInfo mbeanRateInfoGather)
  | some (.topic _) | some (.broker _) => none

def calcFailedProduceRequestsPerSec := calcPerSec jmx "FailedProduceRequestsPerSec"

def calcMessagesInPerSec := calcPerSec jmx "MessagesInPerSec"

def calcFailedFetchRequestsPerSec := calcPerSec jmx "FailedFetchRequestsPerSec"

def calcBytesRejectedPerSec := calcPerSec jmx "BytesRejectedPerSec"

def calcBytesOutPerSec := calcPerSec jmx "BytesOutPerSec"

def calcBytesInPerSec := calcPerSec jmx "BytesInPerSec"

/-- The map of one broker. -/
def topicBorkerMetrics (uri topic : String) : List (String × MBeanRateInfo D) :=
  let topicBorkerMetrics := Puts.put [] "BytesInPerSec" (KafkaMbeanService.OfTopic.bytesInPerSec jmx uri topic)
  let topicBorkerMetrics := Puts.put topicBorkerMetrics "BytesOutPerSec"
    (KafkaMbeanService.OfTopic.bytesOutPerSec jmx uri topic)
  let topicBorkerMetrics := Puts.put topicBorkerMetrics "BytesRejectedPerSec"
    (KafkaMbeanService.OfTopic.bytesRejectedPerSec jmx uri topic)
  let topicBorkerMetrics := Puts.put topicBorkerMetrics "FailedFetchRequestsPerSec"
    (KafkaMbeanService.OfTopic.failedFetchRequestsPerSec jmx uri topic)
  let topicBorkerMetrics := Puts.put topicBorkerMetrics "FailedProduceRequestsPerSec"
    (KafkaMbeanService.OfTopic.failedProduceRequestsPerSec jmx uri topic)
  Puts.put topicBorkerMetrics "MessagesInPerSec" (KafkaMbeanService.OfTopic.messagesInPerSec jmx uri topic)

def putRate (key : String) (sumOf : TopicGather D → MBeanRateInfo D → Option (MBeanRateInfo D))
    (mBeanRateInfo : MBeanRateInfo D) (topicGather : TopicGather D) : Option (TopicGather D) :=
  (sumOf topicGather mBeanRateInfo).map fun sum => Puts.put topicGather key (.rate sum)

/-- What one broker adds to the map of a topic. -/
def gatherBroker (topic uri broker : String) (topicGather : TopicGather D) : Option (TopicGather D) := do
  let topicGather := Puts.put topicGather broker (.broker (topicBorkerMetrics jmx uri topic))
  let topicGather ← putRate "BytesInPerSec" (calcBytesInPerSec jmx)
    (KafkaMbeanService.OfTopic.bytesInPerSec jmx uri topic) topicGather
  let topicGather ← putRate "BytesOutPerSec" (calcBytesOutPerSec jmx)
    (KafkaMbeanService.OfTopic.bytesOutPerSec jmx uri topic) topicGather
  let topicGather ← putRate "BytesRejectedPerSec" (calcBytesRejectedPerSec jmx)
    (KafkaMbeanService.OfTopic.bytesRejectedPerSec jmx uri topic) topicGather
  let topicGather ← putRate "FailedFetchRequestsPerSec" (calcFailedFetchRequestsPerSec jmx)
    (KafkaMbeanService.OfTopic.failedFetchRequestsPerSec jmx uri topic) topicGather
  let topicGather ← putRate "FailedProduceRequestsPerSec" (calcFailedProduceRequestsPerSec jmx)
    (KafkaMbeanService.OfTopic.failedProduceRequestsPerSec jmx uri topic) topicGather
  putRate "MessagesInPerSec" (calcMessagesInPerSec jmx)
    (KafkaMbeanService.OfTopic.messagesInPerSec jmx uri topic) topicGather

def gatherBrokers (topic : String) : List String → TopicGather D → Option (TopicGather D)
  | [], topicGather => some topicGather
  | uri :: rest, topicGather => do
      let broker ← brokerOf uri
      let topicGather ← gatherBroker jmx topic uri broker topicGather
      gatherBrokers topic rest topicGather

def buildTopicMetricsInfo (uriList : List String) (topic : String) : Option (TopicGather D) :=
  gatherBrokers jmx topic uriList (Puts.put [] "Topic" (.topic topic))

end

/-! ### From JSON -/

section Json
variable (textOf : Gathered D → String)

/-- A property that is a rate. -/
def rateOf : Option (Gathered D) → Option (MBeanRateInfo D)
  | some (.rate info) => some info
  | some (.topic _) | some (.broker _) | none => none

/-- A property that is a text; `textOf` is that of an object. -/
def topicOf : Option (Gathered D) → String
  | some (.topic name) => name
  | some other => textOf other
  | none => ""

def toTopicMetrics (get : String → Option (MBeanRateInfo D)) : TopicMetrics D where
  messagesInPerSec := get "MessagesInPerSec"
  bytesOutPerSec := get "BytesOutPerSec"
  bytesInPerSec := get "BytesInPerSec"
  bytesRejectedPerSec := get "BytesRejectedPerSec"
  failedProduceRequestsPerSec := get "FailedProduceRequestsPerSec"
  failedFetchRequestsPerSec := get "FailedFetchRequestsPerSec"

def removedKeys : List String :=
  ["MessagesInPerSec", "BytesOutPerSec", "BytesInPerSec", "BytesRejectedPerSec", "FailedProduceRequestsPerSec",
    "Topic", "FailedFetchRequestsPerSec"]

/-- An entry that is left when those of the topic are removed. -/
def brokerEntry (entry : String × Gathered D) : String × TopicMetrics D :=
  match entry.2 with
  | .broker metrics => (entry.1, toTopicMetrics (Puts.get metrics))
  | .topic _ | .rate _ => (entry.1, toTopicMetrics fun _ => none)

def toTopicMetricsInfo (tItem : TopicGather D) : TopicMetricsInfo D where
  toTopicMetrics := toTopicMetrics fun key => rateOf (Puts.get tItem key)
  topic := topicOf textOf (Puts.get tItem "Topic")
  topicBrokerMetrics := (Puts.remove tItem removedKeys).map brokerEntry

end Json

def buildKafkaMetricsInfo (jmx : Jmx D) (textOf : Gathered D → String) (clusterName : String)
    (uriList topicList : List String) : Option (KafkaMetrics D) := do
  let brokersMetrics ← buildBrokersMetricsInfo jmx uriList []
  let topicsMetrics ← topicList.mapM (buildTopicMetricsInfo jmx uriList)
  return ⟨clusterName, brokersMetrics, topicsMetrics.map (toTopicMetricsInfo textOf)⟩

end KafkaJMXCollector

end Zms.Collector.Kafka
