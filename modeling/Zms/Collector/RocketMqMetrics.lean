import Zms.Portal.Assemble
import Zms.Registry.Gathered
import Zms.Transition.Collecting
import Zms.Transition.Throwing

/-! `RocketMQReporter.collectMqMetrics`: what one run obtains of the brokers of a cluster, and
what of it the buffer writes to the database.
-/

set_option autoImplicit false

namespace Zms.Collector.RocketMq

open Registry Transition Transition.Throwing

/-- What the code does with numbers. -/
structure JavaNumbers (Double : Type) where
  integerValueOf : String → Option Int
  longValueOf : String → Option Int
  parseDouble : String → Option Double
  ofLong : Int → Double
  ceil : Double → Double
  add : Double → Double → Double
  /-- Whether `BigDecimal.valueOf` takes it. -/
  finite : Double → Bool
  /-- `setScale(2, ROUND_HALF_UP)`. -/
  scaled : Double → Double
  finite_ofLong : ∀ n, finite (ofLong n) = true

/-! ### What the brokers answer -/

structure BrokerStatsItem (Double : Type) where
  sum : Int
  tps : Double

structure BrokerStatsData (Double : Type) where
  statsMinute : BrokerStatsItem Double
  statsHour : BrokerStatsItem Double
  statsDay : BrokerStatsItem Double

/-- Of a message queue its topic, with the time of the last message. -/
structure ConsumeStats (Double : Type) where
  computeTotalDiff : Int
  consumeTps : Double
  offsetTable : List (String × Int)

abbrev Table := String → Option String

inductive StatsName where
  | TOPIC_PUT_NUMS
  | SNDBCK_PUT_NUMS
  deriving DecidableEq

/-- A broker, and how the calls of its turn end; `none` is an exception. -/
structure Broker (Double : Type) where
  brokerName : String
  /-- The address with `MASTER_ID`, `none` if there is none. -/
  brokerAddr : Option String
  fetchBrokerRuntimeStats : Option Table
  viewBrokerStatsData : StatsName → String → Option (BrokerStatsData Double)
  queryTopicConsumeByWho : String → Option (List String)
  fetchConsumeStatsInBroker : Option (List (List (String × List (ConsumeStats Double))))
  /-- The ids of the clients. -/
  examineConsumerConnectionInfo : String → Option (List String)
  currentTimeMillis : String → Int

structure Cluster (Double : Type) where
  clusterName : String
  brokers : List (Broker Double)
  topics : List String

/-! ### The values of a broker -/

structure BrokerInfo (Double : Type) where
  brokerId : Int
  brokerName : String
  ip : String
  runtime : Option String
  earliestMsgTime : Option String
  pageCacheLockTimeMillis : Int
  msgPutTotalTodayNow : Int
  msgGetTotalTodayNow : Int
  putTps : Double
  getTotalTps : Double
  putMessageDistributeTime : Option String
  bootTime : Double
  sendThreadPoolQueueSize : Int
  pullThreadPoolQueueSize : Int
  pullThreadPoolQueueCapacity : Int
  sendThreadPoolQueueCapacity : Int
  pullThreadPoolQueueHeadWaitTimeMills : Int

def MASTER_ID : Int := 0

/-- `substring(0, indexOf(":"))`, which throws without a colon. -/
def ipOf (brokerAddr : String) : Option String :=
  if ':' ∈ brokerAddr.toList then some (String.ofList (brokerAddr.toList.takeWhile (· ≠ ':'))) else none

/-- `split(" ")[0]`: of blanks alone nothing is left. -/
def firstWord (text : String) : Option String :=
  if text ≠ "" ∧ text.toList.all (· = ' ') then none else some (String.ofList (text.toList.takeWhile (· ≠ ' ')))

section Code
variable {Double : Type} (numbers : JavaNumbers Double)

def parsePresent (valueOf : String → Option Int) (table : Table) (name : String) : Option Int :=
  match table name with
  | some text => valueOf text
  | none => some (-1)

def parseNullable (table : Table) (name : String) : Option Int := parsePresent numbers.integerValueOf table name

def parseNullableLong (table : Table) (name : String) : Option Int := parsePresent numbers.longValueOf table name

def parseTps (table : Table) (name : String) : Option Double :=
  ((table name).bind firstWord).bind numbers.parseDouble

/-- `none` is an exception of one of the values. -/
def brokerInfoOf (brokerName brokerAddr : String) (runtimeStatus : Table) : Option (BrokerInfo Double) := do
  let ip ← ipOf brokerAddr
  let pageCacheLockTimeMillis ← parseNullable numbers runtimeStatus "pageCacheLockTimeMills"
  let sendThreadPoolQueueSize ← parseNullable numbers runtimeStatus "sendThreadPoolQueueSize"
  let pullThreadPoolQueueSize ← parseNullable numbers runtimeStatus "pullThreadPoolQueueSize"
  let pullThreadPoolQueueCapacity ← parseNullable numbers runtimeStatus "pullThreadPoolQueueCapacity"
  let sendThreadPoolQueueCapacity ← parseNullable numbers runtimeStatus "sendThreadPoolQueueCapacity"
  let headWaitTimeMills ← parseNullable numbers runtimeStatus "pullThreadPoolQueueHeadWaitTimeMills"
  let msgGetTotalTodayNow ← parseNullableLong numbers runtimeStatus "msgGetTotalTodayNow"
  let getTotalTps ← parseTps numbers runtimeStatus "getTotalTps"
  let putTps ← parseTps numbers runtimeStatus "putTps"
  let bootTime ← (runtimeStatus "bootTimestamp").bind numbers.parseDouble
  some {
    brokerId := MASTER_ID
    brokerName := brokerName
    ip := ip
    runtime := runtimeStatus "runtime"
    earliestMsgTime := runtimeStatus "earliestMessageTimeStamp"
    pageCacheLockTimeMillis := pageCacheLockTimeMillis
    -- no key is read for it
    msgPutTotalTodayNow := 0
    msgGetTotalTodayNow := msgGetTotalTodayNow
    putTps := numbers.ceil putTps
    getTotalTps := getTotalTps
    putMessageDistributeTime := runtimeStatus "putMessageDistributeTime"
    bootTime := bootTime
    sendThreadPoolQueueSize := sendThreadPoolQueueSize
    pullThreadPoolQueueSize := pullThreadPoolQueueSize
    pullThreadPoolQueueCapacity := pullThreadPoolQueueCapacity
    sendThreadPoolQueueCapacity := sendThreadPoolQueueCapacity
    pullThreadPoolQueueHeadWaitTimeMills := headWaitTimeMills }

/-! ### The values of the topics and the consumers -/

structure TopicInfo (Double : Type) where
  tps : Double
  cntInToday : Double

def compute24HourSum (bsd : BrokerStatsData Double) : Int :=
  if bsd.statsDay.sum ≠ 0 then bsd.statsDay.sum
  else if bsd.statsHour.sum ≠ 0 then bsd.statsHour.sum
  else bsd.statsMinute.sum

def TopicInfo.new (bsd : BrokerStatsData Double) : TopicInfo Double :=
  ⟨bsd.statsMinute.tps, numbers.ofLong (compute24HourSum bsd)⟩

def TopicInfo.add (info : TopicInfo Double) (bsd : BrokerStatsData Double) : TopicInfo Double :=
  ⟨numbers.add info.tps bsd.statsMinute.tps, numbers.add info.cntInToday (numbers.ofLong (compute24HourSum bsd))⟩

def buildStatsKey (topic group : String) : String := topic ++ "@" ++ group

/-- The groups of a topic, up to the first of which there is nothing to be seen. -/
def groupData (broker : Broker Double) (topic : String) : List String → List (String × BrokerStatsData Double)
  | [] => []
  | group :: rest =>
    match broker.viewBrokerStatsData .SNDBCK_PUT_NUMS (buildStatsKey topic group) with
    | none => []
    | some bsd => (buildStatsKey topic group, bsd) :: groupData broker topic rest

/-- What is added for a topic; an exception ends its turn. -/
def topicData (broker : Broker Double) (topic : String) : List (String × BrokerStatsData Double) :=
  match broker.viewBrokerStatsData .TOPIC_PUT_NUMS topic with
  | none => []
  | some topicPutNums => (topic, topicPutNums) ::
      match broker.queryTopicConsumeByWho topic with
      | none => []
      | some groupList => groupData broker topic groupList

/-- What a broker says of a consumer. -/
structure ConsumerData (Double : Type) where
  lag : Int
  tps : Double
  lastConsumingTime : Int
  connections : Option (List String)

structure ConsumerInfo (Double : Type) where
  latency : Int
  tps : Double
  lastConsumingTime : Int
  consumers : List String

def calcLag (consumeStats : List (ConsumeStats Double)) : Int := (consumeStats.map ConsumeStats.computeTotalDiff).sum

def calcTps (consumeStats : List (ConsumeStats Double)) : Double :=
  consumeStats.foldl (fun tps consumeStat => numbers.add tps consumeStat.consumeTps) (numbers.ofLong 0)

/-- The longest time since a message, in seconds; retries and queues without a message do not count. -/
def calcDelayInSecond (currentTimeMillis : Int) (consumeStats : List (ConsumeStats Double)) : Int :=
  (consumeStats.flatMap ConsumeStats.offsetTable).foldl (fun delay offset =>
    if ¬ offset.1.startsWith "%RETRY%" ∧ 0 < offset.2 then max delay (currentTimeMillis - offset.2) else delay) 0 / 1000

/-- The clients of the first broker that has the consumer. -/
def ConsumerInfo.new (data : ConsumerData Double) : ConsumerInfo Double :=
  ⟨data.lag, data.tps, data.lastConsumingTime, data.connections.getD []⟩

def ConsumerInfo.add (info : ConsumerInfo Double) (data : ConsumerData Double) : ConsumerInfo Double :=
  ⟨info.latency + data.lag, numbers.add info.tps data.tps, max info.lastConsumingTime data.lastConsumingTime,
    info.consumers⟩

def consumerData (broker : Broker Double) : List (String × ConsumerData Double) :=
  match broker.fetchConsumeStatsInBroker with
  | none => []
  | some consumeStatsList => consumeStatsList.flatten.map fun entry =>
      (entry.1, ⟨calcLag entry.2, calcTps numbers entry.2,
        calcDelayInSecond (broker.currentTimeMillis entry.1) entry.2, broker.examineConsumerConnectionInfo entry.1⟩)

/-! ### The loop over the brokers -/

/-- What has been obtained, in its order; the maps of the topics and the consumers are made of it. -/
structure Collected (Double : Type) where
  /-- The brokers that have answered. -/
  answered : List (Broker Double)
  brokers : List (BrokerInfo Double)
  topicData : List (String × BrokerStatsData Double)
  consumerData : List (String × ConsumerData Double)
  totalTps : Double

def Collected.start : Collected Double := ⟨[], [], [], [], numbers.ofLong 0⟩

def Collected.answers (broker : Broker Double) (collected : Collected Double) : Collected Double :=
  ⟨collected.answered ++ [broker], collected.brokers, collected.topicData, collected.consumerData, collected.totalTps⟩

def Collected.add (topics : List String) (broker : Broker Double) (info : BrokerInfo Double)
    (collected : Collected Double) : Collected Double :=
  ⟨collected.answered, collected.brokers ++ [info], collected.topicData ++ topics.flatMap (RocketMq.topicData broker),
    collected.consumerData ++ RocketMq.consumerData numbers broker, numbers.add collected.totalTps info.putTps⟩

/-- No request gets to a broker without an address. -/
def collectBroker (topics : List String) (broker : Broker Double) : Throwing (Collected Double) Unit := do
  let brokerAddr ← ofOption broker.brokerAddr
  let runtimeStatus ← ofOption broker.fetchBrokerRuntimeStats
  modify (Collected.answers broker)
  let info ← ofOption (brokerInfoOf numbers broker.brokerName brokerAddr runtimeStatus)
  modify (Collected.add numbers topics broker info)

/-- What one run obtains, and whether it gets to the end of the loop. -/
def collectBrokers (cluster : Cluster Double) : Option Unit × Collected Double :=
  forEach (collectBroker numbers cluster.topics) cluster.brokers (Collected.start numbers)

/-! ### The metrics -/

inductive Segment (Double : Type) where
  | number (value : Double)
  | text (value : String)
  | null

structure MetricsDo (Double : Type) where
  tagOptions : List (String × String)
  segmentMap : List (String × Segment Double)

def ofText : Option String → Segment Double
  | some text => .text text
  | none => .null

def transformMqCluster (clusterName : String) (totalTps : Double) : List (MetricsDo Double) :=
  [⟨[("clusterName", clusterName)], [("totalTps", .number totalTps)]⟩]

def brokerTags (clusterName brokerName : String) : List (String × String) :=
  [("clusterName", clusterName), ("brokerName", brokerName)]

def brokerSegments (broker : BrokerInfo Double) : List (String × Segment Double) :=
  [("bootTime", .number broker.bootTime),
    ("brokerId", .number (numbers.ofLong broker.brokerId)),
    ("getTotalTps", .number broker.getTotalTps),
    ("msgGetTotalTodayNow", .number (numbers.ofLong broker.msgGetTotalTodayNow)),
    ("msgPutTotalTodayNow", .number (numbers.ofLong broker.msgPutTotalTodayNow)),
    ("pageCacheLockTimeMillis", .number (numbers.ofLong broker.pageCacheLockTimeMillis)),
    ("pullThreadPoolQueueCapacity", .number (numbers.ofLong broker.pullThreadPoolQueueCapacity)),
    ("pullThreadPoolQueueHeadWaitTimeMills", .number (numbers.ofLong broker.pullThreadPoolQueueHeadWaitTimeMills)),
    ("pullThreadPoolQueueSize", .number (numbers.ofLong broker.pullThreadPoolQueueSize)),
    ("putTps", .number broker.putTps),
    ("sendThreadPoolQueueCapacity", .number (numbers.ofLong broker.sendThreadPoolQueueCapacity)),
    ("sendThreadPoolQueueSize", .number (numbers.ofLong broker.sendThreadPoolQueueSize))]

def transformMqBroker (clusterName : String) (brokers : List (BrokerInfo Double)) : List (MetricsDo Double) :=
  brokers.map fun broker => ⟨brokerTags clusterName broker.brokerName, brokerSegments numbers broker⟩

def transformStringDataMqBroker (clusterName : String) (brokers : List (BrokerInfo Double)) : List (MetricsDo Double) :=
  brokers.map fun broker => ⟨brokerTags clusterName broker.brokerName,
    [("ip", .text broker.ip), ("putMessageDistributeTime", ofText broker.putMessageDistributeTime)]⟩

def topicTags (clusterName topicName : String) : List (String × String) :=
  [("clusterName", clusterName), ("topicName", topicName)]

def transformMqTopic (clusterName : String) (topicInfos : List (String × TopicInfo Double)) : List (MetricsDo Double) :=
  topicInfos.map fun entry => ⟨topicTags clusterName entry.1,
    [("cntInToday", .number entry.2.cntInToday), ("tps", .number entry.2.tps)]⟩

def consumerTags (clusterName consumerGroup : String) : List (String × String) :=
  [("clusterName", clusterName), ("consumerGroup", consumerGroup)]

def transformMqConsumer (clusterName : String) (consumerInfos : List (String × ConsumerInfo Double)) :
    List (MetricsDo Double) :=
  consumerInfos.map fun entry => ⟨consumerTags clusterName entry.1,
    [("lastConsumingTime", .number (numbers.ofLong entry.2.lastConsumingTime)),
      ("latency", .number (numbers.ofLong entry.2.latency)),
      ("tps", .number entry.2.tps)]⟩

/-- `toString` of the list; what is built beside it is not used. -/
def transformStrDataMqConsumer (clusterName : String) (consumerInfos : List (String × ConsumerInfo Double)) :
    List (MetricsDo Double) :=
  consumerInfos.map fun entry => ⟨consumerTags clusterName entry.1,
    [("consumers", .text ("[" ++ ", ".intercalate entry.2.consumers ++ "]"))]⟩

/-! `ZmsConst.Measurement`. -/

def CLUSTER_NUMBER_INFO : String := "cluster_number_info"
def MQ_BROKER_NUMBER_INFO : String := "mq_broker_number_info"
def MQ_BROKER_STRING_INFO : String := "mq_broker_string_info"
def MQ_TOPIC_INFO : String := "mq_topic_info"
def MQ_CONSUMER_NUMBER_INFO : String := "mq_consumer_number_info"
def MQ_CONSUMER_STRING_INFO : String := "mq_consumer_string_info"

/-- What the run puts into the buffer. -/
def batches (clusterName : String) (collected : Collected Double) : List (String × List (MetricsDo Double)) :=
  let topicInfos := gatherAll (TopicInfo.new numbers) (TopicInfo.add numbers) collected.topicData
  let consumerInfos := gatherAll ConsumerInfo.new (ConsumerInfo.add numbers) collected.consumerData
  [(CLUSTER_NUMBER_INFO, transformMqCluster clusterName (numbers.ceil collected.totalTps)),
    (MQ_BROKER_NUMBER_INFO, transformMqBroker numbers clusterName collected.brokers),
    (MQ_BROKER_STRING_INFO, transformStringDataMqBroker clusterName collected.brokers),
    (MQ_TOPIC_INFO, transformMqTopic clusterName topicInfos),
    (MQ_CONSUMER_NUMBER_INFO, transformMqConsumer numbers clusterName consumerInfos),
    (MQ_CONSUMER_STRING_INFO, transformStrDataMqConsumer clusterName consumerInfos)]

/-- An exception ends the run before anything is put into the buffer. -/
def collectMqMetrics (cluster : Cluster Double) : List (String × List (MetricsDo Double)) :=
  match collectBrokers numbers cluster with
  | (some (), collected) => batches numbers cluster.clusterName collected
  | (none, _) => []

/-! ### The writes of the buffer -/

inductive Value (Double : Type) where
  | number (value : Double)
  | text (value : String)

structure Point (Double : Type) where
  measurement : String
  tags : List (String × String)
  name : String
  value : Value Double

/-- A null is taken for a number; `none` is an exception. -/
def valueOf : Segment Double → Option (Value Double)
  | .number value => if numbers.finite value then some (.number (numbers.scaled value)) else none
  | .text value => some (.text value)
  | .null => none

def pointOf (measurement : String) (tags : List (String × String)) (entry : String × Segment Double) :
    Option (Point Double) :=
  (valueOf numbers entry.2).map fun value => ⟨measurement, tags, entry.1, value⟩

/-- All points of the list are written together. -/
def writeData (measurement : String) (metricsList : List (MetricsDo Double)) : Option (List (Point Double)) :=
  (metricsList.flatMap fun metrics => metrics.segmentMap.map fun entry => (metrics.tagOptions, entry)).mapM
    fun entry => pointOf numbers measurement entry.1 entry.2

/-- Every measurement has a thread of its own, which logs an exception and goes on. -/
def database (puts : List (String × List (MetricsDo Double))) : List (Point Double) :=
  puts.flatMap fun put => (writeData numbers put.1 put.2).getD []

end Code

end Zms.Collector.RocketMq
