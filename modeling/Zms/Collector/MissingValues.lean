import Zms.Collector.RocketMqMetrics

/-! When a value that a RocketMQ broker lacks is all that is lost. -/

set_option autoImplicit false

namespace Zms.Collector.RocketMq

open Registry Transition Transition.Throwing

section Specification
variable {Double : Type} (numbers : JavaNumbers Double)

/-! ### What there is to be obtained -/

/-- Whether the broker has a master address and answers there. -/
def Broker.answers (broker : Broker Double) : Bool :=
  broker.brokerAddr.isSome && broker.fetchBrokerRuntimeStats.isSome

def groupsOf (broker : Broker Double) (topic : String) : List String := (broker.queryTopicConsumeByWho topic).getD []

def sendBack (broker : Broker Double) (topic group : String) : Option (String × BrokerStatsData Double) :=
  (broker.viewBrokerStatsData .SNDBCK_PUT_NUMS (buildStatsKey topic group)).map (buildStatsKey topic group, ·)

/-- All that the broker has for the topic and its groups. -/
def availableTopicData (broker : Broker Double) (topic : String) : List (String × BrokerStatsData Double) :=
  ((broker.viewBrokerStatsData .TOPIC_PUT_NUMS topic).map (topic, ·)).toList ++
    (groupsOf broker topic).filterMap (sendBack broker topic)

def answering (cluster : Cluster Double) : List (Broker Double) := cluster.brokers.filter Broker.answers

def allTopicData (cluster : Cluster Double) : List (String × BrokerStatsData Double) :=
  (answering cluster).flatMap fun broker => cluster.topics.flatMap (availableTopicData broker)

def allConsumerData (cluster : Cluster Double) : List (String × ConsumerData Double) :=
  (answering cluster).flatMap (consumerData numbers)

/-! ### The values of what has been obtained -/

/-- The metrics of a broker that are read with `parseNullable`, and their keys. -/
def integerKeys : List (String × String) :=
  [("pageCacheLockTimeMillis", "pageCacheLockTimeMills"),
    ("pullThreadPoolQueueCapacity", "pullThreadPoolQueueCapacity"),
    ("pullThreadPoolQueueHeadWaitTimeMills", "pullThreadPoolQueueHeadWaitTimeMills"),
    ("pullThreadPoolQueueSize", "pullThreadPoolQueueSize"),
    ("sendThreadPoolQueueCapacity", "sendThreadPoolQueueCapacity"),
    ("sendThreadPoolQueueSize", "sendThreadPoolQueueSize")]

/-- The numbers that a table has, with the names of their metrics. -/
def tableNumbers (table : Table) : List (String × Double) :=
  (integerKeys.filterMap fun key => ((table key.2).bind numbers.integerValueOf).map fun value =>
      (key.1, numbers.ofLong value)) ++
    (((table "msgGetTotalTodayNow").bind numbers.longValueOf).map fun value =>
      ("msgGetTotalTodayNow", numbers.ofLong value)).toList ++
    ((parseTps numbers table "getTotalTps").map fun value => ("getTotalTps", value)).toList ++
    ((parseTps numbers table "putTps").map fun value => ("putTps", numbers.ceil value)).toList ++
    (((table "bootTimestamp").bind numbers.parseDouble).map fun value => ("bootTime", value)).toList

def numberPoint (measurement : String) (tags : List (String × String)) (name : String) (value : Double) : Point Double :=
  ⟨measurement, tags, name, .number (numbers.scaled value)⟩

/-- The values of a broker that has answered. -/
structure BrokerStored (clusterName : String) (broker : Broker Double) (points : List (Point Double)) : Prop where
  brokerId : numberPoint numbers MQ_BROKER_NUMBER_INFO (brokerTags clusterName broker.brokerName) "brokerId"
    (numbers.ofLong MASTER_ID) ∈ points
  numbers : ∀ table, broker.fetchBrokerRuntimeStats = some table → ∀ entry ∈ tableNumbers numbers table,
    numberPoint numbers MQ_BROKER_NUMBER_INFO (brokerTags clusterName broker.brokerName) entry.1 entry.2 ∈ points
  ip : ∀ ip, broker.brokerAddr.bind ipOf = some ip →
    ⟨MQ_BROKER_STRING_INFO, brokerTags clusterName broker.brokerName, "ip", .text ip⟩ ∈ points
  distribute : ∀ table text, broker.fetchBrokerRuntimeStats = some table → table "putMessageDistributeTime" = some text →
    ⟨MQ_BROKER_STRING_INFO, brokerTags clusterName broker.brokerName, "putMessageDistributeTime", .text text⟩ ∈ points

structure TopicStored (clusterName topicName : String) (info : TopicInfo Double) (points : List (Point Double)) :
    Prop where
  cntInToday : numberPoint numbers MQ_TOPIC_INFO (topicTags clusterName topicName) "cntInToday" info.cntInToday ∈ points
  tps : numberPoint numbers MQ_TOPIC_INFO (topicTags clusterName topicName) "tps" info.tps ∈ points

structure ConsumerStored (clusterName consumer : String) (info : ConsumerInfo Double) (points : List (Point Double)) :
    Prop where
  lastConsumingTime : numberPoint numbers MQ_CONSUMER_NUMBER_INFO (consumerTags clusterName consumer)
    "lastConsumingTime" (numbers.ofLong info.lastConsumingTime) ∈ points
  latency : numberPoint numbers MQ_CONSUMER_NUMBER_INFO (consumerTags clusterName consumer) "latency"
    (numbers.ofLong info.latency) ∈ points
  tps : numberPoint numbers MQ_CONSUMER_NUMBER_INFO (consumerTags clusterName consumer) "tps" info.tps ∈ points
  consumers : ⟨MQ_CONSUMER_STRING_INFO, consumerTags clusterName consumer, "consumers",
    .text ("[" ++ ", ".intercalate info.consumers ++ "]")⟩ ∈ points

/-- The sum of what has been obtained of a topic, or of a group's retries. -/
def topicSum (data : List (String × BrokerStatsData Double)) (topicName : String) : Option (TopicInfo Double) :=
  combine (TopicInfo.new numbers) (TopicInfo.add numbers) (valuesOf topicName data)

def consumerSum (data : List (String × ConsumerData Double)) (consumer : String) : Option (ConsumerInfo Double) :=
  combine ConsumerInfo.new (ConsumerInfo.add numbers) (valuesOf consumer data)

/-- Everything that has been obtained is among the points. -/
structure Stored (clusterName : String) (collected : Collected Double) (points : List (Point Double)) : Prop where
  brokers : ∀ broker ∈ collected.answered, BrokerStored numbers clusterName broker points
  topics : ∀ topicName info, topicSum numbers collected.topicData topicName = some info →
    TopicStored numbers clusterName topicName info points
  consumers : ∀ consumer info, consumerSum numbers collected.consumerData consumer = some info →
    ConsumerStored numbers clusterName consumer info points

/-- A run obtains all there is, and the buffer writes all that it has obtained. -/
structure LosesOnlyItself (cluster : Cluster Double) : Prop where
  answered : (collectBrokers numbers cluster).2.answered = answering cluster
  topicData : (collectBrokers numbers cluster).2.topicData = allTopicData cluster
  consumerData : (collectBrokers numbers cluster).2.consumerData = allConsumerData numbers cluster
  stored : Stored numbers cluster.clusterName (collectBrokers numbers cluster).2
    (database numbers (collectMqMetrics numbers cluster))

/-! ### The condition -/

/-- Every key that is read is there or has a default, and what is there is a number. -/
structure Readable (brokerAddr : String) (table : Table) : Prop where
  colon : ':' ∈ brokerAddr.toList
  integers : ∀ key ∈ integerKeys, ∀ text, table key.2 = some text → numbers.integerValueOf text ≠ none
  long : ∀ text, table "msgGetTotalTodayNow" = some text → numbers.longValueOf text ≠ none
  getTotalTps : parseTps numbers table "getTotalTps" ≠ none
  putTps : parseTps numbers table "putTps" ≠ none
  bootTimestamp : (table "bootTimestamp").bind numbers.parseDouble ≠ none

/-- The text is there, and the database takes the numbers. -/
structure Writable (table : Table) : Prop where
  distribute : table "putMessageDistributeTime" ≠ none
  getTotalTps : ∀ tps, parseTps numbers table "getTotalTps" = some tps → numbers.finite tps = true
  putTps : ∀ tps, parseTps numbers table "putTps" = some tps → numbers.finite (numbers.ceil tps) = true
  bootTime : ∀ time, (table "bootTimestamp").bind numbers.parseDouble = some time → numbers.finite time = true

/-- Where a topic or a group has no statistics, there are none behind it. -/
def NothingBehind (broker : Broker Double) (topic : String) : Prop :=
  match broker.viewBrokerStatsData .TOPIC_PUT_NUMS topic with
  | none => ∀ group ∈ groupsOf broker topic, sendBack broker topic group = none
  | some _ => ∀ group ∈ (groupsOf broker topic).dropWhile fun group => (sendBack broker topic group).isSome,
      sendBack broker topic group = none

structure Sound (cluster : Cluster Double) : Prop where
  brokers : ∀ broker ∈ cluster.brokers, ∃ brokerAddr table, broker.brokerAddr = some brokerAddr ∧
    broker.fetchBrokerRuntimeStats = some table ∧ Readable numbers brokerAddr table ∧ Writable numbers table
  topics : ∀ broker ∈ cluster.brokers, ∀ topic ∈ cluster.topics, NothingBehind broker topic
  topicSums : ∀ topicName info, topicSum numbers (allTopicData cluster) topicName = some info →
    numbers.finite info.cntInToday = true ∧ numbers.finite info.tps = true
  consumerSums : ∀ consumer info, consumerSum numbers (allConsumerData numbers cluster) consumer = some info →
    numbers.finite info.tps = true

end Specification

/-! ### Points -/

section Points
variable {Double : Type} {numbers : JavaNumbers Double}

/-- A segment that can be written. -/
def Fine (numbers : JavaNumbers Double) (segment : Segment Double)  : Prop :=
  ∃ value, valueOf numbers segment = some value

theorem fine_number {value : Double} : Fine numbers (.number value) ↔ numbers.finite value = true := by
  change (∃ written, (if numbers.finite value = true then some (Value.number (numbers.scaled value)) else none) =
    some written) ↔ _
  by_cases finite : numbers.finite value = true
  · rw [if_pos finite]
    exact ⟨fun _ => finite, fun _ => ⟨_, rfl⟩⟩
  · rw [if_neg finite]
    constructor
    · rintro ⟨written, impossible⟩
      cases impossible
    · intro impossible
      exact absurd impossible finite

theorem fine_ofLong (value : Int) : Fine numbers (.number (numbers.ofLong value)) :=
  fine_number.mpr (numbers.finite_ofLong value)

theorem fine_ofText {text : Option String} : Fine numbers (ofText text) ↔ text ≠ none := by
  cases text with
  | none =>
      constructor
      · rintro ⟨value, impossible⟩
        cases impossible
      · intro impossible
        exact absurd rfl impossible
  | some text => exact ⟨fun _ => Option.some_ne_none text, fun _ => ⟨.text text, rfl⟩⟩

theorem writeData_iff {measurement : String} {metricsList : List (MetricsDo Double)} :
    (∃ points, writeData numbers measurement metricsList = some points) ↔
      ∀ metrics ∈ metricsList, ∀ entry ∈ metrics.segmentMap, Fine numbers entry.2 := by
  constructor
  · rintro ⟨points, all⟩ metrics member entry inMap
    have inList : (metrics.tagOptions, entry) ∈ metricsList.flatMap fun metrics =>
        metrics.segmentMap.map fun entry => (metrics.tagOptions, entry) :=
      List.mem_flatMap.mpr ⟨metrics, member, List.mem_map_of_mem inMap⟩
    obtain ⟨point, _, written⟩ := exists_of_mem_of_mapM all inList
    obtain ⟨value, known, _⟩ := Option.map_eq_some_iff.mp written
    exact ⟨value, known⟩
  · intro fine
    have each : ∀ entry ∈ metricsList.flatMap (fun metrics =>
        metrics.segmentMap.map fun entry => (metrics.tagOptions, entry)),
        ∃ point, pointOf numbers measurement entry.1 entry.2 = some point ∧ True := by
      intro entry member
      obtain ⟨metrics, inList, inMap⟩ := List.mem_flatMap.mp member
      obtain ⟨segment, isSegment, same⟩ := List.mem_map.mp inMap
      obtain ⟨value, known⟩ := fine metrics inList segment isSegment
      rw [← same]
      exact ⟨_, Option.map_eq_some_iff.mpr ⟨value, known, rfl⟩, trivial⟩
    obtain ⟨points, all, _⟩ := exists_mapM each
    exact ⟨points, all⟩

theorem mem_writeData {measurement : String} {metricsList : List (MetricsDo Double)} {points : List (Point Double)}
    (written : writeData numbers measurement metricsList = some points) {metrics : MetricsDo Double}
    (member : metrics ∈ metricsList) {name : String} {segment : Segment Double}
    (inMap : (name, segment) ∈ metrics.segmentMap) {value : Value Double} (known : valueOf numbers segment = some value) :
    ⟨measurement, metrics.tagOptions, name, value⟩ ∈ points := by
  have inList : (metrics.tagOptions, name, segment) ∈ metricsList.flatMap fun metrics =>
      metrics.segmentMap.map fun entry => (metrics.tagOptions, entry) :=
    List.mem_flatMap.mpr ⟨metrics, member, List.mem_map_of_mem inMap⟩
  obtain ⟨point, inPoints, made⟩ := exists_of_mem_of_mapM written inList
  have same : pointOf numbers measurement metrics.tagOptions (name, segment) =
      some ⟨measurement, metrics.tagOptions, name, value⟩ := Option.map_eq_some_iff.mpr ⟨value, known, rfl⟩
  rw [same] at made
  rw [Option.some.inj made]
  exact inPoints

theorem measurement_of_writeData {measurement : String} {metricsList : List (MetricsDo Double)}
    {points : List (Point Double)} (written : writeData numbers measurement metricsList = some points)
    {point : Point Double} (member : point ∈ points) : point.measurement = measurement := by
  obtain ⟨entry, _, made⟩ := exists_of_mem_mapM written member
  obtain ⟨value, _, same⟩ := Option.map_eq_some_iff.mp made
  rw [← same]

theorem mem_database {puts : List (String × List (MetricsDo Double))} {put : String × List (MetricsDo Double)}
    (member : put ∈ puts) {points : List (Point Double)} (written : writeData numbers put.1 put.2 = some points)
    {point : Point Double} (inPoints : point ∈ points) : point ∈ database numbers puts := by
  apply List.mem_flatMap.mpr
  refine ⟨put, member, ?_⟩
  rw [written]
  exact inPoints

/-- A point of a measurement that only one list is put for comes with all of the list. -/
theorem fine_of_mem_database {puts : List (String × List (MetricsDo Double))}
    (distinct : (puts.map Prod.fst).Nodup) {point : Point Double} (stored : point ∈ database numbers puts)
    {metricsList : List (MetricsDo Double)} (put : (point.measurement, metricsList) ∈ puts) :
    ∀ metrics ∈ metricsList, ∀ entry ∈ metrics.segmentMap, Fine numbers entry.2 := by
  obtain ⟨other, isPut, inPoints⟩ := List.mem_flatMap.mp stored
  cases written : writeData numbers other.1 other.2 with
  | none =>
      rw [written] at inPoints
      cases inPoints
  | some points =>
      rw [written] at inPoints
      have measurement := measurement_of_writeData written inPoints
      rw [measurement] at put
      have same : some metricsList = some other.2 := by
        rw [← lookup_of_mem distinct put, ← lookup_of_mem distinct isPut]
      have isList := Option.some.inj same
      rw [isList]
      exact writeData_iff.mp ⟨points, written⟩

theorem valueOf_number {value : Double} (fine : Fine numbers (.number value)) :
    valueOf numbers (.number value) = some (.number (numbers.scaled value)) := if_pos (fine_number.mp fine)

theorem mem_database_of_fine {puts : List (String × List (MetricsDo Double))} {measurement : String}
    {metricsList : List (MetricsDo Double)} (put : (measurement, metricsList) ∈ puts)
    (fine : ∀ metrics ∈ metricsList, ∀ entry ∈ metrics.segmentMap, Fine numbers entry.2) {metrics : MetricsDo Double}
    (member : metrics ∈ metricsList) {name : String} {segment : Segment Double}
    (inMap : (name, segment) ∈ metrics.segmentMap) {value : Value Double} (known : valueOf numbers segment = some value) :
    ⟨measurement, metrics.tagOptions, name, value⟩ ∈ database numbers puts := by
  have writes : ∃ points, writeData numbers measurement metricsList = some points := writeData_iff.mpr fine
  obtain ⟨points, written⟩ := writes
  exact mem_database put written (mem_writeData written member inMap known)

end Points

/-! ### The values of a broker -/

section Table
variable {Double : Type} {numbers : JavaNumbers Double} {table : Table}

theorem parsePresent_of_value {valueOf : String → Option Int} {name : String} {value : Int}
    (parsed : (table name).bind valueOf = some value) : parsePresent valueOf table name = some value := by
  obtain ⟨text, present, isNumber⟩ := Option.bind_eq_some_iff.mp parsed
  unfold parsePresent
  rw [present]
  exact isNumber

theorem exists_parsePresent_iff {valueOf : String → Option Int} {name : String} :
    (∃ value, parsePresent valueOf table name = some value) ↔
      ∀ text, table name = some text → valueOf text ≠ none := by
  unfold parsePresent
  cases table name with
  | none =>
      constructor
      · intro _ text impossible
        cases impossible
      · intro _
        exact ⟨-1, rfl⟩
  | some text =>
      constructor
      · intro parsed other same
        rw [← Option.some.inj same]
        exact Option.ne_none_iff_exists'.mpr parsed
      · intro parsed
        exact Option.ne_none_iff_exists'.mp (parsed text rfl)

theorem exists_ipOf_iff {brokerAddr : String} : (∃ ip, ipOf brokerAddr = some ip) ↔ ':' ∈ brokerAddr.toList := by
  unfold ipOf
  by_cases colon : ':' ∈ brokerAddr.toList
  · rw [if_pos colon]
    exact ⟨fun _ => colon, fun _ => ⟨_, rfl⟩⟩
  · rw [if_neg colon]
    constructor
    · rintro ⟨ip, impossible⟩
      cases impossible
    · intro impossible
      exact absurd impossible colon

/-- What the values of a broker are read from. -/
structure Reads (numbers : JavaNumbers Double) (brokerName brokerAddr : String) (table : Table)
    (info : BrokerInfo Double) : Prop where
  brokerName : info.brokerName = brokerName
  brokerId : info.brokerId = MASTER_ID
  ip : ipOf brokerAddr = some info.ip
  integers : ∀ key ∈ integerKeys, ∃ value, parseNullable numbers table key.2 = some value ∧
    (key.1, .number (numbers.ofLong value)) ∈ brokerSegments numbers info
  long : parseNullableLong numbers table "msgGetTotalTodayNow" = some info.msgGetTotalTodayNow
  getTotalTps : parseTps numbers table "getTotalTps" = some info.getTotalTps
  putTps : ∃ tps, parseTps numbers table "putTps" = some tps ∧ info.putTps = numbers.ceil tps
  bootTime : (table "bootTimestamp").bind numbers.parseDouble = some info.bootTime
  distribute : info.putMessageDistributeTime = table "putMessageDistributeTime"

variable {brokerName brokerAddr : String} {info : BrokerInfo Double}

theorem reads_of_brokerInfoOf (made : brokerInfoOf numbers brokerName brokerAddr table = some info) :
    Reads numbers brokerName brokerAddr table info := by
  unfold brokerInfoOf at made
  simp only [Option.bind_eq_bind, Option.bind_eq_some_iff, Option.some.injEq] at made
  obtain ⟨ip, isIp, lock, isLock, sendSize, isSendSize, pullSize, isPullSize, pullCapacity, isPullCapacity,
    sendCapacity, isSendCapacity, headWait, isHeadWait, total, isTotal, getTps, isGetTps, putTps, isPutTps,
    bootTime, isBootTime, same⟩ := made
  subst same
  refine ⟨rfl, rfl, isIp, ?_, isTotal, isGetTps, ⟨putTps, isPutTps, rfl⟩, ?_, rfl⟩
  · intro key member
    simp only [integerKeys, List.mem_cons, List.not_mem_nil, or_false] at member
    rcases member with rfl | rfl | rfl | rfl | rfl | rfl
    · exact ⟨lock, isLock, by simp [brokerSegments]⟩
    · exact ⟨pullCapacity, isPullCapacity, by simp [brokerSegments]⟩
    · exact ⟨headWait, isHeadWait, by simp [brokerSegments]⟩
    · exact ⟨pullSize, isPullSize, by simp [brokerSegments]⟩
    · exact ⟨sendCapacity, isSendCapacity, by simp [brokerSegments]⟩
    · exact ⟨sendSize, isSendSize, by simp [brokerSegments]⟩
  · exact Option.bind_eq_some_iff.mpr isBootTime

theorem exists_brokerInfoOf (readable : Readable numbers brokerAddr table) :
    ∃ info, brokerInfoOf numbers brokerName brokerAddr table = some info := by
  have integer : ∀ {name key : String}, (name, key) ∈ integerKeys →
      ∃ value, parseNullable numbers table key = some value := fun member => exists_parsePresent_iff.mpr (readable.integers _ member)
  obtain ⟨ip, isIp⟩ := exists_ipOf_iff.mpr readable.colon
  obtain ⟨lock, isLock⟩ := integer (.head _)
  obtain ⟨pullCapacity, isPullCapacity⟩ := integer (.tail _ (.head _))
  obtain ⟨headWait, isHeadWait⟩ := integer (.tail _ (.tail _ (.head _)))
  obtain ⟨pullSize, isPullSize⟩ := integer (.tail _ (.tail _ (.tail _ (.head _))))
  obtain ⟨sendCapacity, isSendCapacity⟩ := integer (.tail _ (.tail _ (.tail _ (.tail _ (.head _)))))
  obtain ⟨sendSize, isSendSize⟩ := integer (.tail _ (.tail _ (.tail _ (.tail _ (.tail _ (.head _))))))
  have long : ∃ value, parseNullableLong numbers table "msgGetTotalTodayNow" = some value :=
    exists_parsePresent_iff.mpr readable.long
  obtain ⟨total, isTotal⟩ := long
  obtain ⟨getTps, isGetTps⟩ := Option.ne_none_iff_exists'.mp readable.getTotalTps
  obtain ⟨putTps, isPutTps⟩ := Option.ne_none_iff_exists'.mp readable.putTps
  obtain ⟨bootTime, isBootTime⟩ := Option.ne_none_iff_exists'.mp readable.bootTimestamp
  unfold brokerInfoOf
  rw [isIp, isLock, isSendSize, isPullSize, isPullCapacity, isSendCapacity, isHeadWait, isTotal, isGetTps, isPutTps,
    isBootTime]
  exact ⟨_, rfl⟩

theorem Reads.readable (reads : Reads numbers brokerName brokerAddr table info) :
    Readable numbers brokerAddr table where
  colon := exists_ipOf_iff.mp ⟨info.ip, reads.ip⟩
  integers := by
    intro key member
    obtain ⟨value, parsed, _⟩ := reads.integers key member
    exact exists_parsePresent_iff.mp ⟨value, parsed⟩
  long := exists_parsePresent_iff.mp ⟨_, reads.long⟩
  getTotalTps := Option.ne_none_iff_exists'.mpr ⟨_, reads.getTotalTps⟩
  putTps := by
    obtain ⟨tps, parsed, _⟩ := reads.putTps
    exact Option.ne_none_iff_exists'.mpr ⟨tps, parsed⟩
  bootTimestamp := Option.ne_none_iff_exists'.mpr ⟨_, reads.bootTime⟩

theorem Reads.mem_brokerSegments (reads : Reads numbers brokerName brokerAddr table info) {name : String}
    {value : Double} (member : (name, value) ∈ tableNumbers numbers table) :
    (name, .number value) ∈ brokerSegments numbers info := by
  simp only [tableNumbers, List.mem_append, List.mem_filterMap, Option.mem_toList,
    Option.map_eq_some_iff, Prod.mk.injEq] at member
  rcases member with (((⟨key, isKey, n, parsed, isName, isValue⟩ | ⟨n, parsed, isName, isValue⟩) |
    ⟨tps, parsed, isName, isValue⟩) | ⟨tps, parsed, isName, isValue⟩) | ⟨time, parsed, isName, isValue⟩
  · obtain ⟨read, isRead, isSegment⟩ := reads.integers key isKey
    have same := isRead.symm.trans (parsePresent_of_value parsed)
    rw [← isName, ← isValue, ← Option.some.inj same]
    exact isSegment
  · have same := reads.long.symm.trans (parsePresent_of_value parsed)
    rw [← isName, ← isValue, ← Option.some.inj same]
    simp [brokerSegments]
  · have same := reads.getTotalTps
    rw [parsed] at same
    rw [← isName, ← isValue, Option.some.inj same]
    simp [brokerSegments]
  · obtain ⟨read, isRead, rounded⟩ := reads.putTps
    rw [parsed] at isRead
    rw [← isName, ← isValue, Option.some.inj isRead, ← rounded]
    simp [brokerSegments]
  · have same := reads.bootTime
    rw [parsed] at same
    rw [← isName, ← isValue, Option.some.inj same]
    simp [brokerSegments]

theorem fine_brokerSegments_iff : (∀ entry ∈ brokerSegments numbers info, Fine numbers entry.2) ↔
    numbers.finite info.bootTime = true ∧ numbers.finite info.getTotalTps = true ∧
      numbers.finite info.putTps = true := by
  simp only [brokerSegments, List.forall_mem_cons, fine_number, numbers.finite_ofLong, true_and, List.not_mem_nil,
    false_implies, implies_true, and_true]

theorem Reads.writable_iff (reads : Reads numbers brokerName brokerAddr table info) :
    Writable numbers table ↔ (∀ entry ∈ brokerSegments numbers info, Fine numbers entry.2) ∧
      Fine numbers (ofText info.putMessageDistributeTime) := by
  obtain ⟨putTps, isPutTps, rounded⟩ := reads.putTps
  rw [fine_brokerSegments_iff, fine_ofText, reads.distribute, rounded]
  constructor
  · intro writable
    exact ⟨⟨writable.bootTime _ reads.bootTime, writable.getTotalTps _ reads.getTotalTps,
      writable.putTps _ isPutTps⟩, writable.distribute⟩
  · rintro ⟨⟨bootTime, getTotalTps, finitePutTps⟩, distribute⟩
    refine ⟨distribute, ?_, ?_, ?_⟩
    · intro tps parsed
      rw [reads.getTotalTps] at parsed
      rw [← Option.some.inj parsed]
      exact getTotalTps
    · intro tps parsed
      rw [isPutTps] at parsed
      rw [← Option.some.inj parsed]
      exact finitePutTps
    · intro time parsed
      rw [reads.bootTime] at parsed
      rw [← Option.some.inj parsed]
      exact bootTime

end Table

/-! ### The loop -/

section Loop
variable {Double : Type} {numbers : JavaNumbers Double} {topics : List String} {broker : Broker Double}

def infoOf (numbers : JavaNumbers Double) (broker : Broker Double) : Option (BrokerInfo Double) :=
  broker.brokerAddr.bind fun brokerAddr => broker.fetchBrokerRuntimeStats.bind fun table =>
    brokerInfoOf numbers broker.brokerName brokerAddr table

theorem reads_of_infoOf {info : BrokerInfo Double} (made : infoOf numbers broker = some info) :
    ∃ brokerAddr table, broker.brokerAddr = some brokerAddr ∧ broker.fetchBrokerRuntimeStats = some table ∧
      Reads numbers broker.brokerName brokerAddr table info := by
  obtain ⟨brokerAddr, isAddr, rest⟩ := Option.bind_eq_some_iff.mp made
  obtain ⟨table, isTable, read⟩ := Option.bind_eq_some_iff.mp rest
  exact ⟨brokerAddr, table, isAddr, isTable, reads_of_brokerInfoOf read⟩

theorem answers_of_infoOf {info : BrokerInfo Double} (made : infoOf numbers broker = some info) :
    broker.answers = true := by
  obtain ⟨brokerAddr, table, isAddr, isTable, _⟩ := reads_of_infoOf made
  unfold Broker.answers
  rw [isAddr, isTable]
  rfl

theorem collectBroker_eq_of_info {info : BrokerInfo Double} (made : infoOf numbers broker = some info)
    (collected : Collected Double) :
    collectBroker numbers topics broker collected =
      (some (), Collected.add numbers topics broker info (Collected.answers broker collected)) := by
  obtain ⟨brokerAddr, isAddr, rest⟩ := Option.bind_eq_some_iff.mp made
  obtain ⟨table, isTable, read⟩ := Option.bind_eq_some_iff.mp rest
  unfold collectBroker
  rw [isAddr, ofOption_bind, isTable, ofOption_bind, modify_bind, read, ofOption_bind]
  rfl

theorem collectBroker_eq_of_not_answers (silent : broker.answers = false) (collected : Collected Double) :
    collectBroker numbers topics broker collected = (none, collected) := by
  unfold collectBroker
  cases isAddr : broker.brokerAddr with
  | none => exact bind_of_throws rfl
  | some brokerAddr =>
      cases isTable : broker.fetchBrokerRuntimeStats with
      | none =>
          rw [ofOption_bind]
          exact bind_of_throws rfl
      | some table =>
          unfold Broker.answers at silent
          rw [isAddr, isTable] at silent
          cases silent

theorem collectBroker_throws (missing : infoOf numbers broker = none) (collected : Collected Double) :
    (collectBroker numbers topics broker collected).1 = none := by
  cases answers : broker.answers with
  | false => rw [collectBroker_eq_of_not_answers answers]
  | true =>
      obtain ⟨isAddr, isTable⟩ := (Bool.and_eq_true _ _).mp answers
      obtain ⟨brokerAddr, isAddr⟩ := Option.isSome_iff_exists.mp isAddr
      obtain ⟨table, isTable⟩ := Option.isSome_iff_exists.mp isTable
      unfold infoOf at missing
      rw [isAddr, Option.bind_some, isTable, Option.bind_some] at missing
      unfold collectBroker
      rw [isAddr, ofOption_bind, isTable, ofOption_bind, modify_bind, missing]
      rfl

theorem forEach_collectBroker {brokers : List (Broker Double)} {infos : List (BrokerInfo Double)}
    (all : brokers.mapM (infoOf numbers) = some infos) (collected : Collected Double) :
    ∃ totalTps, forEach (collectBroker numbers topics) brokers collected =
      (some (), ⟨collected.answered ++ brokers, collected.brokers ++ infos,
        collected.topicData ++ brokers.flatMap fun broker => topics.flatMap (topicData broker),
        collected.consumerData ++ brokers.flatMap (consumerData numbers), totalTps⟩) := by
  induction brokers generalizing infos collected with
  | nil =>
      rw [List.mapM_nil] at all
      cases all
      refine ⟨collected.totalTps, ?_⟩
      rw [List.flatMap_nil, List.flatMap_nil, List.append_nil, List.append_nil, List.append_nil, List.append_nil]
      rfl
  | cons broker rest ih =>
      rw [List.mapM_cons] at all
      obtain ⟨info, made, others⟩ := Option.bind_eq_some_iff.mp all
      obtain ⟨tail, allRest, whole⟩ := Option.bind_eq_some_iff.mp others
      obtain ⟨totalTps, run⟩ := ih allRest (Collected.add numbers topics broker info (Collected.answers broker collected))
      refine ⟨totalTps, ?_⟩
      rw [forEach_cons, bind_of_returns (collectBroker_eq_of_info made collected), run, ← Option.some.inj whole]
      unfold Collected.add Collected.answers
      rw [List.flatMap_cons, List.flatMap_cons, List.append_assoc, List.append_assoc, List.append_assoc,
        List.append_assoc]
      rfl

theorem forEach_collectBroker_throws {brokers : List (Broker Double)} (missing : brokers.mapM (infoOf numbers) = none)
    (collected : Collected Double) : (forEach (collectBroker numbers topics) brokers collected).1 = none := by
  induction brokers generalizing collected with
  | nil => cases missing
  | cons broker rest ih =>
      rw [forEach_cons]
      cases made : infoOf numbers broker with
      | none => rw [bind_of_throws (Prod.ext (collectBroker_throws made collected) rfl)]
      | some info =>
          rw [bind_of_returns (collectBroker_eq_of_info made collected)]
          apply ih
          rw [List.mapM_cons, made] at missing
          cases others : rest.mapM (infoOf numbers) with
          | none => rfl
          | some infos =>
              rw [others] at missing
              cases missing

theorem forEach_collectBroker_silent {brokers : List (Broker Double)}
    (silent : ∀ broker ∈ brokers, broker.answers = false) (collected : Collected Double) :
    (forEach (collectBroker numbers topics) brokers collected).2 = collected := by
  cases brokers with
  | nil => rfl
  | cons broker rest =>
      rw [forEach_cons, bind_of_throws (collectBroker_eq_of_not_answers (silent broker List.mem_cons_self) collected)]

end Loop

/-! ### The topics -/

section Topics
variable {Double : Type} {broker : Broker Double} {topic : String}

theorem groupData_eq (groups : List String) :
    groupData broker topic groups =
      (groups.takeWhile fun group => (sendBack broker topic group).isSome).filterMap (sendBack broker topic) := by
  induction groups with
  | nil => rfl
  | cons group rest ih =>
      unfold groupData
      cases known : broker.viewBrokerStatsData .SNDBCK_PUT_NUMS (buildStatsKey topic group) with
      | none =>
          have missing : (sendBack broker topic group).isSome = false := by
            unfold sendBack
            rw [known]
            rfl
          rw [List.takeWhile_cons_of_neg (by rw [missing]; exact Bool.false_ne_true)]
          rfl
      | some bsd =>
          have present : sendBack broker topic group = some (buildStatsKey topic group, bsd) := by
            unfold sendBack
            rw [known]
            rfl
          rw [List.takeWhile_cons_of_pos (by rw [present]; rfl), List.filterMap_cons_some present, ← ih]

theorem filterMap_groups (broker : Broker Double) (topic : String) (groups : List String) :
    groups.filterMap (sendBack broker topic) = groupData broker topic groups ++
      (groups.dropWhile fun group => (sendBack broker topic group).isSome).filterMap (sendBack broker topic) := by
  rw [groupData_eq, ← List.filterMap_append, List.takeWhile_append_dropWhile]

theorem topicData_of_some {bsd : BrokerStatsData Double} (known : broker.viewBrokerStatsData .TOPIC_PUT_NUMS topic = some bsd) :
    topicData broker topic = (topic, bsd) :: groupData broker topic (groupsOf broker topic) := by
  unfold topicData groupsOf
  rw [known]
  cases broker.queryTopicConsumeByWho topic with
  | none => rfl
  | some groupList => rfl

theorem sublist_availableTopicData (broker : Broker Double) (topic : String) :
    (topicData broker topic).Sublist (availableTopicData broker topic) := by
  cases known : broker.viewBrokerStatsData .TOPIC_PUT_NUMS topic with
  | none =>
      unfold topicData
      rw [known]
      exact List.nil_sublist _
  | some bsd =>
      unfold availableTopicData
      rw [topicData_of_some known, known, filterMap_groups broker topic (groupsOf broker topic)]
      exact (List.sublist_append_left _ _).cons_cons _

theorem topicData_eq_iff : topicData broker topic = availableTopicData broker topic ↔ NothingBehind broker topic := by
  unfold NothingBehind availableTopicData
  cases known : broker.viewBrokerStatsData .TOPIC_PUT_NUMS topic with
  | none =>
      unfold topicData
      rw [known]
      exact eq_comm.trans List.filterMap_eq_nil_iff
  | some bsd =>
      rw [topicData_of_some known, filterMap_groups broker topic (groupsOf broker topic)]
      exact List.cons_eq_cons.trans
        ((and_iff_right rfl).trans (List.self_eq_append_right.trans List.filterMap_eq_nil_iff))

theorem flatMap_eq_iff_of_sublist {α β : Type} {few whole : α → List β} (part : ∀ a, (few a).Sublist (whole a))
    {items : List α} : items.flatMap few = items.flatMap whole ↔ ∀ a ∈ items, few a = whole a := by
  constructor
  · intro same
    induction items with
    | nil =>
        intro a member
        cases member
    | cons first rest ih =>
        rw [List.flatMap_cons, List.flatMap_cons] at same
        have lengths := congrArg List.length same
        rw [List.length_append, List.length_append] at lengths
        have short := (part first).length_le
        have shortRest := (List.Sublist.flatMap_right rest fun a _ => part a).length_le
        have head : few first = whole first := (part first).eq_of_length (by omega)
        rw [head] at same
        exact List.forall_mem_cons.mpr ⟨head, ih (List.append_cancel_left same)⟩
  · intro same
    exact List.flatMap_congr same

theorem allTopicData_eq_iff (brokers : List (Broker Double)) (topics : List String) :
    (brokers.flatMap fun broker => topics.flatMap (topicData broker)) =
        (brokers.flatMap fun broker => topics.flatMap (availableTopicData broker)) ↔
      ∀ broker ∈ brokers, ∀ topic ∈ topics, NothingBehind broker topic := by
  have part : ∀ broker : Broker Double,
      (topics.flatMap (topicData broker)).Sublist (topics.flatMap (availableTopicData broker)) :=
    fun broker => List.Sublist.flatMap_right topics fun topic _ => sublist_availableTopicData broker topic
  rw [flatMap_eq_iff_of_sublist part]
  simp only [flatMap_eq_iff_of_sublist (sublist_availableTopicData _), topicData_eq_iff]

end Topics

/-! ### What is written of a run -/

section Stored
variable {Double : Type} {numbers : JavaNumbers Double} {clusterName : String} {collected : Collected Double}

theorem nodup_batches : ((batches numbers clusterName collected).map Prod.fst).Nodup := by
  change [CLUSTER_NUMBER_INFO, MQ_BROKER_NUMBER_INFO, MQ_BROKER_STRING_INFO, MQ_TOPIC_INFO, MQ_CONSUMER_NUMBER_INFO,
    MQ_CONSUMER_STRING_INFO].Nodup
  decide

theorem brokerNumbers_mem_batches :
    (MQ_BROKER_NUMBER_INFO, transformMqBroker numbers clusterName collected.brokers) ∈
      batches numbers clusterName collected := .tail _ (.head _)

theorem brokerTexts_mem_batches :
    (MQ_BROKER_STRING_INFO, transformStringDataMqBroker clusterName collected.brokers) ∈
      batches numbers clusterName collected := .tail _ (.tail _ (.head _))

theorem topics_mem_batches :
    (MQ_TOPIC_INFO, transformMqTopic clusterName
      (gatherAll (TopicInfo.new numbers) (TopicInfo.add numbers) collected.topicData)) ∈
      batches numbers clusterName collected := .tail _ (.tail _ (.tail _ (.head _)))

theorem consumerNumbers_mem_batches :
    (MQ_CONSUMER_NUMBER_INFO, transformMqConsumer numbers clusterName
      (gatherAll ConsumerInfo.new (ConsumerInfo.add numbers) collected.consumerData)) ∈
      batches numbers clusterName collected := .tail _ (.tail _ (.tail _ (.tail _ (.head _))))

theorem consumerTexts_mem_batches :
    (MQ_CONSUMER_STRING_INFO, transformStrDataMqConsumer clusterName
      (gatherAll ConsumerInfo.new (ConsumerInfo.add numbers) collected.consumerData)) ∈
      batches numbers clusterName collected := .tail _ (.tail _ (.tail _ (.tail _ (.tail _ (.head _)))))

structure AllFine (numbers : JavaNumbers Double) (collected : Collected Double) : Prop where
  brokers : ∀ info ∈ collected.brokers, (∀ entry ∈ brokerSegments numbers info, Fine numbers entry.2) ∧
    Fine numbers (ofText info.putMessageDistributeTime)
  topics : ∀ topicName info, topicSum numbers collected.topicData topicName = some info →
    numbers.finite info.cntInToday = true ∧ numbers.finite info.tps = true
  consumers : ∀ consumer info, consumerSum numbers collected.consumerData consumer = some info →
    numbers.finite info.tps = true

theorem allFine_of_stored (all : collected.answered.mapM (infoOf numbers) = some collected.brokers)
    (stored : Stored numbers clusterName collected (database numbers (batches numbers clusterName collected))) :
    AllFine numbers collected where
  brokers := by
    intro info member
    obtain ⟨broker, answered, made⟩ := exists_of_mem_mapM all member
    obtain ⟨brokerAddr, table, isAddr, isTable, reads⟩ := reads_of_infoOf made
    have isStored := stored.brokers broker answered
    have isIp : broker.brokerAddr.bind ipOf = some info.ip := by
      rw [isAddr]
      exact reads.ip
    constructor
    · exact fine_of_mem_database nodup_batches isStored.brokerId brokerNumbers_mem_batches _
        (List.mem_map_of_mem member)
    · exact fine_of_mem_database nodup_batches (isStored.ip _ isIp) brokerTexts_mem_batches _
        (List.mem_map_of_mem member) _ (.tail _ (.head _))
  topics := by
    intro topicName info sum
    have isStored := stored.topics topicName info sum
    have fine := fine_of_mem_database nodup_batches isStored.tps topics_mem_batches _
      (List.mem_map_of_mem ((mem_gatherAll_iff _).mpr sum))
    exact ⟨fine_number.mp (fine _ (.head _)), fine_number.mp (fine _ (.tail _ (.head _)))⟩
  consumers := by
    intro consumer info sum
    have isStored := stored.consumers consumer info sum
    have fine := fine_of_mem_database nodup_batches isStored.tps consumerNumbers_mem_batches _
      (List.mem_map_of_mem ((mem_gatherAll_iff _).mpr sum))
    exact fine_number.mp (fine _ (.tail _ (.tail _ (.head _))))

theorem brokerStored_of_allFine (fine : AllFine numbers collected) {broker : Broker Double} {info : BrokerInfo Double}
    (member : info ∈ collected.brokers) (made : infoOf numbers broker = some info) :
    BrokerStored numbers clusterName broker (database numbers (batches numbers clusterName collected)) := by
  obtain ⟨brokerAddr, table, isAddr, isTable, reads⟩ := reads_of_infoOf made
  have number : ∀ name value, (name, Segment.number value) ∈ brokerSegments numbers info →
      numberPoint numbers MQ_BROKER_NUMBER_INFO (brokerTags clusterName broker.brokerName) name value ∈
        database numbers (batches numbers clusterName collected) := by
    intro name value inMap
    rw [← reads.brokerName]
    apply mem_database_of_fine brokerNumbers_mem_batches _ (List.mem_map_of_mem member) inMap
    · exact valueOf_number ((fine.brokers info member).1 _ inMap)
    · intro metrics isMetrics
      obtain ⟨other, isOther, same⟩ := List.mem_map.mp isMetrics
      rw [← same]
      exact (fine.brokers other isOther).1
  have text : ∀ name value segment, (name, segment) ∈
      [("ip", .text info.ip), ("putMessageDistributeTime", ofText info.putMessageDistributeTime)] →
      valueOf numbers segment = some value →
      ⟨MQ_BROKER_STRING_INFO, brokerTags clusterName broker.brokerName, name, value⟩ ∈
        database numbers (batches numbers clusterName collected) := by
    intro name value segment inMap known
    rw [← reads.brokerName]
    apply mem_database_of_fine brokerTexts_mem_batches _ (List.mem_map_of_mem member) inMap known
    intro metrics isMetrics
    obtain ⟨other, isOther, same⟩ := List.mem_map.mp isMetrics
    rw [← same]
    exact List.forall_mem_cons.mpr ⟨⟨.text other.ip, rfl⟩, List.forall_mem_singleton.mpr (fine.brokers other isOther).2⟩
  constructor
  · rw [← reads.brokerId]
    exact number _ _ (.tail _ (.head _))
  · intro known same entry isNumber
    rw [isTable] at same
    rw [← Option.some.inj same] at isNumber
    exact number _ _ (reads.mem_brokerSegments isNumber)
  · intro ip isIp
    rw [isAddr] at isIp
    rw [← Option.some.inj (reads.ip.symm.trans isIp)]
    exact text _ _ _ (.head _) rfl
  · intro known distribute same present
    rw [isTable] at same
    rw [← Option.some.inj same] at present
    apply text _ _ _ (.tail _ (.head _))
    rw [reads.distribute, present]
    rfl

theorem topicStored_of_allFine (fine : AllFine numbers collected) {topicName : String} {info : TopicInfo Double}
    (sum : topicSum numbers collected.topicData topicName = some info) :
    TopicStored numbers clusterName topicName info (database numbers (batches numbers clusterName collected)) := by
  have all : ∀ metrics ∈ transformMqTopic clusterName
      (gatherAll (TopicInfo.new numbers) (TopicInfo.add numbers) collected.topicData),
      ∀ entry ∈ metrics.segmentMap, Fine numbers entry.2 := by
    intro metrics isMetrics
    obtain ⟨other, isOther, same⟩ := List.mem_map.mp isMetrics
    obtain ⟨cntInToday, tps⟩ := fine.topics _ _ ((mem_gatherAll_iff _).mp isOther)
    rw [← same]
    exact List.forall_mem_cons.mpr ⟨fine_number.mpr cntInToday, List.forall_mem_singleton.mpr (fine_number.mpr tps)⟩
  have member : (topicName, info) ∈ gatherAll (TopicInfo.new numbers) (TopicInfo.add numbers) collected.topicData :=
    (mem_gatherAll_iff _).mpr sum
  obtain ⟨cntInToday, tps⟩ := fine.topics _ _ sum
  constructor
  · exact mem_database_of_fine topics_mem_batches all (List.mem_map_of_mem member) (.head _)
      (valueOf_number (fine_number.mpr cntInToday))
  · exact mem_database_of_fine topics_mem_batches all (List.mem_map_of_mem member) (.tail _ (.head _))
      (valueOf_number (fine_number.mpr tps))

theorem consumerStored_of_allFine (fine : AllFine numbers collected) {consumer : String} {info : ConsumerInfo Double}
    (sum : consumerSum numbers collected.consumerData consumer = some info) :
    ConsumerStored numbers clusterName consumer info (database numbers (batches numbers clusterName collected)) := by
  have all : ∀ metrics ∈ transformMqConsumer numbers clusterName
      (gatherAll ConsumerInfo.new (ConsumerInfo.add numbers) collected.consumerData),
      ∀ entry ∈ metrics.segmentMap, Fine numbers entry.2 := by
    intro metrics isMetrics
    obtain ⟨other, isOther, same⟩ := List.mem_map.mp isMetrics
    have tps := fine.consumers _ _ ((mem_gatherAll_iff _).mp isOther)
    rw [← same]
    exact List.forall_mem_cons.mpr ⟨fine_ofLong _, List.forall_mem_cons.mpr ⟨fine_ofLong _,
      List.forall_mem_singleton.mpr (fine_number.mpr tps)⟩⟩
  have texts : ∀ metrics ∈ transformStrDataMqConsumer clusterName
      (gatherAll ConsumerInfo.new (ConsumerInfo.add numbers) collected.consumerData),
      ∀ entry ∈ metrics.segmentMap, Fine numbers entry.2 := by
    intro metrics isMetrics
    obtain ⟨other, _, same⟩ := List.mem_map.mp isMetrics
    rw [← same]
    exact List.forall_mem_singleton.mpr ⟨_, rfl⟩
  have member : (consumer, info) ∈ gatherAll ConsumerInfo.new (ConsumerInfo.add numbers) collected.consumerData :=
    (mem_gatherAll_iff _).mpr sum
  constructor
  · exact mem_database_of_fine consumerNumbers_mem_batches all (List.mem_map_of_mem member) (.head _)
      (valueOf_number (fine_ofLong _))
  · exact mem_database_of_fine consumerNumbers_mem_batches all (List.mem_map_of_mem member) (.tail _ (.head _))
      (valueOf_number (fine_ofLong _))
  · exact mem_database_of_fine consumerNumbers_mem_batches all (List.mem_map_of_mem member)
      (.tail _ (.tail _ (.head _))) (valueOf_number (fine_number.mpr (fine.consumers _ _ sum)))
  · exact mem_database_of_fine consumerTexts_mem_batches texts (List.mem_map_of_mem member) (.head _) rfl

theorem stored_of_allFine (all : collected.answered.mapM (infoOf numbers) = some collected.brokers)
    (fine : AllFine numbers collected) :
    Stored numbers clusterName collected (database numbers (batches numbers clusterName collected)) where
  brokers := by
    intro broker answered
    obtain ⟨info, member, made⟩ := exists_of_mem_of_mapM all answered
    exact brokerStored_of_allFine fine member made
  topics _ _ sum := topicStored_of_allFine fine sum
  consumers _ _ sum := consumerStored_of_allFine fine sum

end Stored

/-! ### The runs -/

section Runs
variable {Double : Type} {numbers : JavaNumbers Double} {cluster : Cluster Double} {infos : List (BrokerInfo Double)}

theorem answering_eq_of_infos (all : cluster.brokers.mapM (infoOf numbers) = some infos) :
    answering cluster = cluster.brokers := by
  apply List.filter_eq_self.mpr
  intro broker member
  obtain ⟨info, _, made⟩ := exists_of_mem_of_mapM all member
  exact answers_of_infoOf made

theorem collectBrokers_of_infos (all : cluster.brokers.mapM (infoOf numbers) = some infos) :
    ∃ totalTps, collectBrokers numbers cluster = (some (), ⟨cluster.brokers, infos,
      cluster.brokers.flatMap fun broker => cluster.topics.flatMap (topicData broker),
      allConsumerData numbers cluster, totalTps⟩) := by
  unfold allConsumerData
  rw [answering_eq_of_infos all]
  exact forEach_collectBroker all (Collected.start numbers)

theorem collectMqMetrics_of_returns {collected : Collected Double}
    (run : collectBrokers numbers cluster = (some (), collected)) :
    collectMqMetrics numbers cluster = batches numbers cluster.clusterName collected := by
  unfold collectMqMetrics
  rw [run]

theorem sound_of_losesOnlyItself (all : cluster.brokers.mapM (infoOf numbers) = some infos)
    (loses : LosesOnlyItself numbers cluster) : Sound numbers cluster := by
  obtain ⟨totalTps, run⟩ := collectBrokers_of_infos all
  obtain ⟨_, topicData, _, stored⟩ := loses
  rw [collectMqMetrics_of_returns run] at stored
  rw [run] at topicData stored
  have fine := allFine_of_stored all stored
  constructor
  · intro broker member
    obtain ⟨info, isInfo, made⟩ := exists_of_mem_of_mapM all member
    obtain ⟨brokerAddr, table, isAddr, isTable, reads⟩ := reads_of_infoOf made
    exact ⟨brokerAddr, table, isAddr, isTable, reads.readable, reads.writable_iff.mpr (fine.brokers info isInfo)⟩
  · unfold allTopicData at topicData
    rw [answering_eq_of_infos all] at topicData
    exact (allTopicData_eq_iff _ _).mp topicData
  · rw [← topicData]
    exact fine.topics
  · exact fine.consumers

theorem exists_infos_of_sound (sound : Sound numbers cluster) :
    ∃ infos, cluster.brokers.mapM (infoOf numbers) = some infos := by
  have each : ∀ broker ∈ cluster.brokers, ∃ info, infoOf numbers broker = some info ∧ True := by
    intro broker member
    obtain ⟨brokerAddr, table, isAddr, isTable, readable, _⟩ := sound.brokers broker member
    have readInfo : ∃ info, brokerInfoOf numbers broker.brokerName brokerAddr table = some info :=
      exists_brokerInfoOf readable
    obtain ⟨info, made⟩ := readInfo
    unfold infoOf
    rw [isAddr, Option.bind_some, isTable, Option.bind_some]
    exact ⟨info, made, trivial⟩
  obtain ⟨infos, all, _⟩ := exists_mapM each
  exact ⟨infos, all⟩

theorem losesOnlyItself_of_sound (sound : Sound numbers cluster) : LosesOnlyItself numbers cluster := by
  obtain ⟨infos, all⟩ := exists_infos_of_sound sound
  obtain ⟨totalTps, run⟩ := collectBrokers_of_infos all
  have topicData : (cluster.brokers.flatMap fun broker => cluster.topics.flatMap (topicData broker)) =
      allTopicData cluster := by
    unfold allTopicData
    rw [answering_eq_of_infos all]
    exact (allTopicData_eq_iff _ _).mpr sound.topics
  rw [topicData] at run
  constructor
  · rw [run, answering_eq_of_infos all]
  · rw [run]
  · rw [run]
  · rw [collectMqMetrics_of_returns run, run]
    apply stored_of_allFine all
    constructor
    · intro info isInfo
      obtain ⟨broker, member, made⟩ := exists_of_mem_mapM all isInfo
      obtain ⟨brokerAddr, table, isAddr, isTable, reads⟩ := reads_of_infoOf made
      obtain ⟨knownAddr, knownTable, _, sameTable, _, writable⟩ := sound.brokers broker member
      rw [isTable] at sameTable
      rw [← Option.some.inj sameTable] at writable
      exact reads.writable_iff.mp writable
    · exact sound.topicSums
    · exact sound.consumerSums

/-- After an exception nothing is stored, so there must have been nothing to be stored. -/
theorem silent_of_losesOnlyItself (missing : cluster.brokers.mapM (infoOf numbers) = none)
    (loses : LosesOnlyItself numbers cluster) : ∀ broker ∈ cluster.brokers, broker.answers = false := by
  obtain ⟨answered, _, _, stored⟩ := loses
  have throws : (collectBrokers numbers cluster).1 = none :=
    forEach_collectBroker_throws missing (Collected.start numbers)
  have nothing : collectMqMetrics numbers cluster = [] := by
    unfold collectMqMetrics
    cases run : collectBrokers numbers cluster with
    | mk answer collected =>
        rw [run] at throws
        change answer = none at throws
        rw [throws]
  rw [nothing] at stored
  intro broker member
  cases answers : broker.answers with
  | false => rfl
  | true =>
      have isAnswering : broker ∈ answering cluster := List.mem_filter.mpr ⟨member, answers⟩
      rw [← answered] at isAnswering
      cases (stored.brokers broker isAnswering).brokerId

theorem answering_eq_nil_of_silent (silent : ∀ broker ∈ cluster.brokers, broker.answers = false) :
    answering cluster = [] := by
  apply List.filter_eq_nil_iff.mpr
  intro broker member
  rw [silent broker member]
  exact Bool.false_ne_true

theorem losesOnlyItself_of_silent (silent : ∀ broker ∈ cluster.brokers, broker.answers = false) :
    LosesOnlyItself numbers cluster := by
  have run : (collectBrokers numbers cluster).2 = Collected.start numbers :=
    forEach_collectBroker_silent silent (Collected.start numbers)
  have none := answering_eq_nil_of_silent silent
  constructor
  · rw [run, none]
    rfl
  · unfold allTopicData
    rw [run, none]
    rfl
  · unfold allConsumerData
    rw [run, none]
    rfl
  · rw [run]
    constructor
    · intro broker member
      cases member
    · intro topicName info sum
      cases sum
    · intro consumer info sum
      cases sum

end Runs

section Conclusion
variable {Double : Type}

theorem losesOnlyItself_iff (numbers : JavaNumbers Double) (cluster : Cluster Double) :
    LosesOnlyItself numbers cluster ↔
      (∀ broker ∈ cluster.brokers, broker.answers = false) ∨ Sound numbers cluster := by
  constructor
  · intro loses
    cases all : cluster.brokers.mapM (infoOf numbers) with
    | none => exact .inl (silent_of_losesOnlyItself all loses)
    | some infos => exact .inr (sound_of_losesOnlyItself all loses)
  · intro condition
    cases condition with
    | inl silent => exact losesOnlyItself_of_silent silent
    | inr sound => exact losesOnlyItself_of_sound sound

/-! ### A broker without a master -/

def wholeNumbers : JavaNumbers Int where
  integerValueOf text := if text = "0" then some 0 else none
  longValueOf text := if text = "0" then some 0 else none
  parseDouble text := if text = "0" then some 0 else none
  ofLong value := value
  ceil value := value
  add first second := first + second
  finite _ := true
  scaled value := value
  finite_ofLong _ := rfl

def idleBroker (brokerName : String) (brokerAddr : Option String) : Broker Int where
  brokerName := brokerName
  brokerAddr := brokerAddr
  fetchBrokerRuntimeStats := some fun _ => some "0"
  viewBrokerStatsData _ _ := none
  queryTopicConsumeByWho _ := none
  fetchConsumeStatsInBroker := some []
  examineConsumerConnectionInfo _ := none
  currentTimeMillis _ := 0

/-- Of the first broker only a slave is left. -/
def clusterWithoutMaster : Cluster Int where
  clusterName := "mq"
  brokers := [idleBroker "broker-a" none, idleBroker "broker-b" (some "10.0.0.2:10911")]
  topics := []

theorem not_always_losesOnlyItself : ¬ LosesOnlyItself wholeNumbers clusterWithoutMaster := by
  intro loses
  have answered : [] = [idleBroker "broker-b" (some "10.0.0.2:10911")] := loses.answered
  cases answered

end Conclusion

end Zms.Collector.RocketMq
