import Zms.Collector.KafkaEmitters

/-! What the metrics of Kafka are named after.

A metric is to hold the attributes of the MBean of its name, and that of a topic their sums over
the brokers. One broker metric and one topic metric are filled from another MBean.
-/

set_option autoImplicit false

namespace Zms.Collector.Kafka

open Zms.Registry

variable {D : Type}

/-! ### Readings -/

namespace Value

def isLong : Value D → Bool
  | .long _ => true
  | .double _ => false

def toDouble (jmx : Jmx D) : Value D → D
  | .long n => jmx.ofLong n
  | .double d => d

def add (jmx : Jmx D) : Value D → Value D → Value D
  | .long m, .long n => .long (KafkaJMXCollector.addLong m n)
  | .double c, .double d => .double (jmx.addCalc c d)
  | .long m, .double _ => .long m
  | .double c, .long _ => .double c

def sum (jmx : Jmx D) : List (Value D) → Option (Value D)
  | [] => none
  | first :: rest => some (rest.foldl (add jmx) first)

end Value

/-- The attributes of a kind of MBean: their names, and those of the segments they fill. -/
structure Shape (A : Type) where
  all : List A
  segment : A → String
  name : A → String
  long : A → Bool

namespace Shape
variable {A : Type} (shape : Shape A) (jmx : Jmx D) (uri mbean : String)

/-- An attribute that is there and of its type. -/
def present (a : A) : Option (Value D) :=
  (jmx.getAttribute uri mbean (shape.name a)).filter fun value => value.isLong = shape.long a

/-- An attribute of an MBean that can be read, and zero of another. -/
def value (a : A) : Value D :=
  let zero : Value D := if shape.long a then .long 0 else .double jmx.zero
  if shape.all.all fun a => (shape.present jmx uri mbean a).isSome then (shape.present jmx uri mbean a).getD zero
  else zero

def reading : List (String × D) :=
  shape.all.map fun a => (shape.segment a, (shape.value jmx uri mbean a).toDouble jmx)

/-- The sums over some brokers. -/
def total (uris : List String) : Option (List (String × D)) :=
  shape.all.mapM fun a =>
    (Value.sum jmx (uris.map fun uri => shape.value jmx uri mbean a)).map fun sum =>
      (shape.segment a, sum.toDouble jmx)

end Shape

inductive RateAttribute where
  | count | fifteenMinuteRate | fiveMinuteRate | meanRate | oneMinuteRate

def rateShape : Shape RateAttribute where
  all := [.count, .fifteenMinuteRate, .fiveMinuteRate, .meanRate, .oneMinuteRate]
  segment
    | .count => "count"
    | .fifteenMinuteRate => "fifteenMinuteRate"
    | .fiveMinuteRate => "fiveMinuteRate"
    | .meanRate => "meanRate"
    | .oneMinuteRate => "oneMinuteRate"
  name
    | .count => "Count"
    | .fifteenMinuteRate => "FifteenMinuteRate"
    | .fiveMinuteRate => "FiveMinuteRate"
    | .meanRate => "MeanRate"
    | .oneMinuteRate => "OneMinuteRate"
  long
    | .count => true
    | .fifteenMinuteRate | .fiveMinuteRate | .meanRate | .oneMinuteRate => false

inductive NetAttribute where
  | percentile50th | percentile75th | percentile95th | percentile98th | percentile999th | percentile99th
  | count | max | mean | min | stdDev

def netShape : Shape NetAttribute where
  all := [.percentile50th, .percentile75th, .percentile95th, .percentile98th, .percentile999th, .percentile99th,
    .count, .max, .mean, .min, .stdDev]
  segment
    | .percentile50th => "50thPercentile"
    | .percentile75th => "75thPercentile"
    | .percentile95th => "95thPercentile"
    | .percentile98th => "98thPercentile"
    | .percentile999th => "999thPercentile"
    | .percentile99th => "99thPercentile"
    | .count => "count"
    | .max => "max"
    | .mean => "mean"
    | .min => "min"
    | .stdDev => "stdDev"
  name
    | .percentile50th => "50thPercentile"
    | .percentile75th => "75thPercentile"
    | .percentile95th => "95thPercentile"
    | .percentile98th => "98thPercentile"
    | .percentile999th => "999thPercentile"
    | .percentile99th => "99thPercentile"
    | .count => "Count"
    | .max => "Max"
    | .mean => "Mean"
    | .min => "Min"
    | .stdDev => "StdDev"
  long
    | .count => true
    | .percentile50th | .percentile75th | .percentile95th | .percentile98th | .percentile999th | .percentile99th
    | .max | .mean | .min | .stdDev => false

def valueShape : Shape Unit where
  all := [()]
  segment _ := "value"
  name _ := "Value"
  long _ := true

inductive Kind where
  | rate | net | value
  deriving DecidableEq

def Kind.reading (jmx : Jmx D) (uri mbean : String) : Kind → List (String × D)
  | .rate => rateShape.reading jmx uri mbean
  | .net => netShape.reading jmx uri mbean
  | .value => valueShape.reading jmx uri mbean

def MBeanRateInfo.get (info : MBeanRateInfo D) : RateAttribute → Value D
  | .count => .long info.count
  | .fifteenMinuteRate => .double info.fifteenMinuteRate
  | .fiveMinuteRate => .double info.fiveMinuteRate
  | .meanRate => .double info.meanRate
  | .oneMinuteRate => .double info.oneMinuteRate

def MBeanNetInfo.get (info : MBeanNetInfo D) : NetAttribute → Value D
  | .percentile50th => .double info._50thPercentile
  | .percentile75th => .double info._75thPercentile
  | .percentile95th => .double info._95thPercentile
  | .percentile98th => .double info._98thPercentile
  | .percentile999th => .double info._999thPercentile
  | .percentile99th => .double info._99thPercentile
  | .count => .long info.count
  | .max => .double info.max
  | .mean => .double info.mean
  | .min => .double info.min
  | .stdDev => .double info.stdDev

section Readers
open KafkaMbeanService MetricsTransformService
variable {A : Type} {shape : Shape A} (jmx : Jmx D) (uri mbean : String) {a : A}

theorem present_long (isLong : shape.long a = true) :
    shape.present jmx uri mbean a = (long jmx uri mbean (shape.name a)).map Value.long := by
  unfold Shape.present long
  cases jmx.getAttribute uri mbean (shape.name a) with
  | none => rfl
  | some value => cases value <;> simp [Option.filter, Value.isLong, Value.asLong, isLong]

theorem present_double (isDouble : shape.long a = false) :
    shape.present jmx uri mbean a = (double jmx uri mbean (shape.name a)).map Value.double := by
  unfold Shape.present double
  cases jmx.getAttribute uri mbean (shape.name a) with
  | none => rfl
  | some value => cases value <;> simp [Option.filter, Value.isLong, Value.asDouble, isDouble]

theorem long_of_missing (isLong : shape.long a = true) (missing : shape.present jmx uri mbean a = none) :
    long jmx uri mbean (shape.name a) = none := by
  rwa [present_long jmx uri mbean isLong, Option.map_eq_none_iff] at missing

theorem double_of_missing (isDouble : shape.long a = false) (missing : shape.present jmx uri mbean a = none) :
    double jmx uri mbean (shape.name a) = none := by
  rwa [present_double jmx uri mbean isDouble, Option.map_eq_none_iff] at missing

theorem exists_long (name : String) (named : shape.name a = name) (isLong : shape.long a = true)
    (found : (shape.present jmx uri mbean a).isSome) :
    ∃ n, long jmx uri mbean name = some n ∧ shape.present jmx uri mbean a = some (.long n) := by
  subst named
  rw [present_long jmx uri mbean isLong, Option.isSome_map, Option.isSome_iff_exists] at found
  obtain ⟨n, read⟩ := found
  exact ⟨n, read, by rw [present_long jmx uri mbean isLong, read]; rfl⟩

theorem exists_double (name : String) (named : shape.name a = name) (isDouble : shape.long a = false)
    (found : (shape.present jmx uri mbean a).isSome) :
    ∃ d, double jmx uri mbean name = some d ∧ shape.present jmx uri mbean a = some (.double d) := by
  subst named
  rw [present_double jmx uri mbean isDouble, Option.isSome_map, Option.isSome_iff_exists] at found
  obtain ⟨d, read⟩ := found
  exact ⟨d, read, by rw [present_double jmx uri mbean isDouble, read]; rfl⟩

theorem value_of_missing {b : A} (member : b ∈ shape.all) (missing : shape.present jmx uri mbean b = none) :
    shape.value jmx uri mbean a = if shape.long a then .long 0 else .double jmx.zero := by
  unfold Shape.value
  rw [if_neg]
  intro complete
  have found := List.all_eq_true.mp complete b member
  rw [missing] at found
  cases found

theorem value_of_complete (complete : ∀ b, (shape.present jmx uri mbean b).isSome) :
    shape.value jmx uri mbean a =
      (shape.present jmx uri mbean a).getD (if shape.long a then .long 0 else .double jmx.zero) := by
  unfold Shape.value
  rw [if_pos (List.all_eq_true.mpr fun b _ => complete b)]

theorem mem_rateShape (a : RateAttribute) : a ∈ rateShape.all := by
  cases a <;> simp [rateShape]

theorem mem_netShape (a : NetAttribute) : a ∈ netShape.all := by
  cases a <;> simp [netShape]

/-- A rate has the attributes of its MBean: when one cannot be read, all of them are zero. -/
theorem get_getMbeanRateInfo (a : RateAttribute) :
    (getMbeanRateInfo jmx uri mbean).get a = rateShape.value jmx uri mbean a := by
  by_cases complete : ∀ b, (rateShape.present jmx uri mbean b).isSome
  · rw [value_of_complete jmx uri mbean complete]
    obtain ⟨count, countRead, countIs⟩ := exists_long jmx uri mbean "Count" rfl rfl (complete .count)
    obtain ⟨meanRate, meanRateRead, meanRateIs⟩ := exists_double jmx uri mbean "MeanRate" rfl rfl (complete .meanRate)
    obtain ⟨fiveMinuteRate, fiveMinuteRateRead, fiveMinuteRateIs⟩ :=
      exists_double jmx uri mbean "FiveMinuteRate" rfl rfl (complete .fiveMinuteRate)
    obtain ⟨fifteenMinuteRate, fifteenMinuteRateRead, fifteenMinuteRateIs⟩ :=
      exists_double jmx uri mbean "FifteenMinuteRate" rfl rfl (complete .fifteenMinuteRate)
    obtain ⟨oneMinuteRate, oneMinuteRateRead, oneMinuteRateIs⟩ :=
      exists_double jmx uri mbean "OneMinuteRate" rfl rfl (complete .oneMinuteRate)
    have gathered : getMbeanRateInfo jmx uri mbean =
        ⟨count, meanRate, fiveMinuteRate, fifteenMinuteRate, oneMinuteRate⟩ := by
      simp only [getMbeanRateInfo, countRead, meanRateRead, fiveMinuteRateRead,
        fifteenMinuteRateRead, oneMinuteRateRead, Option.pure_def, Option.bind_eq_bind, Option.bind_some,
        Option.getD_some]
    cases a
    · rw [gathered, countIs]; rfl
    · rw [gathered, fifteenMinuteRateIs]; rfl
    · rw [gathered, fiveMinuteRateIs]; rfl
    · rw [gathered, meanRateIs]; rfl
    · rw [gathered, oneMinuteRateIs]; rfl
  · obtain ⟨b, missing⟩ := not_forall.mp complete
    rw [Bool.not_eq_true, Option.isSome_eq_false_iff, Option.isNone_iff_eq_none] at missing
    have unread : getMbeanRateInfo jmx uri mbean = ⟨0, jmx.zero, jmx.zero, jmx.zero, jmx.zero⟩ := by
      cases b
      · have read : long jmx uri mbean "Count" = none := long_of_missing jmx uri mbean rfl missing
        simp [getMbeanRateInfo, read]
      · have read : double jmx uri mbean "FifteenMinuteRate" = none := double_of_missing jmx uri mbean rfl missing
        simp [getMbeanRateInfo, read]
      · have read : double jmx uri mbean "FiveMinuteRate" = none := double_of_missing jmx uri mbean rfl missing
        simp [getMbeanRateInfo, read]
      · have read : double jmx uri mbean "MeanRate" = none := double_of_missing jmx uri mbean rfl missing
        simp [getMbeanRateInfo, read]
      · have read : double jmx uri mbean "OneMinuteRate" = none := double_of_missing jmx uri mbean rfl missing
        simp [getMbeanRateInfo, read]
    rw [unread, value_of_missing jmx uri mbean (mem_rateShape b) missing]
    cases a <;> rfl

theorem get_getMbeanNetInfo (a : NetAttribute) :
    (getMbeanNetInfo jmx uri mbean).get a = netShape.value jmx uri mbean a := by
  by_cases complete : ∀ b, (netShape.present jmx uri mbean b).isSome
  · rw [value_of_complete jmx uri mbean complete]
    obtain ⟨count, countRead, countIs⟩ := exists_long jmx uri mbean "Count" rfl rfl (complete .count)
    obtain ⟨min, minRead, minIs⟩ := exists_double jmx uri mbean "Min" rfl rfl (complete .min)
    obtain ⟨max, maxRead, maxIs⟩ := exists_double jmx uri mbean "Max" rfl rfl (complete .max)
    obtain ⟨mean, meanRead, meanIs⟩ := exists_double jmx uri mbean "Mean" rfl rfl (complete .mean)
    obtain ⟨stdDev, stdDevRead, stdDevIs⟩ := exists_double jmx uri mbean "StdDev" rfl rfl (complete .stdDev)
    obtain ⟨percentile50th, percentile50thRead, percentile50thIs⟩ :=
      exists_double jmx uri mbean "50thPercentile" rfl rfl (complete .percentile50th)
    obtain ⟨percentile75th, percentile75thRead, percentile75thIs⟩ :=
      exists_double jmx uri mbean "75thPercentile" rfl rfl (complete .percentile75th)
    obtain ⟨percentile95th, percentile95thRead, percentile95thIs⟩ :=
      exists_double jmx uri mbean "95thPercentile" rfl rfl (complete .percentile95th)
    obtain ⟨percentile98th, percentile98thRead, percentile98thIs⟩ :=
      exists_double jmx uri mbean "98thPercentile" rfl rfl (complete .percentile98th)
    obtain ⟨percentile99th, percentile99thRead, percentile99thIs⟩ :=
      exists_double jmx uri mbean "99thPercentile" rfl rfl (complete .percentile99th)
    obtain ⟨percentile999th, percentile999thRead, percentile999thIs⟩ :=
      exists_double jmx uri mbean "999thPercentile" rfl rfl (complete .percentile999th)
    have gathered : getMbeanNetInfo jmx uri mbean =
        ⟨count, min, max, mean, stdDev, percentile50th, percentile75th, percentile95th, percentile98th,
          percentile99th, percentile999th⟩ := by
      simp only [getMbeanNetInfo, countRead, minRead, maxRead, meanRead, stdDevRead,
        percentile50thRead, percentile75thRead, percentile95thRead, percentile98thRead,
        percentile99thRead, percentile999thRead, Option.pure_def, Option.bind_eq_bind, Option.bind_some,
        Option.getD_some]
    cases a
    · rw [gathered, percentile50thIs]; rfl
    · rw [gathered, percentile75thIs]; rfl
    · rw [gathered, percentile95thIs]; rfl
    · rw [gathered, percentile98thIs]; rfl
    · rw [gathered, percentile999thIs]; rfl
    · rw [gathered, percentile99thIs]; rfl
    · rw [gathered, countIs]; rfl
    · rw [gathered, maxIs]; rfl
    · rw [gathered, meanIs]; rfl
    · rw [gathered, minIs]; rfl
    · rw [gathered, stdDevIs]; rfl
  · obtain ⟨b, missing⟩ := not_forall.mp complete
    rw [Bool.not_eq_true, Option.isSome_eq_false_iff, Option.isNone_iff_eq_none] at missing
    have unread : getMbeanNetInfo jmx uri mbean = ⟨0, jmx.zero, jmx.zero, jmx.zero, jmx.zero, jmx.zero, jmx.zero,
        jmx.zero, jmx.zero, jmx.zero, jmx.zero⟩ := by
      cases b
      · have read : double jmx uri mbean "50thPercentile" = none := double_of_missing jmx uri mbean rfl missing
        simp [getMbeanNetInfo, read]
      · have read : double jmx uri mbean "75thPercentile" = none := double_of_missing jmx uri mbean rfl missing
        simp [getMbeanNetInfo, read]
      · have read : double jmx uri mbean "95thPercentile" = none := double_of_missing jmx uri mbean rfl missing
        simp [getMbeanNetInfo, read]
      · have read : double jmx uri mbean "98thPercentile" = none := double_of_missing jmx uri mbean rfl missing
        simp [getMbeanNetInfo, read]
      · have read : double jmx uri mbean "999thPercentile" = none := double_of_missing jmx uri mbean rfl missing
        simp [getMbeanNetInfo, read]
      · have read : double jmx uri mbean "99thPercentile" = none := double_of_missing jmx uri mbean rfl missing
        simp [getMbeanNetInfo, read]
      · have read : long jmx uri mbean "Count" = none := long_of_missing jmx uri mbean rfl missing
        simp [getMbeanNetInfo, read]
      · have read : double jmx uri mbean "Max" = none := double_of_missing jmx uri mbean rfl missing
        simp [getMbeanNetInfo, read]
      · have read : double jmx uri mbean "Mean" = none := double_of_missing jmx uri mbean rfl missing
        simp [getMbeanNetInfo, read]
      · have read : double jmx uri mbean "Min" = none := double_of_missing jmx uri mbean rfl missing
        simp [getMbeanNetInfo, read]
      · have read : double jmx uri mbean "StdDev" = none := double_of_missing jmx uri mbean rfl missing
        simp [getMbeanNetInfo, read]
    rw [unread, value_of_missing jmx uri mbean (mem_netShape b) missing]
    cases a <;> rfl

theorem get_getMbeanInfo :
    (Value.long (getMbeanInfo jmx uri mbean).value : Value D) = valueShape.value jmx uri mbean () := by
  have value : valueShape.present jmx uri mbean () = (long jmx uri mbean "Value").map Value.long :=
    present_long jmx uri mbean rfl
  rcases read : long jmx uri mbean "Value" with _ | n
  · rw [read] at value
    rw [value_of_missing jmx uri mbean (List.mem_singleton_self ()) value]
    simp [getMbeanInfo, read, valueShape]
  · rw [read] at value
    rw [value_of_complete jmx uri mbean fun b => by rw [value]; rfl, value]
    simp [getMbeanInfo, read]

theorem segments_getMbeanRateInfo :
    addMinuteRateMetrics jmx (getMbeanRateInfo jmx uri mbean) = rateShape.reading jmx uri mbean := by
  have segments (info : MBeanRateInfo D) : addMinuteRateMetrics jmx info =
      rateShape.all.map fun a => (rateShape.segment a, (info.get a).toDouble jmx) := rfl
  rw [segments, Shape.reading]
  simp only [get_getMbeanRateInfo]

theorem segments_getMbeanNetInfo :
    netSegments jmx (getMbeanNetInfo jmx uri mbean) = netShape.reading jmx uri mbean := by
  have segments (info : MBeanNetInfo D) : netSegments jmx info =
      netShape.all.map fun a => (netShape.segment a, (info.get a).toDouble jmx) := rfl
  rw [segments, Shape.reading]
  simp only [get_getMbeanNetInfo]

theorem segments_getMbeanInfo : valueSegments jmx (getMbeanInfo jmx uri mbean) = valueShape.reading jmx uri mbean := by
  have reading : valueShape.reading jmx uri mbean =
      [("value", (valueShape.value jmx uri mbean ()).toDouble jmx)] := rfl
  rw [reading, ← get_getMbeanInfo]
  rfl

/-- The segments of the bean that is read. -/
def Kind.segments : Kind → List (String × D)
  | .rate => addMinuteRateMetrics jmx (getMbeanRateInfo jmx uri mbean)
  | .net => netSegments jmx (getMbeanNetInfo jmx uri mbean)
  | .value => valueSegments jmx (getMbeanInfo jmx uri mbean)

theorem segments_eq_reading (kind : Kind) : kind.segments jmx uri mbean = kind.reading jmx uri mbean := by
  cases kind with
  | rate => exact segments_getMbeanRateInfo jmx uri mbean
  | net => exact segments_getMbeanNetInfo jmx uri mbean
  | value => exact segments_getMbeanInfo jmx uri mbean

end Readers

/-! ### The metrics of a broker -/

/-- An MBean and the name of its metric. -/
structure BrokerAttribute where
  attributeName : String
  kind : Kind
  mbean : String
  deriving DecidableEq

def uncleanLeaderElectionsPerSec : String := "kafka.controller:type=ControllerStats,name=UncleanLeaderElectionsPerSec"

def underReplicatedPartitions : String := "kafka.server:type=ReplicaManager,name=UnderReplicatedPartitions"

def brokerAttributesWith (underReplicatedPartitions : String) : List BrokerAttribute :=
  [⟨"FetchFollowerTotalTimeMs", .net, "kafka.network:type=RequestMetrics,name=TotalTimeMs,request=FetchFollower"⟩,
    ⟨"ActiveControllerCount", .value, "kafka.controller:type=KafkaController,name=ActiveControllerCount"⟩,
    ⟨"BytesRejectedPerSec", .rate, "kafka.server:type=BrokerTopicMetrics,name=BytesRejectedPerSec"⟩,
    ⟨"ProduceRequestsPerSec", .rate, "kafka.network:type=RequestMetrics,name=RequestsPerSec,request=Produce"⟩,
    ⟨"IsrShrinksPerSec", .rate, "kafka.server:type=ReplicaManager,name=IsrShrinksPerSec"⟩,
    ⟨"ProduceRequestQueueTimeMs", .net,
      "kafka.network:type=RequestMetrics,name=RequestQueueTimeMs,request=Produce"⟩,
    ⟨"FetchFollowerRequestsPerSec", .rate,
      "kafka.network:type=RequestMetrics,name=RequestsPerSec,request=FetchFollower"⟩,
    ⟨"FetchConsumerTotalTimeMs", .net, "kafka.network:type=RequestMetrics,name=TotalTimeMs,request=FetchConsumer"⟩,
    ⟨"MessagesInPerSec", .rate, "kafka.server:type=BrokerTopicMetrics,name=MessagesInPerSec"⟩,
    ⟨"UnderReplicatedPartitions", .rate, underReplicatedPartitions⟩,
    ⟨"BytesOutPerSec", .rate, "kafka.server:type=BrokerTopicMetrics,name=BytesOutPerSec"⟩,
    ⟨"LeaderCount", .value, "kafka.server:type=ReplicaManager,name=LeaderCount"⟩,
    ⟨"LogFlushRateAndTimeMs", .net, "kafka.log:type=LogFlushStats,name=LogFlushRateAndTimeMs"⟩,
    ⟨"BytesInPerSec", .rate, "kafka.server:type=BrokerTopicMetrics,name=BytesInPerSec"⟩,
    ⟨"RequestHandlerAvgIdlePercent", .rate,
      "kafka.server:type=KafkaRequestHandlerPool,name=RequestHandlerAvgIdlePercent"⟩,
    ⟨"FetchFollowerRequestQueueTimeMs", .net,
      "kafka.network:type=RequestMetrics,name=RequestQueueTimeMs,request=FetchFollower"⟩,
    ⟨"ProduceTotalTimeMs", .net, "kafka.network:type=RequestMetrics,name=TotalTimeMs,request=Produce"⟩,
    ⟨"LeaderElectionRateAndTimeMs", .rate,
      "kafka.controller:type=ControllerStats,name=LeaderElectionRateAndTimeMs"⟩,
    ⟨"FailedProduceRequestsPerSec", .rate,
      "kafka.server:type=BrokerTopicMetrics,name=FailedProduceRequestsPerSec"⟩,
    ⟨"FetchConsumerRequestQueueTimeMs", .net,
      "kafka.network:type=RequestMetrics,name=RequestQueueTimeMs,request=FetchConsumer"⟩,
    ⟨"FailedFetchRequestsPerSec", .rate, "kafka.server:type=BrokerTopicMetrics,name=FailedFetchRequestsPerSec"⟩,
    ⟨"UncleanLeaderElectionsPerSec", .rate, uncleanLeaderElectionsPerSec⟩,
    ⟨"FetchConsumerRequestsPerSec", .rate,
      "kafka.network:type=RequestMetrics,name=RequestsPerSec,request=FetchConsumer"⟩,
    ⟨"PartitionCount", .value, "kafka.server:type=ReplicaManager,name=PartitionCount"⟩,
    ⟨"OfflinePartitionsCount", .value, "kafka.controller:type=KafkaController,name=OfflinePartitionsCount"⟩]

/-- The MBeans that the metrics are named after. -/
def brokerAttributes : List BrokerAttribute := brokerAttributesWith underReplicatedPartitions

/-- A metric with what an MBean of a broker reads. -/
def BrokerAttribute.metric (jmx : Jmx D) (clusterName brokerName uri : String) (a : BrokerAttribute) : MetricsDo D :=
  ⟨clusterName, none, some brokerName, a.attributeName, a.kind.reading jmx uri a.mbean⟩

theorem transformBroker_brokerMetrics (jmx : Jmx D) (clusterName broker uri : String) :
    MetricsTransformService.transformBroker jmx clusterName (broker, KafkaJMXCollector.brokerMetrics jmx uri) =
      (brokerAttributesWith uncleanLeaderElectionsPerSec).map fun a => some (a.metric jmx clusterName broker uri) := by
  have segments : MetricsTransformService.transformBroker jmx clusterName
      (broker, KafkaJMXCollector.brokerMetrics jmx uri) =
      (brokerAttributesWith uncleanLeaderElectionsPerSec).map fun a =>
        some ⟨clusterName, none, some broker, a.attributeName, a.kind.segments jmx uri a.mbean⟩ := rfl
  rw [segments]
  simp only [segments_eq_reading, BrokerAttribute.metric]

end Zms.Collector.Kafka
