import Zms.Collector.MetricSums
import Zms.Transition.Collecting

/-! Every Kafka metric is the MBean it is named after, but for two of them. -/

set_option autoImplicit false

namespace Zms.Collector.Kafka

open Zms.Registry KafkaJMXCollector MetricsTransformService

variable {D : Type}

namespace TopicAttribute
variable (jmx : Jmx D) (clusterName : String)

def metric (brokerName topic : String) (a : TopicAttribute) : MetricsDo D :=
  ⟨clusterName, some topic, some brokerName, a.attributeName, rateShape.reading jmx (uriOf brokerName) (a.mbean topic)⟩

/-- A topic's metric that holds the sums of an attribute over the brokers, if there are any. -/
def totalMetric (hosts : List String) (topic : String) (a summed : TopicAttribute) : Option (MetricsDo D) :=
  (rateShape.total jmx (summed.mbean topic) (hosts.map uriOf)).map fun segments =>
    ⟨clusterName, some topic, none, a.attributeName, segments⟩

end TopicAttribute

section Naming
variable (jmx : Jmx D) (textOf : Gathered D → String) (clusterName : String) (hosts topics : List String)

def namedBrokers : List (MetricsDo D) :=
  hosts.flatMap fun host => brokerAttributes.map fun a => a.metric jmx clusterName host (uriOf host)

/-- A topic's sums, each of some attribute, and its readings at every broker. -/
def topicMetricsWith (summed : TopicAttribute → TopicAttribute) (topic : String) : List (MetricsDo D) :=
  (TopicAttribute.all.filterMap fun a => a.totalMetric jmx clusterName hosts topic (summed a)) ++
    hosts.flatMap fun host => TopicAttribute.all.map (TopicAttribute.metric jmx clusterName host topic)

def namedTopic : String → List (MetricsDo D) := topicMetricsWith jmx clusterName hosts id

/-- Exactly one metric for every broker, topic and attribute, with the readings of its name. -/
def EachNamed : Prop :=
  ∃ info, buildKafkaMetricsInfo jmx textOf clusterName (hosts.map uriOf) topics = some info ∧
    (transformKafkaBroker jmx info).reduceOption.Perm (namedBrokers jmx clusterName hosts) ∧
    (transformKafkaTopic jmx info).reduceOption.Perm (topics.flatMap (namedTopic jmx clusterName hosts))

/-- When the two metrics that are made from others agree with them, and no host is taken for a
port or for a key of a topic's map. -/
structure Alike : Prop where
  bare : ∀ host ∈ hosts, ':' ∉ host.toList
  apart : topics ≠ [] → ∀ host ∈ hosts, host ∉ removedKeys
  elections : ∀ host ∈ hosts, rateShape.reading jmx (uriOf host) uncleanLeaderElectionsPerSec =
    rateShape.reading jmx (uriOf host) underReplicatedPartitions
  fetches : ∀ topic ∈ topics,
    rateShape.total jmx (TopicAttribute.failedProduceRequestsPerSec.mbean topic) (hosts.map uriOf) =
      rateShape.total jmx (TopicAttribute.failedFetchRequestsPerSec.mbean topic) (hosts.map uriOf)

end Naming

/-! ### The emitted metrics of a topic -/

/-- The attribute whose sums the metric of a topic is made from. -/
def TopicAttribute.source : TopicAttribute → TopicAttribute
  | .failedFetchRequestsPerSec => .failedProduceRequestsPerSec
  | other => other

def TopicMetrics.get (metrics : TopicMetrics D) : TopicAttribute → Option (MBeanRateInfo D)
  | .messagesInPerSec => metrics.messagesInPerSec
  | .bytesOutPerSec => metrics.bytesOutPerSec
  | .bytesInPerSec => metrics.bytesInPerSec
  | .failedProduceRequestsPerSec => metrics.failedProduceRequestsPerSec
  | .failedFetchRequestsPerSec => metrics.failedFetchRequestsPerSec
  | .bytesRejectedPerSec => metrics.bytesRejectedPerSec

theorem get_toTopicMetrics (get : String → Option (MBeanRateInfo D)) (a : TopicAttribute) :
    (toTopicMetrics get).get a = get a.attributeName := by
  cases a <;> rfl

theorem rateOf_map (sum : Option (MBeanRateInfo D)) : rateOf (sum.map .rate) = sum := by
  cases sum <;> rfl

section Emitted
variable (jmx : Jmx D) (clusterName : String)

theorem topicBrokerMetrics_eq (topic : String) (entry : String × TopicMetrics D) :
    topicBrokerMetrics jmx clusterName topic entry = TopicAttribute.all.map fun a =>
      topicBrokerMetricsDo jmx a.attributeName clusterName topic entry.1 (entry.2.get a) := by
  rfl

theorem transformTopic_eq (metrics : TopicMetricsInfo D) :
    transformTopic jmx clusterName metrics =
      (TopicAttribute.all.map fun a =>
        topicMetricsDo jmx a.attributeName clusterName metrics.topic (metrics.get a.source)) ++
        metrics.topicBrokerMetrics.flatMap (topicBrokerMetrics jmx clusterName metrics.topic) := by
  rfl

theorem get_topicBorkerMetrics (uri topic : String) (a : TopicAttribute) :
    Puts.get (topicBorkerMetrics jmx uri topic) a.attributeName = some (rateOfTopic jmx uri topic a) := by
  cases a <;> rfl

variable {jmx} {topic : String} {hosts : List String} {gather : TopicGather D}

theorem topicBrokerMetrics_brokerEntry (host : String) :
    topicBrokerMetrics jmx clusterName topic
        (brokerEntry (host, .broker (topicBorkerMetrics jmx (uriOf host) topic))) =
      TopicAttribute.all.map fun a => some (a.metric jmx clusterName host topic) := by
  rw [topicBrokerMetrics_eq]
  apply List.map_congr_left
  intro a _
  have got : (brokerEntry (host, .broker (topicBorkerMetrics jmx (uriOf host) topic))).2.get a =
      some (rateOfTopic jmx (uriOf host) topic a) := by
    rw [← get_topicBorkerMetrics]
    exact get_toTopicMetrics _ a
  rw [got, TopicAttribute.metric, ← segments_getMbeanRateInfo]
  rfl

theorem transformTopic_of_sums (textOf : Gathered D → String) (sums : Sums jmx topic hosts gather) :
    transformTopic jmx clusterName (toTopicMetricsInfo textOf gather) =
      (TopicAttribute.all.map fun a => a.totalMetric jmx clusterName hosts topic a.source) ++
        hosts.flatMap fun host => TopicAttribute.all.map fun a => some (a.metric jmx clusterName host topic) := by
  have named : (toTopicMetricsInfo textOf gather).topic = topic := by
    rw [toTopicMetricsInfo, sums.named]
    rfl
  rw [transformTopic_eq, named]
  congr 1
  · apply List.map_congr_left
    intro a _
    have got (b : TopicAttribute) : (toTopicMetricsInfo textOf gather).get b =
        sumOf jmx (hosts.map fun host => rateOfTopic jmx (uriOf host) topic b) := by
      refine (get_toTopicMetrics _ b).trans ?_
      rw [sums.sums b]
      exact rateOf_map _
    rw [got, TopicAttribute.totalMetric, ← segments_sumOf, List.map_map, Option.map_map]
    rfl
  · rw [toTopicMetricsInfo, sums.brokers, List.map_map, List.flatMap_map]
    apply List.flatMap_congr
    intro host _
    exact topicBrokerMetrics_brokerEntry clusterName host

theorem notMem_removedKeys_of_emitted (textOf : Gathered D → String) {metric : MetricsDo D} {broker : String}
    (member : some metric ∈ transformTopic jmx clusterName (toTopicMetricsInfo textOf gather))
    (named : metric.brokerName = some broker) : broker ∉ removedKeys := by
  rw [transformTopic_eq, List.mem_append] at member
  rcases member with total | own
  · obtain ⟨a, -, emitted⟩ := List.mem_map.mp total
    obtain ⟨info, -, rfl⟩ := Option.map_eq_some_iff.mp emitted
    cases named
  · obtain ⟨entry, found, emitted⟩ := List.mem_flatMap.mp own
    obtain ⟨left, kept, rfl⟩ := List.mem_map.mp found
    rw [topicBrokerMetrics_eq] at emitted
    obtain ⟨a, -, made⟩ := List.mem_map.mp emitted
    obtain ⟨info, -, rfl⟩ := Option.map_eq_some_iff.mp made
    have key : (brokerEntry left).1 = left.1 := by
      unfold brokerEntry
      split <;> rfl
    obtain rfl : left.1 = broker := key.symm.trans (Option.some.inj named)
    simpa using (List.mem_filter.mp kept).2

end Emitted

/-! ### When all metrics are named right -/

theorem reduceOption_flatMap {A B : Type} (f : A → List (Option B)) (xs : List A) :
    (xs.flatMap f).reduceOption = xs.flatMap fun x => (f x).reduceOption :=
  List.filterMap_flatMap

theorem reduceOption_map_some {A B : Type} (f : A → B) (xs : List A) :
    (xs.map fun x => some (f x)).reduceOption = xs.map f := by
  simp [List.reduceOption]

section Exactly
variable {jmx : Jmx D} {textOf : Gathered D → String} {clusterName : String} {hosts topics : List String}
  {info : KafkaMetrics D}

theorem of_buildKafkaMetricsInfo {uris : List String}
    (built : buildKafkaMetricsInfo jmx textOf clusterName uris topics = some info) :
    info.clusterName = clusterName ∧ buildBrokersMetricsInfo jmx uris [] = some info.brokersMetrics ∧
      ∃ gathers, topics.mapM (buildTopicMetricsInfo jmx uris) = some gathers ∧
        info.topicMetricsInfo = gathers.map (toTopicMetricsInfo textOf) := by
  obtain ⟨brokers, brokersBuilt, rest⟩ := Option.bind_eq_some_iff.mp built
  obtain ⟨gathers, topicsBuilt, whole⟩ := Option.bind_eq_some_iff.mp rest
  obtain rfl := Option.some.inj whole
  exact ⟨rfl, brokersBuilt, gathers, topicsBuilt, rfl⟩

theorem of_mem_transformKafkaBroker {uris : List String}
    (built : buildBrokersMetricsInfo jmx uris [] = some info.brokersMetrics) {metric : MetricsDo D}
    (member : metric ∈ (transformKafkaBroker jmx info).reduceOption) :
    ∃ broker uri, brokerOf uri = some broker ∧ ∃ a ∈ brokerAttributesWith uncleanLeaderElectionsPerSec,
      a.metric jmx info.clusterName broker uri = metric := by
  rw [List.reduceOption_mem_iff] at member
  obtain ⟨⟨broker, metrics⟩, found, emitted⟩ := List.mem_flatMap.mp member
  rcases of_mem_buildBrokersMetricsInfo built found with nothing | ⟨uri, named, read⟩
  · cases nothing
  · change metrics = brokerMetrics jmx uri at read
    rw [read, transformBroker_brokerMetrics] at emitted
    obtain ⟨a, listed, same⟩ := List.mem_map.mp emitted
    exact ⟨broker, uri, named, a, listed, Option.some.inj same⟩

/-- The metrics of distinct brokers, with the MBean that the partitions' metric is made from. -/
theorem transformKafkaBroker_of_bare (brokers : info.brokersMetrics =
    hosts.map fun host => (host, brokerMetrics jmx (uriOf host))) :
    (transformKafkaBroker jmx info).reduceOption = hosts.flatMap fun host =>
      (brokerAttributesWith uncleanLeaderElectionsPerSec).map fun a =>
        a.metric jmx info.clusterName host (uriOf host) := by
  rw [transformKafkaBroker, brokers, List.flatMap_map, reduceOption_flatMap]
  simp only [transformBroker_brokerMetrics, reduceOption_map_some]

theorem reduceOption_transformTopic {topic : String} {gather : TopicGather D} (sums : Sums jmx topic hosts gather) :
    (transformTopic jmx clusterName (toTopicMetricsInfo textOf gather)).reduceOption =
      topicMetricsWith jmx clusterName hosts TopicAttribute.source topic := by
  rw [transformTopic_of_sums clusterName textOf sums, List.reduceOption_append, reduceOption_flatMap]
  simp only [reduceOption_map_some]
  rw [List.reduceOption, List.filterMap_map]
  rfl

theorem transformKafkaTopic_of_sums {gathers : List (TopicGather D)}
    (sums : List.Forall₂ (Sums jmx · hosts) topics gathers)
    (metrics : info.topicMetricsInfo = gathers.map (toTopicMetricsInfo textOf)) :
    (transformKafkaTopic jmx info).reduceOption =
      topics.flatMap (topicMetricsWith jmx info.clusterName hosts TopicAttribute.source) := by
  rw [transformKafkaTopic, metrics, List.flatMap_map, reduceOption_flatMap]
  clear metrics
  induction sums with
  | nil => rfl
  | cons first _ ih => rw [List.flatMap_cons, List.flatMap_cons, ih, reduceOption_transformTopic first]

variable (jmx) in
theorem exists_gathers (bare : ∀ host ∈ hosts, ':' ∉ host.toList) (distinct : hosts.Nodup)
    (apart : topics ≠ [] → ∀ host ∈ hosts, host ∉ removedKeys) :
    ∃ gathers, topics.mapM (buildTopicMetricsInfo jmx (hosts.map uriOf)) = some gathers ∧
      List.Forall₂ (Sums jmx · hosts) topics gathers :=
  Transition.exists_mapM fun _ member =>
    buildTopicMetricsInfo_sums bare (apart (List.ne_nil_of_mem member)) distinct

/-! ### From the names to the condition -/

theorem bare_of_named (built : buildBrokersMetricsInfo jmx (hosts.map uriOf) [] = some info.brokersMetrics)
    (named : (transformKafkaBroker jmx info).reduceOption.Perm (namedBrokers jmx info.clusterName hosts)) :
    ∀ host ∈ hosts, ':' ∉ host.toList := by
  intro host member
  let a : BrokerAttribute := ⟨"LeaderCount", .value, "kafka.server:type=ReplicaManager,name=LeaderCount"⟩
  have expected : a.metric jmx info.clusterName host (uriOf host) ∈ namedBrokers jmx info.clusterName hosts :=
    List.mem_flatMap.mpr ⟨host, member, List.mem_map_of_mem (by decide)⟩
  obtain ⟨broker, uri, split, b, -, same⟩ := of_mem_transformKafkaBroker built (named.mem_iff.mpr expected)
  obtain rfl : broker = host := Option.some.inj (congrArg MetricsDo.brokerName same)
  exact notMem_brokerOf split

theorem elections_of_named (brokers : info.brokersMetrics =
      hosts.map fun host => (host, brokerMetrics jmx (uriOf host)))
    (named : (transformKafkaBroker jmx info).reduceOption.Perm (namedBrokers jmx info.clusterName hosts))
    {host : String} (member : host ∈ hosts) :
    rateShape.reading jmx (uriOf host) uncleanLeaderElectionsPerSec =
      rateShape.reading jmx (uriOf host) underReplicatedPartitions := by
  rw [transformKafkaBroker_of_bare brokers] at named
  let a : BrokerAttribute := ⟨"UnderReplicatedPartitions", .rate, underReplicatedPartitions⟩
  have expected : a.metric jmx info.clusterName host (uriOf host) ∈ namedBrokers jmx info.clusterName hosts :=
    List.mem_flatMap.mpr ⟨host, member, List.mem_map_of_mem (by decide)⟩
  obtain ⟨other, -, emitted⟩ := List.mem_flatMap.mp (named.mem_iff.mpr expected)
  obtain ⟨b, listed, same⟩ := List.mem_map.mp emitted
  obtain rfl : other = host := Option.some.inj (congrArg MetricsDo.brokerName same)
  have only : ∀ b ∈ brokerAttributesWith uncleanLeaderElectionsPerSec,
      b.attributeName = "UnderReplicatedPartitions" →
        b = ⟨"UnderReplicatedPartitions", .rate, uncleanLeaderElectionsPerSec⟩ := by
    decide
  rw [only b listed (congrArg MetricsDo.attributeName same)] at same
  exact congrArg MetricsDo.segmentMap same

theorem apart_of_named {gathers : List (TopicGather D)}
    (metrics : info.topicMetricsInfo = gathers.map (toTopicMetricsInfo textOf))
    (named : (transformKafkaTopic jmx info).reduceOption.Perm
      (topics.flatMap (namedTopic jmx info.clusterName hosts)))
    (some : topics ≠ []) : ∀ host ∈ hosts, host ∉ removedKeys := by
  intro host member
  obtain ⟨topic, found⟩ := List.exists_mem_of_ne_nil topics some
  have expected : TopicAttribute.messagesInPerSec.metric jmx info.clusterName host topic ∈
      topics.flatMap (namedTopic jmx info.clusterName hosts) :=
    List.mem_flatMap.mpr ⟨topic, found, List.mem_append_right _
      (List.mem_flatMap.mpr ⟨host, member, List.mem_map_of_mem (TopicAttribute.mem_all _)⟩)⟩
  have emitted := List.reduceOption_mem_iff.mp (named.mem_iff.mpr expected)
  rw [transformKafkaTopic, metrics, List.flatMap_map] at emitted
  obtain ⟨gather, -, own⟩ := List.mem_flatMap.mp emitted
  exact notMem_removedKeys_of_emitted info.clusterName textOf own rfl

theorem mem_topicMetricsWith (summed : TopicAttribute → TopicAttribute) {topic : String} {a : TopicAttribute}
    {segments : List (String × D)} :
    ⟨clusterName, some topic, none, a.attributeName, segments⟩ ∈
        topics.flatMap (topicMetricsWith jmx clusterName hosts summed) ↔
      topic ∈ topics ∧ rateShape.total jmx ((summed a).mbean topic) (hosts.map uriOf) = some segments := by
  constructor
  · intro member
    obtain ⟨other, found, own⟩ := List.mem_flatMap.mp member
    rcases List.mem_append.mp own with total | broker
    · obtain ⟨b, -, made⟩ := List.mem_filterMap.mp total
      obtain ⟨read, sum, same⟩ := Option.map_eq_some_iff.mp made
      obtain rfl : other = topic := Option.some.inj (congrArg MetricsDo.topicName same)
      obtain rfl : b = a := TopicAttribute.attributeName_inj (congrArg MetricsDo.attributeName same)
      obtain rfl : read = segments := congrArg MetricsDo.segmentMap same
      exact ⟨found, sum⟩
    · obtain ⟨host, -, made⟩ := List.mem_flatMap.mp broker
      obtain ⟨b, -, same⟩ := List.mem_map.mp made
      cases congrArg MetricsDo.brokerName same
  · rintro ⟨found, sum⟩
    refine List.mem_flatMap.mpr ⟨topic, found, List.mem_append_left _ ?_⟩
    refine List.mem_filterMap.mpr ⟨a, a.mem_all, ?_⟩
    rw [TopicAttribute.totalMetric, sum]
    rfl

theorem fetches_of_named
    (named : (topics.flatMap (topicMetricsWith jmx clusterName hosts TopicAttribute.source)).Perm
      (topics.flatMap (namedTopic jmx clusterName hosts)))
    {topic : String} (member : topic ∈ topics) :
    rateShape.total jmx (TopicAttribute.failedProduceRequestsPerSec.mbean topic) (hosts.map uriOf) =
      rateShape.total jmx (TopicAttribute.failedFetchRequestsPerSec.mbean topic) (hosts.map uriOf) := by
  apply Option.ext
  intro segments
  let metric : MetricsDo D := ⟨clusterName, some topic, none, "FailedFetchRequestsPerSec", segments⟩
  have emitted : metric ∈ topics.flatMap (topicMetricsWith jmx clusterName hosts TopicAttribute.source) ↔
      topic ∈ topics ∧ rateShape.total jmx (TopicAttribute.failedProduceRequestsPerSec.mbean topic)
        (hosts.map uriOf) = some segments :=
    mem_topicMetricsWith (a := .failedFetchRequestsPerSec) TopicAttribute.source
  have expected : metric ∈ topics.flatMap (namedTopic jmx clusterName hosts) ↔
      topic ∈ topics ∧ rateShape.total jmx (TopicAttribute.failedFetchRequestsPerSec.mbean topic)
        (hosts.map uriOf) = some segments :=
    mem_topicMetricsWith (a := .failedFetchRequestsPerSec) id
  have both := emitted.symm.trans (named.mem_iff.trans expected)
  simpa only [member, true_and] using both

/-! ### From the condition to the names -/

theorem metrics_with_of_reading {uri first second : String} (broker : String)
    (same : rateShape.reading jmx uri first = rateShape.reading jmx uri second) :
    (brokerAttributesWith first).map (BrokerAttribute.metric jmx clusterName broker uri) =
      (brokerAttributesWith second).map (BrokerAttribute.metric jmx clusterName broker uri) := by
  simp only [brokerAttributesWith, List.map_cons, List.map_nil, BrokerAttribute.metric, Kind.reading, same]

theorem topicMetricsWith_source {topic : String}
    (same : rateShape.total jmx (TopicAttribute.failedProduceRequestsPerSec.mbean topic) (hosts.map uriOf) =
      rateShape.total jmx (TopicAttribute.failedFetchRequestsPerSec.mbean topic) (hosts.map uriOf)) :
    topicMetricsWith jmx clusterName hosts TopicAttribute.source topic =
      namedTopic jmx clusterName hosts topic := by
  unfold namedTopic topicMetricsWith
  congr 1
  apply List.filterMap_congr
  intro a _
  cases a with
  | failedFetchRequestsPerSec =>
    change TopicAttribute.totalMetric jmx clusterName hosts topic _ .failedProduceRequestsPerSec = _
    rw [TopicAttribute.totalMetric, same]
    rfl
  | _ => rfl

/-- Every metric is the MBean it is named after exactly where the partitions' rates are the
elections', the sums of failed fetches those of failed produces, and the hosts are plain. -/
theorem eachNamed_iff (distinct : hosts.Nodup) :
    EachNamed jmx textOf clusterName hosts topics ↔ Alike jmx hosts topics := by
  constructor
  · rintro ⟨info, built, brokersNamed, topicsNamed⟩
    obtain ⟨rfl, brokersBuilt, gathers, gathered, metrics⟩ := of_buildKafkaMetricsInfo built
    have bare := bare_of_named brokersBuilt brokersNamed
    have apart := apart_of_named metrics topicsNamed
    have brokers : info.brokersMetrics = hosts.map fun host => (host, brokerMetrics jmx (uriOf host)) := by
      rw [buildBrokersMetricsInfo_uriOf bare (by simpa using distinct)] at brokersBuilt
      exact (Option.some.inj brokersBuilt).symm
    obtain ⟨sound, gatheredSound, sums⟩ := exists_gathers jmx bare distinct apart
    obtain rfl : gathers = sound := Option.some.inj (gathered.symm.trans gatheredSound)
    rw [transformKafkaTopic_of_sums sums metrics] at topicsNamed
    exact ⟨bare, apart, fun host member => elections_of_named brokers brokersNamed member,
      fun topic member => fetches_of_named topicsNamed member⟩
  · intro alike
    obtain ⟨gathers, gathered, sums⟩ := exists_gathers jmx alike.bare distinct alike.apart
    let info : KafkaMetrics D :=
      ⟨clusterName, hosts.map fun host => (host, brokerMetrics jmx (uriOf host)),
        gathers.map (toTopicMetricsInfo textOf)⟩
    refine ⟨info, ?_, ?_, ?_⟩
    · rw [buildKafkaMetricsInfo, buildBrokersMetricsInfo_uriOf alike.bare (by simpa using distinct), gathered]
      rfl
    · rw [transformKafkaBroker_of_bare rfl]
      refine List.Perm.of_eq (List.flatMap_congr fun host member => ?_)
      exact metrics_with_of_reading host (alike.elections host member)
    · rw [transformKafkaTopic_of_sums sums rfl]
      refine List.Perm.of_eq (List.flatMap_congr fun topic member => ?_)
      exact topicMetricsWith_source (alike.fetches topic member)

end Exactly

def evenly : Jmx Int where
  getAttribute _ _ name := some (if name = "Count" ∨ name = "Value" then .long 7 else .double 2)
  zero := 0
  ofLong n := n
  addCalc := (· + ·)

theorem eachNamed_evenly : EachNamed evenly (fun _ => "") "kafka" ["kafka1", "kafka2"] ["orders", "bills"] :=
  (eachNamed_iff (by decide)).mpr ⟨by decide, by decide, fun _ _ => rfl, fun _ _ => rfl⟩

/-- Brokers that have had three unclean elections, and have no other MBean of rates. -/
def unclean : Jmx Int where
  getAttribute _ mbean name :=
    if mbean = uncleanLeaderElectionsPerSec then some (if name = "Count" then .long 3 else .double 0) else none
  zero := 0
  ofLong n := n
  addCalc := (· + ·)

theorem not_eachNamed : ¬ EachNamed unclean (fun _ => "") "kafka" ["kafka1"] ["orders"] := by
  rintro ⟨info, built, named, -⟩
  obtain ⟨cluster, brokersBuilt, -⟩ := of_buildKafkaMetricsInfo built
  rw [← cluster] at named
  have bare := bare_of_named brokersBuilt named
  rw [buildBrokersMetricsInfo_uriOf bare (by simp)] at brokersBuilt
  have same := elections_of_named (Option.some.inj brokersBuilt).symm named (List.mem_singleton_self "kafka1")
  exact absurd same (by decide)

end Zms.Collector.Kafka
