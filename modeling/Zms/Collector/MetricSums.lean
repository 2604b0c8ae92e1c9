import Zms.Collector.MetricNames

/-! The sums that the collector gathers for a topic, broker by broker. -/

set_option autoImplicit false

namespace Zms.Collector.Kafka

open Zms.Registry KafkaJMXCollector

variable {D : Type}

def uriOf (host : String) : String := host ++ ":9999"

/-- The attributes of a topic, in the order of their metrics. -/
inductive TopicAttribute where
  | messagesInPerSec | bytesOutPerSec | bytesInPerSec
  | failedProduceRequestsPerSec | failedFetchRequestsPerSec | bytesRejectedPerSec
  deriving DecidableEq

namespace TopicAttribute

def all : List TopicAttribute :=
  [.messagesInPerSec, .bytesOutPerSec, .bytesInPerSec, .failedProduceRequestsPerSec, .failedFetchRequestsPerSec,
    .bytesRejectedPerSec]

/-- The order of the collector. -/
def gathered : List TopicAttribute :=
  [.bytesInPerSec, .bytesOutPerSec, .bytesRejectedPerSec, .failedFetchRequestsPerSec, .failedProduceRequestsPerSec,
    .messagesInPerSec]

def attributeName : TopicAttribute → String
  | .messagesInPerSec => "MessagesInPerSec"
  | .bytesOutPerSec => "BytesOutPerSec"
  | .bytesInPerSec => "BytesInPerSec"
  | .failedProduceRequestsPerSec => "FailedProduceRequestsPerSec"
  | .failedFetchRequestsPerSec => "FailedFetchRequestsPerSec"
  | .bytesRejectedPerSec => "BytesRejectedPerSec"

def mbean (a : TopicAttribute) (topic : String) : String :=
  "kafka.server:type=BrokerTopicMetrics,name=" ++ a.attributeName ++ ",topic=" ++ topic

theorem mem_gathered (a : TopicAttribute) : a ∈ gathered := by
  cases a <;> decide

theorem mem_all (a : TopicAttribute) : a ∈ all := by
  cases a <;> decide

theorem nodup_gathered : gathered.Nodup := by
  decide

theorem attributeName_inj {a b : TopicAttribute} (same : a.attributeName = b.attributeName) : a = b := by
  revert same
  cases a <;> cases b <;> decide

theorem mem_removedKeys (a : TopicAttribute) : a.attributeName ∈ removedKeys := by
  cases a <;> decide

theorem attributeName_ne_topic (a : TopicAttribute) : "Topic" ≠ a.attributeName := by
  cases a <;> decide

end TopicAttribute

/-- What a broker answers for a topic. -/
def rateOfTopic (jmx : Jmx D) (uri topic : String) (a : TopicAttribute) : MBeanRateInfo D :=
  KafkaMbeanService.getMbeanRateInfo jmx uri (a.mbean topic)

section Sums
variable (jmx : Jmx D)

def addTo (sum : Option (MBeanRateInfo D)) (info : MBeanRateInfo D) : MBeanRateInfo D :=
  match sum with
  | none => info
  | some sum => gatherMBeanRateInfo jmx info sum

def sumOf (infos : List (MBeanRateInfo D)) : Option (MBeanRateInfo D) :=
  infos.foldl (fun sum info => some (addTo jmx sum info)) none

theorem sumOf_append (infos : List (MBeanRateInfo D)) (info : MBeanRateInfo D) :
    sumOf jmx (infos ++ [info]) = some (addTo jmx (sumOf jmx infos) info) := by
  rw [sumOf, List.foldl_append]
  rfl

theorem get_gatherMBeanRateInfo (info sum : MBeanRateInfo D) (a : RateAttribute) :
    (gatherMBeanRateInfo jmx info sum).get a = (sum.get a).add jmx (info.get a) := by
  cases a <;> rfl

theorem get_sumOf (infos : List (MBeanRateInfo D)) (a : RateAttribute) :
    (sumOf jmx infos).map (MBeanRateInfo.get · a) = Value.sum jmx (infos.map (MBeanRateInfo.get · a)) := by
  cases infos with
  | nil => rfl
  | cons first rest =>
    change (rest.foldl (fun sum info => some (addTo jmx sum info)) (some first)).map _ =
      some ((rest.map (MBeanRateInfo.get · a)).foldl (Value.add jmx) (first.get a))
    induction rest generalizing first with
    | nil => rfl
    | cons info rest ih =>
      rw [List.foldl_cons, List.map_cons, List.foldl_cons, ← get_gatherMBeanRateInfo]
      exact ih (gatherMBeanRateInfo jmx info first)

theorem segments_sumOf (uris : List String) (mbean : String) :
    (sumOf jmx (uris.map fun uri => KafkaMbeanService.getMbeanRateInfo jmx uri mbean)).map
        (MetricsTransformService.addMinuteRateMetrics jmx) =
      rateShape.total jmx mbean uris := by
  have each (a : RateAttribute) : Value.sum jmx (uris.map fun uri => rateShape.value jmx uri mbean a) =
      (sumOf jmx (uris.map fun uri => KafkaMbeanService.getMbeanRateInfo jmx uri mbean)).map
        (MBeanRateInfo.get · a) := by
    rw [get_sumOf, List.map_map]
    simp only [Function.comp_def, get_getMbeanRateInfo]
  unfold Shape.total
  simp only [each]
  cases sumOf jmx (uris.map fun uri => KafkaMbeanService.getMbeanRateInfo jmx uri mbean) <;> rfl

/-! ### One broker -/

def putAttribute (uri topic : String) (topicGather : TopicGather D) (a : TopicAttribute) : Option (TopicGather D) :=
  putRate a.attributeName (calcPerSec jmx a.attributeName) (rateOfTopic jmx uri topic a) topicGather

theorem gatherBroker_eq (topic uri broker : String) (topicGather : TopicGather D) :
    gatherBroker jmx topic uri broker topicGather =
      TopicAttribute.gathered.foldlM (putAttribute jmx uri topic)
        (Puts.put topicGather broker (.broker (topicBorkerMetrics jmx uri topic))) := by
  simp only [TopicAttribute.gathered, List.foldlM_cons, List.foldlM_nil, bind_pure]
  rfl

/-- The sums that a map has under the attributes' keys. -/
def Has (topicGather : TopicGather D) (sums : TopicAttribute → Option (MBeanRateInfo D)) : Prop :=
  ∀ a : TopicAttribute, Puts.get topicGather a.attributeName = (sums a).map .rate

variable {jmx} {topicGather : TopicGather D} {sums : TopicAttribute → Option (MBeanRateInfo D)}

theorem putAttribute_of_has (uri topic : String) (has : Has topicGather sums) (a : TopicAttribute) :
    putAttribute jmx uri topic topicGather a =
      some (Puts.put topicGather a.attributeName (.rate (addTo jmx (sums a) (rateOfTopic jmx uri topic a)))) := by
  unfold putAttribute putRate calcPerSec
  rw [has a]
  cases sums a <;> rfl

theorem Has.put (has : Has topicGather sums) (a : TopicAttribute) (sum : MBeanRateInfo D) :
    Has (Puts.put topicGather a.attributeName (.rate sum)) (Function.update sums a (some sum)) := by
  intro b
  by_cases same : b = a
  · subst same
    rw [Puts.get_put_self, Function.update_self]
    rfl
  · rw [Puts.get_put_of_ne fun equal => same (TopicAttribute.attributeName_inj equal), Function.update_of_ne same]
    exact has b

variable (jmx) in
/-- The attributes of one broker are added, each to its own sum, and the map is else unchanged. -/
theorem foldlM_putAttribute (uri topic : String) (has : Has topicGather sums) {attributes : List TopicAttribute}
    (nodup : attributes.Nodup) :
    ∃ gather, attributes.foldlM (putAttribute jmx uri topic) topicGather = some gather ∧
      Has gather (fun a =>
        if a ∈ attributes then some (addTo jmx (sums a) (rateOfTopic jmx uri topic a)) else sums a) ∧
      Puts.get gather "Topic" = Puts.get topicGather "Topic" ∧
      Puts.remove gather removedKeys = Puts.remove topicGather removedKeys := by
  induction attributes generalizing topicGather sums with
  | nil => exact ⟨topicGather, rfl, by simpa using has, rfl, rfl⟩
  | cons a rest ih =>
    obtain ⟨absent, nodupRest⟩ := List.nodup_cons.mp nodup
    let sum := addTo jmx (sums a) (rateOfTopic jmx uri topic a)
    obtain ⟨gather, ran, hasRest, topicRest, removed⟩ := ih (has.put a sum) nodupRest
    refine ⟨gather, ?_, ?_, ?_, ?_⟩
    · rw [List.foldlM_cons, putAttribute_of_has uri topic has a]
      exact ran
    · intro b
      rw [hasRest b]
      by_cases same : b = a
      · subst same
        simp [absent, sum]
      · simp [same]
    · rw [topicRest, Puts.get_put_of_ne a.attributeName_ne_topic]
    · rw [removed, Puts.remove_put_of_mem a.mem_removedKeys]

variable (jmx) (topic : String)

/-- What the map of a topic is when some brokers have been gathered. -/
structure Sums (hosts : List String) (topicGather : TopicGather D) : Prop where
  named : Puts.get topicGather "Topic" = some (.topic topic)
  sums : Has topicGather fun a => sumOf jmx (hosts.map fun host => rateOfTopic jmx (uriOf host) topic a)
  brokers : Puts.remove topicGather removedKeys =
    hosts.map fun host => (host, .broker (topicBorkerMetrics jmx (uriOf host) topic))

variable {jmx topic} {done : List String} {host : String}

theorem gatherBroker_sums (before : Sums jmx topic done topicGather) (new : host ∉ done)
    (apart : host ∉ removedKeys) :
    ∃ gather, gatherBroker jmx topic (uriOf host) host topicGather = some gather ∧
      Sums jmx topic (done ++ [host]) gather := by
  let own : Gathered D := .broker (topicBorkerMetrics jmx (uriOf host) topic)
  have others {key : String} (member : key ∈ removedKeys) :
      Puts.get (Puts.put topicGather host own) key = Puts.get topicGather key :=
    Puts.get_put_of_ne fun same => apart (same ▸ member)
  have has : Has (Puts.put topicGather host own) fun a =>
      sumOf jmx (done.map fun host => rateOfTopic jmx (uriOf host) topic a) := by
    intro a
    rw [others a.mem_removedKeys]
    exact before.sums a
  obtain ⟨gather, ran, sums, named, removed⟩ :=
    foldlM_putAttribute jmx (uriOf host) topic has TopicAttribute.nodup_gathered
  refine ⟨gather, (gatherBroker_eq jmx topic (uriOf host) host topicGather).trans ran, ?_, ?_, ?_⟩
  · rw [named, others (by decide)]
    exact before.named
  · intro a
    rw [sums a]
    simp only [a.mem_gathered, if_true, List.map_append, List.map_singleton, sumOf_append]
  · have absent : host ∉ (done.map fun host =>
        (host, Gathered.broker (topicBorkerMetrics jmx (uriOf host) topic))).map Prod.fst := by
      rw [List.map_map]
      exact fun member => new (by simpa using member)
    rw [removed, Puts.remove_put_of_notMem apart, before.brokers, Puts.put_of_absent absent, List.map_append]
    rfl

end Sums

/-! ### All brokers -/

section Brokers

theorem notMem_brokerOf {uri broker : String} (named : brokerOf uri = some broker) : ':' ∉ broker.toList := by
  have member : broker ∈ Text.split ':' uri := List.mem_of_head? named
  unfold Text.split at member
  split at member
  next =>
    obtain ⟨part, found, rfl⟩ := List.mem_map.mp ((List.rdropWhile_prefix _ (Text.parts ':' uri)).subset member)
    rw [String.toList_ofList]
    exact Text.notMem_splitOn found
  next missing =>
    rw [List.mem_singleton] at member
    rwa [member]

theorem brokerOf_uriOf {host : String} (bare : ':' ∉ host.toList) : brokerOf (uriOf host) = some host := by
  have joined : uriOf host = Text.join ':' [host, "9999"] := by
    apply String.toList_injective
    rw [Text.toList_join, uriOf, String.toList_append]
    rfl
  have free : ∀ text ∈ [host, "9999"], ':' ∉ text.toList := by
    simp only [List.forall_mem_cons, List.not_mem_nil, false_imp_iff, implies_true, and_true]
    exact ⟨bare, by decide⟩
  rw [brokerOf, joined, Text.split_join free (List.getLast?_concat (l := [host])) (by decide)]
  rfl

variable {jmx : Jmx D}

theorem of_mem_buildBrokersMetricsInfo {uris : List String} {gather brokers : List (String × KafkaBrokerInfo D)}
    (built : buildBrokersMetricsInfo jmx uris gather = some brokers) {entry : String × KafkaBrokerInfo D}
    (member : entry ∈ brokers) :
    entry ∈ gather ∨ ∃ uri, brokerOf uri = some entry.1 ∧ entry.2 = brokerMetrics jmx uri := by
  induction uris generalizing gather with
  | nil =>
    obtain rfl := Option.some.inj built
    exact .inl member
  | cons uri rest ih =>
    obtain ⟨broker, named, builtRest⟩ := Option.bind_eq_some_iff.mp built
    rcases ih builtRest with earlier | later
    · rcases List.mem_append.mp earlier with old | own
      · exact .inl (List.mem_of_mem_filter old)
      · rw [List.mem_singleton] at own
        exact .inr ⟨uri, by rw [own, named], by rw [own]⟩
    · exact .inr later

theorem buildBrokersMetricsInfo_uriOf {hosts : List String} (bare : ∀ host ∈ hosts, ':' ∉ host.toList)
    {gather : List (String × KafkaBrokerInfo D)} (distinct : (gather.map Prod.fst ++ hosts).Nodup) :
    buildBrokersMetricsInfo jmx (hosts.map uriOf) gather =
      some (gather ++ hosts.map fun host => (host, brokerMetrics jmx (uriOf host))) := by
  induction hosts generalizing gather with
  | nil => simp [buildBrokersMetricsInfo]
  | cons host rest ih =>
    obtain ⟨bareHost, bareRest⟩ := List.forall_mem_cons.mp bare
    have absent : host ∉ gather.map Prod.fst := fun member =>
      (List.nodup_append.mp distinct).2.2 host member host List.mem_cons_self rfl
    have distinctRest :
        ((gather ++ [(host, brokerMetrics jmx (uriOf host))]).map Prod.fst ++ rest).Nodup := by
      simpa using distinct
    rw [List.map_cons, buildBrokersMetricsInfo, brokerOf_uriOf bareHost, Option.bind_eq_bind, Option.bind_some,
      Puts.put_of_absent absent, ih bareRest distinctRest]
    simp

variable {topic : String}

theorem gatherBrokers_sums {hosts done : List String} (bare : ∀ host ∈ hosts, ':' ∉ host.toList)
    (apart : ∀ host ∈ hosts, host ∉ removedKeys) (distinct : (done ++ hosts).Nodup) {topicGather : TopicGather D}
    (before : Sums jmx topic done topicGather) :
    ∃ gather, gatherBrokers jmx topic (hosts.map uriOf) topicGather = some gather ∧
      Sums jmx topic (done ++ hosts) gather := by
  induction hosts generalizing done topicGather with
  | nil => exact ⟨topicGather, rfl, by rwa [List.append_nil]⟩
  | cons host rest ih =>
    obtain ⟨bareHost, bareRest⟩ := List.forall_mem_cons.mp bare
    obtain ⟨apartHost, apartRest⟩ := List.forall_mem_cons.mp apart
    have new : host ∉ done := fun member =>
      (List.nodup_append.mp distinct).2.2 host member host List.mem_cons_self rfl
    obtain ⟨between, gathered, sums⟩ := gatherBroker_sums before new apartHost
    obtain ⟨gather, gatheredRest, sumsRest⟩ := ih bareRest apartRest (by simpa using distinct) sums
    refine ⟨gather, ?_, by simpa using sumsRest⟩
    rw [List.map_cons, gatherBrokers, brokerOf_uriOf bareHost, Option.bind_eq_bind, Option.bind_some, gathered,
      Option.bind_eq_bind, Option.bind_some, gatheredRest]

/-- The map of a topic has the sums over all brokers, and an entry for each. -/
theorem buildTopicMetricsInfo_sums {hosts : List String} (bare : ∀ host ∈ hosts, ':' ∉ host.toList)
    (apart : ∀ host ∈ hosts, host ∉ removedKeys) (distinct : hosts.Nodup) :
    ∃ gather, buildTopicMetricsInfo jmx (hosts.map uriOf) topic = some gather ∧ Sums jmx topic hosts gather := by
  have start : Sums jmx topic [] (Puts.put [] "Topic" (.topic topic) : TopicGather D) := by
    refine ⟨Puts.get_put_self [] "Topic" _, ?_, ?_⟩
    · intro a
      rw [Puts.get_put_of_ne a.attributeName_ne_topic.symm]
      rfl
    · rw [Puts.remove_put_of_mem (by decide)]
      rfl
  rw [← List.nil_append hosts] at distinct
  exact gatherBrokers_sums bare apart distinct start

end Brokers

end Zms.Collector.Kafka
