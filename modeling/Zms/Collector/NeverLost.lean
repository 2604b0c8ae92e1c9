import Mathlib
import Zms.Collector.Monitoring
import Zms.Collector.Schedules

/-! When no failure ends the periodic monitoring: what the calls of one execution may
do so that the task ends without an exception. -/

set_option autoImplicit false

namespace Zms.Collector

open Zms.Registry Zms.Transition Zms.Transition.Catching Zms.Alert

/-- The call throws no error, though perhaps an exception. -/
def Quiet {α : Type} (answer : Answer α) : Prop := ∀ thrown, answer = .error thrown → thrown.isException = true

structure MqCalls.Quiet (calls : MqCalls) : Prop where
  getMqAdmin : ∀ place, Collector.Quiet (calls.getMqAdmin place)
  examineBrokerClusterInfo : Collector.Quiet calls.examineBrokerClusterInfo
  fetchTopicsByCLuster : Collector.Quiet calls.fetchTopicsByCLuster
  runtimeStats : ∀ brokerAddr, Collector.Quiet (calls.runtimeStats brokerAddr)
  viewBrokerStatsData : ∀ brokerAddr key, Collector.Quiet (calls.viewBrokerStatsData brokerAddr key)
  queryTopicConsumeByWho : ∀ topic, Collector.Quiet (calls.queryTopicConsumeByWho topic)
  fetchConsumeStatsInBroker : ∀ brokerAddr, Collector.Quiet (calls.fetchConsumeStatsInBroker brokerAddr)
  examineConsumerConnectionInfo : ∀ consumer, Collector.Quiet (calls.examineConsumerConnectionInfo consumer)
  send : ∀ brokerName, Collector.Quiet (calls.send brokerName)

structure KafkaCalls.Quiet (calls : KafkaCalls) : Prop where
  getKafkaAdmin : ∀ place, Collector.Quiet (calls.getKafkaAdmin place)
  controller : Collector.Quiet calls.controller
  nodes : Collector.Quiet calls.nodes
  listTopics : Collector.Quiet calls.listTopics
  listConsumerGroups : Collector.Quiet calls.listConsumerGroups
  buildKafkaMetricsInfo : ∀ uris topics, Collector.Quiet (calls.buildKafkaMetricsInfo uris topics)
  send : ∀ node, Collector.Quiet (calls.send node)

/-- No call of the execution throws an error. -/
structure Calls.Quiet (calls : Calls) : Prop where
  mq : calls.mq.Quiet
  kafka : calls.kafka.Quiet

/-- What `putClusterInfo` calls for answers, or throws one of the exceptions that it names. -/
def InfoAnswered (calls : MqCalls) : Prop :=
  match calls.getMqAdmin .putClusterInfo, calls.examineBrokerClusterInfo with
  | .error thrown, _ => thrown.isRemoting = true
  | .ok none, _ => False
  | .ok (some _), .error thrown => thrown.isRemoting = true
  | .ok (some _), .ok clusterInfo => clusterInfo.isSome = true

/-- The brokers of the cluster have been loaded, all with their addresses. -/
def InfoLoaded (caches : Caches) (clusterName : String) : Prop :=
  ∃ clusterInfo brokerAddrTable, caches.clusterInfos clusterName = some clusterInfo ∧
    clusterInfo.brokerAddrTable = some brokerAddrTable ∧
    ∀ entry ∈ brokerAddrTable, (entry.2.bind (·.brokerAddrs)).isSome = true

def Refreshed (calls : Calls) (cluster : ClusterMetadata) : Prop :=
  match cluster.brokerType with
  | none => False
  | some .ROCKETMQ => InfoAnswered calls.mq
  | some .KAFKA => True

/-- What the service needs to end without an exception. -/
def Service.Answered (service : Service) (calls : Calls) (caches : Caches) (cluster : ClusterMetadata) : Prop :=
  match service, cluster.brokerType with
  | .MetaService, _ => Refreshed calls cluster
  | .RT, some .ROCKETMQ => InfoLoaded caches cluster.clusterName
  | _, brokerType => brokerType ≠ none

section Programs
variable {caches : Caches} {clusterName : String}

theorem returns_guarded (body : Program Unit) : Returns (catching Throwable.isThrowable body (pure ())) caches :=
  returns_catching (raises_true body) (fun _ _ => rfl) (fun _ => returns_pure ()) caches

theorem returns_catching_isException {body : Program Unit}
    (raises : Raises (fun thrown => thrown.isException = true) body) :
    Returns (catching Throwable.isException body (pure ())) caches :=
  returns_catching raises (fun _ named => named) (fun _ => returns_pure ()) caches

theorem returns_dereference_bind {α β : Type} (reference : Option α) (next : α → Program β) :
    Returns (dereference reference >>= next) caches ↔ ∃ a, reference = some a ∧ Returns (next a) caches :=
  returns_nonNull_bind Throwable.other reference next

theorem raises_dereference {α : Type} (reference : Option α) :
    Raises (fun thrown => thrown.isException = true) (dereference reference) := raises_nonNull Throwable.other (by rfl) reference

theorem returns_ask {admin : Answer (Option Unit)} {α : Type} {answer : Answer (Option α)}
    (admins : Quiet admin) (answers : Quiet answer) (keep : α → Caches → Caches) :
    Returns (catching Throwable.isException
      (do
        let admin ← call admin
        let _ ← dereference admin
        let answered ← call answer
        let value ← dereference answered
        modify (keep value))
      (pure ())) caches := by
  apply returns_catching_isException
  apply (raises_call admins).bind
  intro admin
  apply (raises_dereference admin).bind
  intro _
  apply (raises_call answers).bind
  intro answered
  apply (raises_dereference answered).bind
  intro value
  exact raises_modify _

theorem returns_putClusterInfo_iff (calls : MqCalls) :
    Returns (MqMetaManager.putClusterInfo calls clusterName) caches ↔ InfoAnswered calls := by
  unfold MqMetaManager.putClusterInfo InfoAnswered
  rw [returns_catching_iff]
  cases admin : calls.getMqAdmin .putClusterInfo with
  | error thrown => exact ⟨fun named => named thrown rfl, fun named _ same => by cases same; exact named⟩
  | ok reference =>
    cases reference with
    | none =>
      simp only [iff_false]
      intro named
      cases named .other rfl
    | some _ =>
      cases answer : calls.examineBrokerClusterInfo with
      | error thrown => exact ⟨fun named => named thrown rfl, fun named _ same => by cases same; exact named⟩
      | ok info =>
        cases info with
        | none =>
          simp only [Option.isSome_none, Bool.false_eq_true, iff_false]
          intro named
          cases named .other rfl
        | some info =>
          simp only [Option.isSome_some, iff_true]
          intro thrown absurdity
          cases absurdity

theorem returns_calcClusterNums_iff (clusterInfo : Option ClusterInfo) :
    Returns (RocketMQReporter.calcClusterNums clusterInfo) caches ↔
      ∃ info, clusterInfo = some info ∧ ∃ table, info.brokerAddrTable = some table ∧
        ∀ entry ∈ table, (entry.2.bind (·.brokerAddrs)).isSome = true := by
  have each : ∀ (entry : String × Option BrokerData) caches, Returns
      (do
        let brokerData ← dereference entry.2
        let _ ← dereference brokerData.brokerAddrs
        pure ()) caches ↔ (entry.2.bind (·.brokerAddrs)).isSome = true := by
    intro entry caches
    simp only [returns_dereference_bind, returns_pure, and_true]
    cases entry.2 with
    | none => simp
    | some data => simp [Option.isSome_iff_exists]
  unfold RocketMQReporter.calcClusterNums
  simp only [returns_dereference_bind]
  simp only [returns_forEach_iff each]

theorem returns_sendToBroker {calls : MqCalls} (quiet : calls.Quiet) {entry : String × Option BrokerData}
    (whole : (entry.2.bind (·.brokerAddrs)).isSome = true) : Returns (RocketMQReporter.sendToBroker calls entry) caches := by
  unfold RocketMQReporter.sendToBroker
  cases present : entry.2 with
  | none =>
    rw [present] at whole
    cases whole
  | some data => exact returns_catching_isException (raises_call (quiet.send data.brokerName))

theorem returns_collectRtTime_iff {calls : MqCalls} (quiet : calls.Quiet) :
    Returns (RocketMQReporter.collectRtTime calls clusterName) caches ↔ InfoLoaded caches clusterName := by
  have loaded : InfoLoaded caches clusterName ↔
      Returns (RocketMQReporter.calcClusterNums (caches.clusterInfos clusterName)) caches := by
    rw [returns_calcClusterNums_iff, InfoLoaded]
    simp only [exists_and_left]
  rw [loaded]
  change Returns (RocketMQReporter.calcClusterNums (caches.clusterInfos clusterName) >>= _) caches ↔ _
  apply returns_bind_iff_left
  intro counted _ t
  obtain ⟨info, found, table, addresses, whole⟩ := (returns_calcClusterNums_iff _).mp counted
  rw [found, returns_dereference_bind]
  refine ⟨info, rfl, ?_⟩
  rw [addresses, returns_dereference_bind]
  refine ⟨table, rfl, ?_⟩
  rw [returns_bind_iff]
  obtain ⟨answer, sent⟩ := returns_forEach (fun entry member _ => returns_sendToBroker quiet (whole entry member)) t
  exact ⟨answer, sent, returns_modify _⟩

theorem raises_putAll (measurements : List Measurement) :
    Raises (fun thrown => thrown.isException = true) (forEach put measurements) :=
  Raises.forEach (fun _ => raises_modify _) measurements

theorem raises_collectTopic {calls : MqCalls} (quiet : calls.Quiet) (brokerAddr : Option String) (topic : String) :
    Raises (fun thrown => thrown.isException = true) (RocketMQReporter.collectTopic calls brokerAddr topic) := by
  refine Raises.catching ?_ (raises_pure ())
  apply (raises_call (quiet.viewBrokerStatsData brokerAddr topic)).bind
  intro _
  apply (raises_call (quiet.queryTopicConsumeByWho topic)).bind
  intro groupList
  apply Raises.forEach
  intro group
  exact raises_call (quiet.viewBrokerStatsData brokerAddr _)

theorem raises_collectConsumer {calls : MqCalls} (quiet : calls.Quiet) (consumer : String) :
    Raises (fun thrown => thrown.isException = true) (RocketMQReporter.collectConsumer calls consumer) := by
  apply (raises_call (quiet.getMqAdmin (.consumer consumer))).bind
  intro mqAdminExt
  refine Raises.catching ?_ (raises_pure ())
  apply (raises_dereference mqAdminExt).bind
  intro _
  exact raises_call (quiet.examineConsumerConnectionInfo consumer)

theorem raises_collectBroker {calls : MqCalls} (quiet : calls.Quiet) (mqAdmin : Option Unit) (topicList : List String)
    (entry : String × Option BrokerData) :
    Raises (fun thrown => thrown.isException = true) (RocketMQReporter.collectBroker calls mqAdmin topicList entry) := by
  apply (raises_dereference entry.2).bind
  intro brokerData
  apply (raises_dereference brokerData.brokerAddrs).bind
  intro brokerAddrs
  apply (raises_dereference mqAdmin).bind
  intro _
  apply (raises_call (quiet.runtimeStats _)).bind
  intro _
  apply (Raises.forEach (raises_collectTopic quiet _) topicList).bind
  intro _
  refine Raises.catching ?_ (raises_pure ())
  apply (raises_call (quiet.fetchConsumeStatsInBroker _)).bind
  intro consumers
  exact Raises.forEach (raises_collectConsumer quiet) consumers

theorem returns_collectMqMetrics {calls : MqCalls} (quiet : calls.Quiet) :
    Returns (RocketMQReporter.collectMqMetrics calls clusterName) caches := by
  apply returns_catching_isException
  apply (raises_call (quiet.getMqAdmin .collectMqMetrics)).bind
  intro mqAdmin
  refine Raises.bind (Raises.bind raises_get fun _ => raises_pure _) fun known => ?_
  refine Raises.bind (Raises.bind raises_get fun _ => raises_pure _) fun topicList => ?_
  apply (raises_dereference known).bind
  intro clusterInfo
  apply (raises_dereference clusterInfo.brokerAddrTable).bind
  intro brokerAddrTable
  apply (Raises.forEach (raises_collectBroker quiet mqAdmin topicList) brokerAddrTable).bind
  intro _
  exact raises_putAll _

theorem returns_collectKafkaMetrics {calls : KafkaCalls} (quiet : calls.Quiet) :
    Returns (KafkaReporter.collectKafkaMetrics calls clusterName) caches := by
  apply returns_catching_isException
  refine Raises.bind raises_get fun caches => ?_
  apply (raises_dereference (caches.clusterNodes clusterName)).bind
  intro nodes
  apply (raises_call (quiet.buildKafkaMetricsInfo _ _)).bind
  intro built
  apply (raises_dereference (caches.clusterControllers clusterName)).bind
  intro _
  apply (raises_dereference built).bind
  intro _
  exact raises_putAll _

theorem returns_andThen {first second : Program Unit} (returns : ∀ caches, Returns first caches)
    (next : ∀ caches, Returns second caches) (caches : Caches) : Returns (first >>= fun _ => second) caches := by
  obtain ⟨answer, returned⟩ := returns caches
  exact returns_bind_iff.mpr ⟨answer, returned, next _⟩

theorem returns_refreshMetaOfCluster {calls : KafkaCalls} (quiet : calls.Quiet) :
    Returns (KafkaReporter.refreshMetaOfCluster calls clusterName) caches := by
  apply returns_andThen fun _ => returns_ask (quiet.getKafkaAdmin _) quiet.controller _
  apply returns_andThen fun _ => returns_ask (quiet.getKafkaAdmin _) quiet.nodes _
  apply returns_andThen fun _ => returns_ask (quiet.getKafkaAdmin _) quiet.listTopics _
  exact fun _ => returns_ask (quiet.getKafkaAdmin _) quiet.listConsumerGroups _

theorem returns_refreshMetaOfCluster_iff {calls : MqCalls} (quiet : calls.Quiet) :
    Returns (RocketMQReporter.refreshMetaOfCluster calls clusterName) caches ↔ InfoAnswered calls := by
  rw [← @returns_putClusterInfo_iff caches clusterName]
  apply returns_bind_iff_left
  intro _ _ t
  exact returns_ask (quiet.getMqAdmin _) quiet.fetchTopicsByCLuster _

end Programs

/-- An execution ends without an exception exactly when it gets what its service needs. -/
theorem returns_runnable_iff {calls : Calls} (quiet : calls.Quiet) (service : Service) (cluster : ClusterMetadata)
    (caches : Caches) : Returns (service.runnable calls cluster) caches ↔ service.Answered calls caches cluster := by
  unfold Service.runnable Service.Answered Refreshed
  cases cluster.brokerType with
  | none => cases service <;> simp
  | some brokerType =>
    cases brokerType with
    | KAFKA =>
      cases service with
      | MetaService => exact iff_of_true (returns_refreshMetaOfCluster quiet.kafka) trivial
      | MetricsCollector =>
        refine iff_of_true ?_ (by simp)
        exact returns_andThen (fun _ => returns_collectKafkaMetrics quiet.kafka) (fun _ => returns_guarded _) caches
      | RT => exact iff_of_true (returns_guarded _) (by simp)
      | ClusterOffsetService => exact iff_of_true (returns_guarded _) (by simp)
      | ClusterOffsetInfluxService => exact iff_of_true (returns_guarded _) (by simp)
    | ROCKETMQ =>
      cases service with
      | MetaService => exact returns_refreshMetaOfCluster_iff quiet.mq
      | MetricsCollector => exact iff_of_true (returns_collectMqMetrics quiet.mq) (by simp)
      | RT => exact returns_collectRtTime_iff quiet.mq
      | ClusterOffsetService => exact iff_of_true (returns_guarded _) (by simp)
      | ClusterOffsetInfluxService => exact iff_of_true (returns_guarded _) (by simp)

/-- The entries are under the names of their executors, which tell service, cluster and type. -/
structure Named (s : Runner) : Prop where
  entries : ∀ name executor, s.serviceMap.lookup name = some executor → executor.serviceName = name
  live : ∀ executor ∈ s.live, ∃ type, executor.cluster.brokerType = some type ∧
    executor.serviceName = serviceName executor.service executor.cluster.clusterName type

/-- Only executors of the clusters in `gone` go. -/
structure Keeps (s s' : Runner) (gone : List String) : Prop where
  named : Named s'
  phase : s'.phase = s.phase
  live : ∀ executor ∈ s.live, executor.cluster.clusterName ∉ gone → executor ∈ s'.live

section Keeping
variable {s s' s'' : Runner} {cluster : ClusterMetadata} {gone : List String}

theorem Keeps.refl (named : Named s) : Keeps s s gone := ⟨named, rfl, fun _ member _ => member⟩

theorem Keeps.trans (first : Keeps s s' gone) (second : Keeps s' s'' gone) : Keeps s s'' gone where
  named := second.named
  phase := second.phase.trans first.phase
  live executor member other := second.live executor (first.live executor member other) other

theorem Keeps.mono {more : List String} (keeps : Keeps s s' gone) (also : ∀ name ∈ gone, name ∈ more) :
    Keeps s s' more where
  named := keeps.named
  phase := keeps.phase
  live executor member other := keeps.live executor member fun listed => other (also _ listed)

theorem keeps_submit (named : Named s) {type : BrokerType} (own : cluster.brokerType = some type) (service : Service) :
    Keeps s (s.submit service cluster (serviceName service cluster.clusterName type)) [] where
  named := by
    constructor
    · intro name executor found
      by_cases same : name = serviceName service cluster.clusterName type
      · rw [same, Runner.submit, AList.lookup_insert] at found
        cases found
        exact same.symm
      · rw [Runner.submit, AList.lookup_insert_ne same] at found
        exact named.entries name executor found
    · intro executor member
      obtain rfl | old := List.mem_cons.mp member
      · exact ⟨type, own, rfl⟩
      · exact named.live executor old
  phase := rfl
  live _ member _ := List.mem_cons_of_mem _ member

theorem keeps_submitAll (named : Named s) {type : BrokerType} (own : cluster.brokerType = some type)
    (services : List Service) :
    Keeps s (services.foldl
        (fun s service => s.submit service cluster (serviceName service cluster.clusterName type)) s) [] ∧
      ∀ service ∈ services, ∃ executor ∈ (services.foldl
        (fun s service => s.submit service cluster (serviceName service cluster.clusterName type)) s).live,
        executor.service = service ∧ executor.cluster = cluster := by
  induction services generalizing s with
  | nil =>
    refine ⟨Keeps.refl named, fun service absurdity => ?_⟩
    cases absurdity
  | cons first rest ih =>
    have submitted := keeps_submit named own first
    obtain ⟨keeps, scheduled⟩ := ih submitted.named
    refine ⟨submitted.trans keeps, fun service member => ?_⟩
    obtain rfl | later := List.mem_cons.mp member
    · exact ⟨_, keeps.live _ List.mem_cons_self List.not_mem_nil, rfl, rfl⟩
    · exact scheduled service later

theorem keeps_add {throws : String → Bool} (named : Named s) (completes : Runner.add throws cluster s = some s') :
    Keeps s s' [] ∧ ∀ service, ∃ executor ∈ s'.live, executor.service = service ∧ executor.cluster = cluster := by
  obtain ⟨refreshed, refreshes, rfl⟩ := Option.map_eq_some_iff.mp completes
  unfold Runner.refreshCluster at refreshes
  split at refreshes
  · cases refreshes
  · next type own =>
    split at refreshes
    · cases refreshes
    · cases refreshes
      obtain ⟨keeps, scheduled⟩ := keeps_submitAll named own Service.submitted
      exact ⟨⟨⟨keeps.named.entries, keeps.named.live⟩, keeps.phase, keeps.live⟩,
        fun service => scheduled service (Service.mem_submitted service)⟩

theorem keeps_forEach_add (throws : String → Bool) (named : Named s) (clusters : List ClusterMetadata) :
    Keeps s (Runner.forEach (Runner.add throws) clusters s).1 [] ∧
      ((Runner.forEach (Runner.add throws) clusters s).2 = !clusters.all (succeeds throws)) ∧
      ∀ cluster ∈ clusters.takeWhile (succeeds throws), ∀ service,
        ∃ executor ∈ (Runner.forEach (Runner.add throws) clusters s).1.live,
          executor.service = service ∧ executor.cluster = cluster := by
  induction clusters generalizing s with
  | nil => exact ⟨Keeps.refl named, rfl, fun cluster absurdity => by cases absurdity⟩
  | cons first rest ih =>
    have decided := add_isSome throws first s
    unfold Runner.forEach
    cases added : Runner.add throws first s with
    | none =>
      rw [added, Option.isSome_none] at decided
      rw [List.takeWhile_cons, List.all_cons, ← decided]
      exact ⟨Keeps.refl named, rfl, fun cluster absurdity => by cases absurdity⟩
    | some next =>
      rw [added, Option.isSome_some] at decided
      obtain ⟨keeps, scheduled⟩ := keeps_add named added
      obtain ⟨later, failed, others⟩ := ih keeps.named
      rw [List.takeWhile_cons, List.all_cons, ← decided]
      refine ⟨keeps.trans later, failed, fun cluster member service => ?_⟩
      obtain rfl | further := List.mem_cons.mp member
      · obtain ⟨executor, live, own⟩ := scheduled service
        exact ⟨executor, later.live executor live List.not_mem_nil, own⟩
      · exact others cluster further service

theorem named_remove (named : Named s) (name : String) : Named (s.remove name) ∧ (s.remove name).phase = s.phase ∧
    ∀ executor ∈ s.live, executor.serviceName ≠ name → executor ∈ (s.remove name).live := by
  unfold Runner.remove
  cases found : s.serviceMap.lookup name with
  | none => exact ⟨named, rfl, fun _ member _ => member⟩
  | some removed =>
    refine ⟨⟨fun other executor there => ?_, fun executor member => ?_⟩, rfl, fun executor member other => ?_⟩
    · exact named.entries other executor (Entries.lookup_of_erase there)
    · exact named.live executor (List.mem_filter.mp member).1
    · refine List.mem_filter.mpr ⟨member, ?_⟩
      rw [decide_eq_true_eq]
      rintro rfl
      exact other (named.entries name executor found)

theorem keeps_removeAll (named : Named s) {type : BrokerType} (services : List Service) :
    Keeps s (services.foldl (fun s service => s.remove (serviceName service cluster.clusterName type)) s)
      [cluster.clusterName] := by
  induction services generalizing s with
  | nil => exact Keeps.refl named
  | cons first rest ih =>
    obtain ⟨removed, phase, live⟩ := named_remove named (serviceName first cluster.clusterName type)
    refine Keeps.trans ⟨removed, phase, fun executor member other => live executor member fun same => ?_⟩ (ih removed)
    obtain ⟨own, -, called⟩ := named.live executor member
    obtain ⟨-, names, -⟩ := serviceName_inj (called.symm.trans same)
    exact other (List.mem_singleton.mpr names)

theorem keeps_removeCluster (named : Named s) (completes : s.removeCluster cluster = some s') :
    Keeps s s' [cluster.clusterName] := by
  unfold Runner.removeCluster at completes
  split at completes
  · cases completes
  · next type own =>
    cases completes
    exact keeps_removeAll named Service.removed

theorem keeps_forEach_drop (named : Named s) (clusters : List ClusterMetadata) :
    Keeps s (Runner.forEach Runner.drop clusters s).1 (clusters.map (·.clusterName)) := by
  induction clusters generalizing s with
  | nil => exact Keeps.refl named
  | cons first rest ih =>
    unfold Runner.forEach
    cases dropped : Runner.drop first s with
    | none => exact Keeps.refl named
    | some next =>
      obtain ⟨removed, removes, rfl⟩ := Option.map_eq_some_iff.mp dropped
      have keeps := keeps_removeCluster named removes
      have unsubscribed : Keeps s (removed.unsubscribeDataChanges first.clusterName) [first.clusterName] :=
        ⟨⟨keeps.named.entries, keeps.named.live⟩, keeps.phase, keeps.live⟩
      apply Keeps.trans (unsubscribed.mono _) ((ih unsubscribed.named).mono _)
      · intro name listed
        exact List.mem_cons.mpr (.inl (List.mem_singleton.mp listed))
      · intro name listed
        exact List.mem_cons_of_mem _ listed

end Keeping

section Events
variable (isIgnoreCluster : String → Bool) (throws : String → Bool) (newClusters : Clusters) {s : Runner}

theorem named_read (named : Named s) : Named (s.read newClusters) := ⟨named.entries, named.live⟩

/-- A refresh schedules the new clusters before the first whose own refresh throws. -/
theorem keeps_refresh (named : Named s) :
    Named (s.refresh isIgnoreCluster throws newClusters).1 ∧
      (s.refresh isIgnoreCluster throws newClusters).1.phase = s.phase ∧
      ∀ cluster ∈ (s.added isIgnoreCluster newClusters).takeWhile (succeeds throws), ∀ service,
        ∃ executor ∈ (s.refresh isIgnoreCluster throws newClusters).1.live,
          executor.service = service ∧ executor.cluster = cluster := by
  obtain ⟨grown, -, scheduled⟩ := keeps_forEach_add throws (named_read newClusters named)
    (s.added isIgnoreCluster newClusters)
  have shrunk := keeps_forEach_drop grown.named (s.dropped newClusters)
  have stays : ∀ cluster ∈ (s.added isIgnoreCluster newClusters).takeWhile (succeeds throws),
      cluster.clusterName ∉ (s.dropped newClusters).map (·.clusterName) := by
    intro cluster member listed
    obtain ⟨old, removed, same⟩ := List.mem_map.mp listed
    have isNew := (mem_added.mp (List.takeWhile_subset _ member)).1
    have isGone := (mem_dropped.mp removed).2
    rw [same, Clusters.containsKey_iff.mpr ⟨cluster, isNew, rfl⟩] at isGone
    cases isGone
  have later : ∀ cluster ∈ (s.added isIgnoreCluster newClusters).takeWhile (succeeds throws), ∀ service,
      ∃ executor ∈ (Runner.forEach Runner.drop (s.dropped newClusters) (Runner.forEach (Runner.add throws)
        (s.added isIgnoreCluster newClusters) (s.read newClusters)).1).1.live,
        executor.service = service ∧ executor.cluster = cluster := by
    intro cluster member service
    obtain ⟨executor, live, same, own⟩ := scheduled cluster member service
    exact ⟨executor, shrunk.live executor live (own ▸ stays cluster member), same, own⟩
  unfold Runner.refresh
  simp only
  split
  · exact ⟨grown.named, grown.phase, scheduled⟩
  · split
    · exact ⟨shrunk.named, shrunk.phase.trans grown.phase, later⟩
    · exact ⟨⟨shrunk.named.entries, shrunk.named.live⟩, shrunk.phase.trans grown.phase, later⟩

theorem named_destroy (named : Named s) : Named s.destroy ∧ s.destroy.phase = .destroyed := by
  have each : ∀ (names : List String) (s : Runner), Named s →
      Named (names.foldl Runner.remove s) ∧ (names.foldl Runner.remove s).phase = s.phase := by
    intro names
    induction names with
    | nil => exact fun _ named => ⟨named, rfl⟩
    | cons first rest ih =>
      intro s named
      obtain ⟨removed, phase, -⟩ := named_remove named first
      obtain ⟨others, same⟩ := ih _ removed
      exact ⟨others, same.trans phase⟩
  exact each s.serviceMap.keys { s with phase := .destroyed } ⟨named.entries, named.live⟩

theorem named_run (named : Named s) : Named (s.run isIgnoreCluster throws newClusters) ∧
    (s.run isIgnoreCluster throws newClusters).phase ≠ .created := by
  have refreshed := (keeps_refresh isIgnoreCluster throws newClusters named).1
  unfold Runner.run
  simp only
  split
  · obtain ⟨destroyed, phase⟩ := named_destroy refreshed
    refine ⟨destroyed, ?_⟩
    rw [phase]
    decide
  · exact ⟨⟨refreshed.entries, refreshed.live⟩, by simp⟩

theorem refresh_fails (named : Named s) (fresh : s.currentClusters = .empty) :
    (s.refresh isIgnoreCluster throws newClusters).2 =
      !(s.added isIgnoreCluster newClusters).all (succeeds throws) := by
  have none : s.dropped newClusters = [] := by
    unfold Runner.dropped
    rw [fresh]
    rfl
  have failed := (keeps_forEach_add throws (named_read newClusters named)
    (s.added isIgnoreCluster newClusters)).2.1
  unfold Runner.refresh
  simp only [none, failed, Runner.forEach]
  cases (s.added isIgnoreCluster newClusters).all (succeeds throws) <;> rfl

theorem named_handleDataChange (named : Named s) (throws : Bool) (cluster : ClusterMetadata) :
    Named (s.handleDataChange throws cluster) ∧ (s.handleDataChange throws cluster).phase = s.phase := by
  have read : Named { s with seen := Function.update s.seen cluster.clusterName (some cluster) } :=
    ⟨named.entries, named.live⟩
  have refreshes : ∀ removed : Runner, Named removed → removed.phase = s.phase →
      Named ((removed.refreshCluster throws cluster).getD removed) ∧
        ((removed.refreshCluster throws cluster).getD removed).phase = s.phase := by
    intro removed before phase
    unfold Runner.refreshCluster
    split
    · exact ⟨before, phase⟩
    · next type own =>
      split
      · exact ⟨before, phase⟩
      · obtain ⟨keeps, -⟩ := keeps_submitAll before own Service.submitted
        exact ⟨keeps.named, keeps.phase.trans phase⟩
  unfold Runner.handleDataChange
  simp only
  cases s.currentClusters.get cluster.clusterName with
  | none => exact refreshes _ read rfl
  | some old =>
    simp only
    cases removes : Runner.removeCluster old
        { s with seen := Function.update s.seen cluster.clusterName (some cluster) } with
    | none => exact ⟨read, rfl⟩
    | some removed =>
      have keeps := keeps_removeCluster read removes
      exact refreshes removed keeps.named keeps.phase

end Events

/-- No task that is scheduled has been dropped. -/
structure Monitors (s : Monitor) : Prop where
  executors : ∀ executor ∈ s.runner.live, executor.id ∉ s.lost
  dlq : s.dlq ≠ .lost

/-- The execution ends without an exception, and the refresh schedules every new
cluster whose own first refresh goes through. -/
def Continues (isIgnoreCluster : String → Bool) (s : Monitor) (a : Monitoring) : Prop :=
  match a with
  | .run newClusters calls | .childChange newClusters calls =>
      ∀ cluster ∈ s.runner.added isIgnoreCluster newClusters,
        Returns (initialMetadata (calls cluster.clusterName) cluster) s.caches →
        ∀ service, ∃ executor ∈ (s.effect isIgnoreCluster a).runner.live,
          executor.service = service ∧ executor.cluster = cluster
  | .execute executor calls => Returns (executor.service.runnable calls executor.cluster) s.caches
  | .checkDLQ calls => Returns (DLQAlertService.check calls) s.dlqTopicOffsets
  | .dataChange _ _ | .startDLQ _ => True

/-- The calls throw no errors and give the execution what it needs; no first refresh goes
through after one that throws and, at the start, none beside one. -/
def Spared (isIgnoreCluster : String → Bool) (s : Monitor) (a : Monitoring) : Prop :=
  match a with
  | .run newClusters calls =>
      (∀ name, (calls name).Quiet) ∧
        ∀ first ∈ s.runner.added isIgnoreCluster newClusters, ∀ other ∈ s.runner.added isIgnoreCluster newClusters,
          Refreshed (calls other.clusterName) other → Refreshed (calls first.clusterName) first
  | .childChange newClusters calls =>
      (∀ name, (calls name).Quiet) ∧
        (s.runner.added isIgnoreCluster newClusters).Pairwise fun first later =>
          Refreshed (calls later.clusterName) later → Refreshed (calls first.clusterName) first
  | .execute executor calls => calls.Quiet ∧ executor.service.Answered calls s.caches executor.cluster
  | .checkDLQ calls => DLQAlertService.Answered calls s.dlqTopicOffsets
  | .dataChange _ _ | .startDLQ _ => True

section Monitored
variable {isIgnoreCluster : String → Bool} {s : Monitor}

theorem mem_takeWhile_of_pairwise {α : Type} {p : α → Bool} {items : List α}
    (sorted : items.Pairwise fun first later => p later = true → p first = true) {a : α} (member : a ∈ items)
    (holds : p a = true) : a ∈ items.takeWhile p := by
  induction items with
  | nil => cases member
  | cons first rest ih =>
    obtain ⟨before, sorted⟩ := List.pairwise_cons.mp sorted
    obtain rfl | later := List.mem_cons.mp member
    · rw [List.takeWhile_cons_of_pos holds]
      exact List.mem_cons_self
    · rw [List.takeWhile_cons_of_pos (before a later holds)]
      exact List.mem_cons_of_mem _ (ih sorted later)

theorem isOk_iff {E S : Type} (program : Catching E S Unit) (s : S) :
    (program s).1.isOk = true ↔ Returns program s := by
  unfold Returns
  cases (program s).1 with
  | ok a => exact iff_of_true rfl ⟨a, rfl⟩
  | error e => simp [Except.isOk, Except.toBool]

theorem returns_initialMetadata_iff {calls : Calls} (quiet : calls.Quiet) (cluster : ClusterMetadata)
    (caches : Caches) : Returns (initialMetadata calls cluster) caches ↔ Refreshed calls cluster :=
  returns_runnable_iff quiet .MetaService cluster caches

theorem succeeds_iff {newClusters : Clusters} {calls : String → Calls} (quiet : ∀ name, (calls name).Quiet)
    {cluster : ClusterMetadata} (member : cluster ∈ s.runner.added isIgnoreCluster newClusters) :
    succeeds (s.throws newClusters calls) cluster = true ↔ Refreshed (calls cluster.clusterName) cluster := by
  have listed := (mem_added.mp member).1
  unfold succeeds Monitor.throws
  rw [Clusters.get_of_mem listed, Option.any_some, Bool.not_not, Bool.and_eq_true, isOk_iff,
    returns_initialMetadata_iff (quiet _), and_iff_right_iff_imp]
  intro refreshed
  unfold Refreshed at refreshed
  cases type : cluster.brokerType with
  | none =>
    rw [type] at refreshed
    cases refreshed
  | some _ => rfl

/-- Nothing has been dropped so far, and the runner's names are in order. -/
structure Steadfast (s : Monitor) : Prop where
  named : Named s.runner
  fresh : s.runner.phase = .created → s.runner.currentClusters = .empty
  lost : s.lost = []
  dlq : s.dlq ≠ .lost

theorem Steadfast.monitors (steadfast : Steadfast s) : Monitors s where
  executors executor _ := by
    rw [steadfast.lost]
    exact List.not_mem_nil
  dlq := steadfast.dlq

theorem steadfast_created : Steadfast .created where
  named := by
    constructor
    · intro name executor absurdity
      cases absurdity
    · intro executor absurdity
      cases absurdity
  fresh _ := rfl
  lost := rfl
  dlq := by decide

theorem Steadfast.effect (steadfast : Steadfast s) {a : Monitoring} (enabled : s.guard a)
    (spared : Spared isIgnoreCluster s a) : Steadfast (s.effect isIgnoreCluster a) := by
  cases a with
  | run newClusters calls =>
    obtain ⟨named, phase⟩ := named_run isIgnoreCluster (s.throws newClusters calls) newClusters steadfast.named
    exact ⟨named, fun created => absurd created phase, steadfast.lost, steadfast.dlq⟩
  | childChange newClusters calls =>
    obtain ⟨named, phase, -⟩ :=
      keeps_refresh isIgnoreCluster (s.throws newClusters calls) newClusters steadfast.named
    refine ⟨named, fun created => ?_, steadfast.lost, steadfast.dlq⟩
    have running : s.runner.phase = .running := enabled
    rw [← phase] at running
    cases running.symm.trans created
  | dataChange cluster calls =>
    obtain ⟨named, phase⟩ := named_handleDataChange steadfast.named
      (!(initialMetadata calls cluster s.caches).1.isOk) cluster
    refine ⟨named, fun created => ?_, steadfast.lost, steadfast.dlq⟩
    have running : s.runner.phase = .running := enabled.1
    rw [← phase] at running
    cases running.symm.trans created
  | execute executor calls =>
    obtain ⟨answer, returned⟩ := (returns_runnable_iff spared.1 executor.service executor.cluster s.caches).mpr spared.2
    cases result : executor.service.runnable calls executor.cluster s.caches with
    | mk outcome caches =>
      rw [result] at returned
      obtain rfl : outcome = .ok answer := returned
      simp only [Monitor.effect, result]
      exact ⟨steadfast.named, steadfast.fresh, steadfast.lost, steadfast.dlq⟩
  | startDLQ calls =>
    cases result : DLQAlertService.start calls s.dlqTopicOffsets with
    | mk outcome offsets =>
      cases outcome with
      | ok _ =>
        simp only [Monitor.effect, result]
        exact ⟨steadfast.named, steadfast.fresh, steadfast.lost, by simp⟩
      | error _ =>
        simp only [Monitor.effect, result]
        exact ⟨steadfast.named, steadfast.fresh, steadfast.lost, by simp⟩
  | checkDLQ calls =>
    obtain ⟨answer, returned⟩ := (DLQAlertService.returns_check_iff calls s.dlqTopicOffsets).mpr spared
    cases result : DLQAlertService.check calls s.dlqTopicOffsets with
    | mk outcome offsets =>
      rw [result] at returned
      obtain rfl : outcome = .ok answer := returned
      simp only [Monitor.effect, result]
      exact ⟨steadfast.named, steadfast.fresh, steadfast.lost, steadfast.dlq⟩

theorem Steadfast.continues (steadfast : Steadfast s) {a : Monitoring} (enabled : s.guard a)
    (spared : Spared isIgnoreCluster s a) : Continues isIgnoreCluster s a := by
  cases a with
  | run newClusters calls =>
    intro cluster member goes service
    obtain ⟨quiet, together⟩ := spared
    have refreshed := (returns_initialMetadata_iff (quiet _) cluster s.caches).mp goes
    have all : ∀ other ∈ s.runner.added isIgnoreCluster newClusters,
        succeeds (s.throws newClusters calls) other = true := fun other also =>
      (succeeds_iff quiet also).mpr (together other also cluster member refreshed)
    have fine := refresh_fails isIgnoreCluster (s.throws newClusters calls) newClusters steadfast.named
      (steadfast.fresh enabled)
    rw [List.all_eq_true.mpr all] at fine
    have scheduled := (keeps_refresh isIgnoreCluster (s.throws newClusters calls) newClusters steadfast.named).2.2
      cluster (by rwa [List.takeWhile_eq_self_iff.mpr all]) service
    simpa only [Monitor.effect, Runner.run, fine, Bool.not_true, Bool.false_eq_true, if_false] using scheduled
  | childChange newClusters calls =>
    intro cluster member goes
    obtain ⟨quiet, sorted⟩ := spared
    have refreshed := (returns_initialMetadata_iff (quiet _) cluster s.caches).mp goes
    apply (keeps_refresh isIgnoreCluster (s.throws newClusters calls) newClusters steadfast.named).2.2
    apply mem_takeWhile_of_pairwise _ member ((succeeds_iff quiet member).mpr refreshed)
    refine List.Pairwise.imp_of_mem (fun first later imp => ?_) sorted
    rw [succeeds_iff quiet first, succeeds_iff quiet later]
    exact imp
  | execute executor calls => exact (returns_runnable_iff spared.1 executor.service executor.cluster s.caches).mpr spared.2
  | checkDLQ calls => exact (DLQAlertService.returns_check_iff calls s.dlqTopicOffsets).mpr spared
  | dataChange cluster calls => trivial
  | startDLQ calls => trivial

end Monitored

/-- As long as the calls spare the executions, every scheduled task stays scheduled. -/
theorem monitors_of_spared (isIgnoreCluster : String → Bool) {s : Monitor}
    (reached : ((monitoring isIgnoreCluster).restrict (Spared isIgnoreCluster)).Reachable s) :
    Monitors s ∧ ∀ a, (monitoring isIgnoreCluster).guard s a → Spared isIgnoreCluster s a →
      Continues isIgnoreCluster s a := by
  have steadfast : Steadfast s := by
    refine reached.invariant Steadfast ?_ ?_
    · rintro s rfl
      exact steadfast_created
    · intro s a steadfast enabled
      exact steadfast.effect enabled.1 enabled.2
  exact ⟨steadfast.monitors, fun a enabled spared => steadfast.continues enabled spared⟩

section Example

def down : InfluxCalls where
  getLastTopicMaxOffset _ := .error .other
  getLastClusterMaxOffset := .error .other
  writeData _ := .error .other

/-- Every call fails but those for the brokers of a RocketMQ cluster. -/
def answering (clusterInfo : Answer (Option ClusterInfo)) : Calls where
  mq :=
    { getMqAdmin := fun _ => .ok (some ())
      examineBrokerClusterInfo := clusterInfo
      fetchTopicsByCLuster := .error .mqClient
      runtimeStats := fun _ => .error .other
      viewBrokerStatsData := fun _ _ => .error .mqClient
      queryTopicConsumeByWho := fun _ => .error .mqClient
      fetchConsumeStatsInBroker := fun _ => .error .other
      examineConsumerConnectionInfo := fun _ => .error .mqBroker
      examineTopicStats := fun _ => .error .other
      send := fun _ => .error .mqClient
      influx := down }
  kafka :=
    { getKafkaAdmin := fun _ => .ok none
      controller := .error .other
      nodes := .error .other
      listTopics := .error .other
      listConsumerGroups := .error .other
      buildKafkaMetricsInfo := fun _ _ => .error .other
      getKafkaConsumerTopics := fun _ => .error .other
      findTopicPartitions := fun _ => .error .other
      getLogSize := fun _ _ => .error .other
      getKafkaOffset := fun _ => .error .other
      send := fun _ => .error .other
      influx := down }

theorem quiet_answering {clusterInfo : Answer (Option ClusterInfo)} (quiet : Quiet clusterInfo) :
    (answering clusterInfo).Quiet where
  mq := by constructor <;> simp_all [answering, Quiet, Throwable.isException]
  kafka := by constructor <;> simp [answering, Quiet, Throwable.isException]

def oneBroker : ClusterInfo := ⟨some [("broker-a", some ⟨"broker-a", some [(0, "10.0.0.1:10911")]⟩)]⟩

def rtExecutor : Executor := ⟨2, "RT-mq1-rocketmq", .RT, mq1 "a" .ROCKETMQ⟩

theorem spared_run (clusterInfo : Answer (Option ClusterInfo)) (quiet : Quiet clusterInfo) :
    Spared (fun _ => false) .created (.run (one (mq1 "a" .ROCKETMQ)) fun _ => answering clusterInfo) := by
  refine ⟨fun _ => quiet_answering quiet, ?_⟩
  intro first member other also refreshed
  have same : ∀ cluster ∈ Runner.added (fun _ => false) Runner.created (one (mq1 "a" .ROCKETMQ)),
      cluster = mq1 "a" .ROCKETMQ := by decide
  rw [same other also] at refreshed
  rwa [same first member]

/-- The cluster is loaded at the start, so that the RT task goes through although nothing can be sent. -/
theorem monitors_of_spared_rt : ∃ s : Monitor, (∃ executor ∈ s.runner.live, executor.service = .RT) ∧ Monitors s ∧
    Continues (fun _ => false) s (.execute rtExecutor (answering (.error .remotingTimeout))) := by
  have quiet : Quiet (.ok (some oneBroker)) := by simp [Quiet]
  have first : ((monitoring fun _ => false).restrict (Spared fun _ => false)).guard .created
      (.run (one (mq1 "a" .ROCKETMQ)) fun _ => answering (.ok (some oneBroker))) := ⟨rfl, spared_run _ quiet⟩
  obtain ⟨monitors, continues⟩ := monitors_of_spared _ (.step (.start rfl) first)
  refine ⟨_, by decide, monitors, continues _ ⟨by decide, by decide⟩ ⟨?_, ?_⟩⟩
  · exact quiet_answering (by simp [Quiet, Throwable.isException])
  · exact ⟨oneBroker, _, rfl, rfl, by simp⟩

/-- The first refresh times out, which is caught; the RT task then finds no brokers and is dropped. -/
theorem not_monitors : ¬ ∀ isIgnoreCluster s, (monitoring isIgnoreCluster).Reachable s → Monitors s := by
  intro always
  have run : ∃ s, (monitoring fun _ => false).Reachable s ∧ ∃ executor ∈ s.runner.live, executor.id ∈ s.lost :=
    Guarded.exists_reachable
      [.run (one (mq1 "a" .ROCKETMQ)) fun _ => answering (.error .remotingTimeout),
        .execute rtExecutor (answering (.error .remotingTimeout))] rfl (by decide)
  obtain ⟨s, reached, executor, live, dropped⟩ := run
  exact (always _ s reached).executors executor live dropped

end Example

end Zms.Collector
