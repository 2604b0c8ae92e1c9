import Mathlib
import Zms.Alert.DLQAlertService
import Zms.Collector.ReportRunner

/-! The executions of the scheduled tasks: those of the collector's executors and the
dead-letter check of the alert service.

A `ScheduledExecutorService` drops a task after its first exception; `lost` are the
executors that this happened to. A task reads the maps when it starts, so that what
others write meanwhile comes before or after it.
-/

set_option autoImplicit false

namespace Zms.Collector

open Zms.Transition Zms.Transition.Catching Zms.Alert

/-- What calls out of the process do during one execution. -/
structure Calls where
  mq : MqCalls
  kafka : KafkaCalls

/-- The method that the service calls on the reporter of the broker type. -/
def Service.runnable (service : Service) (calls : Calls) (cluster : ClusterMetadata) : Program Unit :=
  match cluster.brokerType with
  | none => call (.error .other)
  | some .ROCKETMQ =>
      match service with
      | .MetaService => RocketMQReporter.refreshMetaOfCluster calls.mq cluster.clusterName
      | .MetricsCollector => RocketMQReporter.collectMqMetrics calls.mq cluster.clusterName
      | .RT => RocketMQReporter.collectRtTime calls.mq cluster.clusterName
      | .ClusterOffsetService => RocketMQReporter.recordMaxOffset calls.mq cluster.clusterName
      | .ClusterOffsetInfluxService => RocketMQReporter.recordMaxOffsetInflux calls.mq cluster.clusterName
  | some .KAFKA =>
      match service with
      | .MetaService => KafkaReporter.refreshMetaOfCluster calls.kafka cluster.clusterName
      | .MetricsCollector => KafkaReporter.collectMqMetrics calls.kafka cluster.clusterName
      | .RT => KafkaReporter.collectRtTime calls.kafka cluster.clusterName
      | .ClusterOffsetService => KafkaReporter.recordMaxOffset calls.kafka cluster.clusterName
      | .ClusterOffsetInfluxService => KafkaReporter.recordMaxOffsetInflux calls.kafka cluster.clusterName

def initialMetadata (calls : Calls) (cluster : ClusterMetadata) : Program Unit :=
  Service.MetaService.runnable calls cluster

/-- Not started, scheduled, not scheduled for `start` threw, or dropped. -/
inductive DlqPhase where
  | created | scheduled | failed | lost
  deriving DecidableEq, Repr

structure Monitor where
  runner : Runner
  caches : Caches
  lost : List Nat
  dlq : DlqPhase
  dlqTopicOffsets : DLQAlertService.Offsets

/-- The calls of an event are those of the first refresh of each cluster. -/
inductive Monitoring where
  | run (newClusters : Clusters) (calls : String → Calls)
  | childChange (newClusters : Clusters) (calls : String → Calls)
  | dataChange (cluster : ClusterMetadata) (calls : Calls)
  | execute (executor : Executor) (calls : Calls)
  | startDLQ (calls : DlqCalls)
  | checkDLQ (calls : DlqCalls)

namespace Monitor

def created : Monitor := ⟨.created, .empty, [], .created, fun _ => none⟩

/-- Whether the first refresh of the cluster of the name throws. -/
def throws (s : Monitor) (newClusters : Clusters) (calls : String → Calls) (name : String) : Bool :=
  (newClusters.get name).any fun cluster => !(initialMetadata (calls name) cluster s.caches).1.isOk

/-- What the first refreshes leave, up to the first that throws. -/
def refreshed (s : Monitor) (clusters : List ClusterMetadata) (calls : String → Calls) : Caches :=
  (forEach (fun cluster => initialMetadata (calls cluster.clusterName) cluster) clusters s.caches).2

def guard (s : Monitor) : Monitoring → Prop
  | .run _ _ => s.runner.phase = .created
  | .childChange _ _ => s.runner.phase = .running
  | .dataChange cluster _ => s.runner.phase = .running ∧ cluster.clusterName ∈ s.runner.subscribed
  | .execute executor _ => executor ∈ s.runner.live ∧ executor.id ∉ s.lost
  | .startDLQ _ => s.dlq = .created
  | .checkDLQ _ => s.dlq = .scheduled

def effect (isIgnoreCluster : String → Bool) (s : Monitor) : Monitoring → Monitor
  | .run newClusters calls =>
      { s with
        runner := s.runner.run isIgnoreCluster (s.throws newClusters calls) newClusters
        caches := s.refreshed (s.runner.added isIgnoreCluster newClusters) calls }
  | .childChange newClusters calls =>
      { s with
        runner := (s.runner.refresh isIgnoreCluster (s.throws newClusters calls) newClusters).1
        caches := s.refreshed (s.runner.added isIgnoreCluster newClusters) calls }
  | .dataChange cluster calls =>
      -- a removal that throws comes before the refresh
      let removable := (s.runner.currentClusters.get cluster.clusterName).all (·.brokerType.isSome)
      let (answer, caches) := initialMetadata calls cluster s.caches
      { s with
        runner := s.runner.handleDataChange (!answer.isOk) cluster
        caches := if removable then caches else s.caches }
  | .execute executor calls =>
      match executor.service.runnable calls executor.cluster s.caches with
      | (.ok _, caches) => { s with caches := caches }
      | (.error _, caches) => { s with caches := caches, lost := executor.id :: s.lost }
  | .startDLQ calls =>
      match DLQAlertService.start calls s.dlqTopicOffsets with
      | (.ok _, offsets) => { s with dlq := .scheduled, dlqTopicOffsets := offsets }
      | (.error _, offsets) => { s with dlq := .failed, dlqTopicOffsets := offsets }
  | .checkDLQ calls =>
      match DLQAlertService.check calls s.dlqTopicOffsets with
      | (.ok _, offsets) => { s with dlqTopicOffsets := offsets }
      | (.error _, offsets) => { s with dlq := .lost, dlqTopicOffsets := offsets }

instance (s : Monitor) (a : Monitoring) : Decidable (s.guard a) :=
  match a with
  | .run _ _ => inferInstanceAs (Decidable (s.runner.phase = .created))
  | .childChange _ _ => inferInstanceAs (Decidable (s.runner.phase = .running))
  | .dataChange cluster _ =>
      inferInstanceAs (Decidable (s.runner.phase = .running ∧ cluster.clusterName ∈ s.runner.subscribed))
  | .execute executor _ => inferInstanceAs (Decidable (executor ∈ s.runner.live ∧ executor.id ∉ s.lost))
  | .startDLQ _ => inferInstanceAs (Decidable (s.dlq = .created))
  | .checkDLQ _ => inferInstanceAs (Decidable (s.dlq = .scheduled))

end Monitor

def monitoring (isIgnoreCluster : String → Bool) : Guarded Monitor Monitoring where
  init s := s = .created
  guard := Monitor.guard
  effect := Monitor.effect isIgnoreCluster

instance (isIgnoreCluster : String → Bool) (s : Monitor) (a : Monitoring) :
    Decidable ((monitoring isIgnoreCluster).guard s a) := inferInstanceAs (Decidable (s.guard a))

end Zms.Collector
