import Zms.Collector.ConsumerPool
import Zms.Collector.ReportRunner

/-! The tasks that `ReportRunner` schedules and the clients they get from `KafkaProducerManager`,
`MqProducerManager` and `KConsumerPoolManager`.

A task that runs goes on after its executor is shut down. Producers are closed with the
application only.
-/

set_option autoImplicit false

namespace Zms.Collector.Clients

open Zms.Transition

/-- The map of a manager, and what each of its producers was created for. -/
structure Producers where
  producers : String → Option Nat
  created : List ClusterMetadata

def Producers.put (manager : Producers) (cluster : ClusterMetadata) : Producers where
  producers := Function.update manager.producers cluster.clusterName (some manager.created.length)
  created := manager.created ++ [cluster]

/-- A task that has found no producer in the map is creating one. -/
structure Task where
  executor : Executor
  creating : Bool
  producers : List Nat
  deriving DecidableEq

/-- The tasks that run are named by their executors, `KafkaProducerManager` and `MqProducerManager`
by their broker types; `createdFor` says what each consumer was created for. -/
structure State where
  runner : Runner
  tasks : Nat → Option Task
  producers : BrokerType → Producers
  consumers : KConsumerPoolManager.State Nat
  createdFor : Nat → ClusterMetadata

namespace State

def setTask (s : State) (task : Task) : State :=
  { s with tasks := Function.update s.tasks task.executor.id (some task) }

/-- `getKafkaProducer` and `getMqProducer` up to the test for null. -/
def getProducer (s : State) (type : BrokerType) (task : Task) : State :=
  match (s.producers type).producers task.executor.cluster.clusterName with
  | some producer => s.setTask { task with producers := producer :: task.producers }
  | none => s.setTask { task with creating := true }

/-- The rest of them, which another task may have overtaken. -/
def newProducer (s : State) (type : BrokerType) (task : Task) (works : Bool) : State :=
  if works then
    { s.setTask ⟨task.executor, false, (s.producers type).created.length :: task.producers⟩ with
      producers := Function.update s.producers type ((s.producers type).put task.executor.cluster) }
  else s.setTask { task with creating := false }

def getKafkaConsumerClient (s : State) (task : Task) (works : Nat → Bool) : State :=
  let consumers := KConsumerPoolManager.effect s.consumers
    (.acquire task.executor.id task.executor.cluster.clusterName works)
  { s with
    consumers
    createdFor := fun kConsumer =>
      if s.consumers.created ≤ kConsumer ∧ kConsumer < consumers.created then task.executor.cluster
      else s.createdFor kConsumer }

def release (s : State) (task : Task) : State :=
  { s with consumers := KConsumerPoolManager.effect s.consumers (.release task.executor.id) }

end State

/-- The task is the `collectRtTime` of the reporter for the type. -/
def AsksProducer (type : BrokerType) (executor : Executor) : Prop :=
  executor.service = .RT ∧ executor.cluster.brokerType = some type

/-- The tasks of `KafkaReporter` that call `getLogSize`. -/
def AsksConsumer (executor : Executor) : Prop :=
  executor.service ∈ [Service.MetricsCollector, .ClusterOffsetService, .ClusterOffsetInfluxService] ∧
    executor.cluster.brokerType = some .KAFKA

inductive Action where
  | event (event : Event)
  | run (executor : Executor)
  | getProducer (type : BrokerType) (task : Task)
  | newProducer (type : BrokerType) (task : Task) (works : Bool)
  | getKafkaConsumerClient (task : Task) (works : Nat → Bool)
  | release (task : Task)
  | finish (task : Task)

def Runs (s : State) (task : Task) : Prop := s.tasks task.executor.id = some task

/-- An executor has one thread, and a task does one thing at a time. -/
def guard (s : State) : Action → Prop
  | .event event => s.runner.guard event
  | .run executor => executor ∈ s.runner.live ∧ s.tasks executor.id = none
  | .getProducer type task => Runs s task ∧ task.creating = false ∧ AsksProducer type task.executor
  | .newProducer type task _ => Runs s task ∧ task.creating = true ∧ AsksProducer type task.executor
  | .getKafkaConsumerClient task _ =>
      Runs s task ∧ s.consumers.calls task.executor.id = none ∧ AsksConsumer task.executor
  | .release task => Runs s task ∧ (s.consumers.calls task.executor.id).isSome = true
  | .finish task => Runs s task ∧ task.creating = false ∧ s.consumers.calls task.executor.id = none

def effect (isIgnoreCluster : String → Bool) (s : State) : Action → State
  | .event event => { s with runner := s.runner.effect isIgnoreCluster event }
  | .run executor => s.setTask ⟨executor, false, []⟩
  | .getProducer type task => s.getProducer type task
  | .newProducer type task works => s.newProducer type task works
  | .getKafkaConsumerClient task works => s.getKafkaConsumerClient task works
  | .release task => s.release task
  | .finish task => { s with tasks := Function.update s.tasks task.executor.id none }

/-- The collector comes up without clients. -/
def Initial (s : State) : Prop :=
  s.runner = .created ∧ s.tasks = (fun _ => none) ∧ s.producers = (fun _ => ⟨fun _ => none, []⟩) ∧
    s.consumers = KConsumerPoolManager.start

def system (isIgnoreCluster : String → Bool) : Guarded State Action where
  init := Initial
  guard := guard
  effect := effect isIgnoreCluster

end Zms.Collector.Clients
