import Mathlib
import Zms.Metadata
import Zms.Registry.Holds
import Zms.Transition.Guarded

/-! `ReportRunner`: the scheduled executors of the collector, one set for each
cluster, and the ZooKeeper events that create and remove them.

`initialMetadata` talks to the cluster, so that a refresh may throw there. The
loops over clusters stop at the first exception and keep what they did before.
-/

set_option autoImplicit false

namespace Zms.Collector

open Zms.Registry Zms.Transition

def brokerTypeName : BrokerType → String
  | .KAFKA => "kafka"
  | .ROCKETMQ => "rocketmq"

/-- The services of a cluster, in the order of their submission. -/
inductive Service where
  | MetaService | MetricsCollector | RT | ClusterOffsetService | ClusterOffsetInfluxService
  deriving DecidableEq, Repr

namespace Service

def label : Service → String
  | .MetaService => "MetaService-"
  | .MetricsCollector => "MetricsCollector-"
  | .RT => "RT-"
  | .ClusterOffsetService => "ClusterOffsetService-"
  | .ClusterOffsetInfluxService => "ClusterOffsetInfluxService-"

def submitted : List Service :=
  [.MetaService, .MetricsCollector, .RT, .ClusterOffsetService, .ClusterOffsetInfluxService]

def removed : List Service :=
  [.MetaService, .MetricsCollector, .RT, .ClusterOffsetInfluxService, .ClusterOffsetService]

end Service

def serviceName (service : Service) (clusterName : String) (type : BrokerType) : String :=
  service.label ++ clusterName ++ "-" ++ brokerTypeName type

/-- A scheduled executor, named by the number of its creation. -/
structure Executor where
  id : Nat
  serviceName : String
  service : Service
  cluster : ClusterMetadata
  deriving DecidableEq, Repr

/-- What `readClusters` answers: the metadata by their names. -/
structure Clusters where
  all : List ClusterMetadata
  once : (all.map (·.clusterName)).Nodup

namespace Clusters

def get (clusters : Clusters) (name : String) : Option ClusterMetadata :=
  clusters.all.find? fun cluster => cluster.clusterName = name

def containsKey (clusters : Clusters) (name : String) : Bool := (clusters.get name).isSome

def empty : Clusters := ⟨[], List.nodup_nil⟩

end Clusters

/-- Before `run`, after it, or destroyed because it failed. -/
inductive Phase where
  | created | running | destroyed
  deriving DecidableEq, Repr

/-- `live` are the executors that are not shut down; `seen` is the metadata that
the last event about a cluster read. -/
structure Runner where
  phase : Phase
  serviceMap : Entries String Executor
  live : List Executor
  threadNum : Nat
  currentClusters : Clusters
  subscribed : List String
  seen : String → Option ClusterMetadata

namespace Runner

/-- An executor under a name that is taken replaces the entry. -/
def submit (s : Runner) (service : Service) (cluster : ClusterMetadata) (serviceName : String) : Runner :=
  let executor : Executor := ⟨s.threadNum, serviceName, service, cluster⟩
  { s with
    serviceMap := s.serviceMap.insert serviceName executor
    live := executor :: s.live
    threadNum := s.threadNum + 1 }

def remove (s : Runner) (serviceName : String) : Runner :=
  match s.serviceMap.lookup serviceName with
  | none => s
  | some executor =>
      { s with serviceMap := s.serviceMap.erase serviceName, live := s.live.filter (· ≠ executor) }

/-- `none` is an exception, of `initialMetadata` or for want of a broker type. -/
def refreshCluster (throws : Bool) (cluster : ClusterMetadata) (s : Runner) : Option Runner :=
  match cluster.brokerType with
  | none => none
  | some type =>
      if throws then none
      else some (Service.submitted.foldl
        (fun s service => s.submit service cluster (serviceName service cluster.clusterName type)) s)

def removeCluster (cluster : ClusterMetadata) (s : Runner) : Option Runner :=
  match cluster.brokerType with
  | none => none
  | some type =>
      some (Service.removed.foldl (fun s service => s.remove (serviceName service cluster.clusterName type)) s)

def subscribeDataChanges (name : String) (s : Runner) : Runner := { s with subscribed := name :: s.subscribed }

def unsubscribeDataChanges (name : String) (s : Runner) : Runner :=
  { s with subscribed := s.subscribed.filter (· ≠ name) }

/-- Stop at the first exception: the state then, and whether there was one. -/
def forEach (step : ClusterMetadata → Runner → Option Runner) : List ClusterMetadata → Runner → Runner × Bool
  | [], s => (s, false)
  | cluster :: rest, s =>
      match step cluster s with
      | none => (s, true)
      | some next => forEach step rest next

def added (isIgnoreCluster : String → Bool) (s : Runner) (newClusters : Clusters) : List ClusterMetadata :=
  newClusters.all.filter fun cluster =>
    !s.currentClusters.containsKey cluster.clusterName && !isIgnoreCluster cluster.clusterName

def dropped (s : Runner) (newClusters : Clusters) : List ClusterMetadata :=
  s.currentClusters.all.filter fun cluster => !newClusters.containsKey cluster.clusterName

def add (throws : String → Bool) (cluster : ClusterMetadata) (s : Runner) : Option Runner :=
  (s.refreshCluster (throws cluster.clusterName) cluster).map (subscribeDataChanges cluster.clusterName)

def drop (cluster : ClusterMetadata) (s : Runner) : Option Runner :=
  (s.removeCluster cluster).map (unsubscribeDataChanges cluster.clusterName)

def read (s : Runner) (newClusters : Clusters) : Runner :=
  { s with seen := fun name => (newClusters.get name).or (s.seen name) }

/-- `throws` says for which clusters the refresh throws. -/
def refresh (isIgnoreCluster : String → Bool) (throws : String → Bool) (newClusters : Clusters) (s : Runner) :
    Runner × Bool :=
  let read := s.read newClusters
  let (grown, failed) := forEach (add throws) (s.added isIgnoreCluster newClusters) read
  if failed then (grown, true)
  else
    let (shrunk, failed) := forEach drop (s.dropped newClusters) grown
    if failed then (shrunk, true) else ({ shrunk with currentClusters := newClusters }, false)

/-- A removal that throws skips the refresh; one that succeeds is not undone. -/
def handleDataChange (throws : Bool) (cluster : ClusterMetadata) (s : Runner) : Runner :=
  let read := { s with seen := Function.update s.seen cluster.clusterName (some cluster) }
  let removed := match s.currentClusters.get cluster.clusterName with
    | none => some read
    | some old => read.removeCluster old
  match removed with
  | none => read
  | some removed => (removed.refreshCluster throws cluster).getD removed

def destroy (s : Runner) : Runner := (s.serviceMap.keys).foldl remove { s with phase := .destroyed }

def run (isIgnoreCluster : String → Bool) (throws : String → Bool) (newClusters : Clusters) (s : Runner) : Runner :=
  let (refreshed, failed) := s.refresh isIgnoreCluster throws newClusters
  if failed then refreshed.destroy else { refreshed with phase := .running }

end Runner

/-- The events carry what they read; a read that throws leaves no trace. -/
inductive Event where
  | run (newClusters : Clusters) (throws : String → Bool)
  | childChange (newClusters : Clusters) (throws : String → Bool)
  | dataChange (cluster : ClusterMetadata) (throws : Bool)

namespace Runner

def guard (s : Runner) : Event → Prop
  | .run _ _ => s.phase = .created
  | .childChange _ _ => s.phase = .running
  | .dataChange cluster _ => s.phase = .running ∧ cluster.clusterName ∈ s.subscribed

def effect (isIgnoreCluster : String → Bool) (s : Runner) : Event → Runner
  | .run newClusters throws => s.run isIgnoreCluster throws newClusters
  | .childChange newClusters throws => (s.refresh isIgnoreCluster throws newClusters).1
  | .dataChange cluster throws => s.handleDataChange throws cluster

def created : Runner where
  phase := .created
  serviceMap := ∅
  live := []
  threadNum := 0
  currentClusters := .empty
  subscribed := []
  seen _ := none

end Runner

def machine (isIgnoreCluster : String → Bool) : Guarded Runner Event where
  init s := s = .created
  guard := Runner.guard
  effect := Runner.effect isIgnoreCluster

end Zms.Collector
