import Mathlib
import Zms.Collector.Executors

/-! The live executors of the collector against the clusters it knows. -/

set_option autoImplicit false

namespace Zms.Collector

open Zms.Registry Zms.Transition

/-- Exactly one set of executors for each known, non-ignored cluster, built for
the metadata last read, and no other executor. -/
structure Scheduled (isIgnoreCluster : String → Bool) (s : Runner) : Prop where
  each : ∀ cluster ∈ s.currentClusters.all, isIgnoreCluster cluster.clusterName = false →
    ∃ metadata, s.seen cluster.clusterName = some metadata ∧
      ∀ service, ∃! executor, executor ∈ s.live ∧ executor.service = service ∧ executor.cluster = metadata
  other : ∀ executor ∈ s.live, s.currentClusters.containsKey executor.cluster.clusterName = true ∧
    isIgnoreCluster executor.cluster.clusterName = false ∧
    s.seen executor.cluster.clusterName = some executor.cluster

/-- The metadata that `removeCluster` is given still has the broker type of the
executors, and for an ignored cluster at least some broker type. -/
def Removable (isIgnoreCluster : String → Bool) (s : Runner) (cluster : ClusterMetadata) : Prop :=
  cluster.brokerType.isSome = true ∧ (isIgnoreCluster cluster.clusterName = false →
    (s.seen cluster.clusterName).bind (·.brokerType) = cluster.brokerType)

/-- The refresh throws before it has created or removed an executor. -/
def Harmless (isIgnoreCluster : String → Bool) (throws : String → Bool) (s : Runner) (newClusters : Clusters) : Prop :=
  match s.added isIgnoreCluster newClusters with
  | cluster :: _ => succeeds throws cluster = false
  | [] => (s.dropped newClusters).all (·.brokerType.isSome) = false ∧
      ∀ cluster ∈ (s.dropped newClusters).takeWhile (·.brokerType.isSome),
        isIgnoreCluster cluster.clusterName = true

/-- No cluster's metadata changes between its own events, a removal is asked for
the broker type of the executors, and nothing throws in the middle. -/
def Orderly (isIgnoreCluster : String → Bool) (s : Runner) : Event → Prop
  | .run _ _ => True
  | .childChange newClusters throws =>
      (∀ cluster ∈ newClusters.all, s.currentClusters.containsKey cluster.clusterName = true →
        isIgnoreCluster cluster.clusterName = false → s.seen cluster.clusterName = some cluster) ∧
      (((∀ cluster ∈ s.added isIgnoreCluster newClusters, succeeds throws cluster = true) ∧
          ∀ cluster ∈ s.dropped newClusters, Removable isIgnoreCluster s cluster) ∨
        Harmless isIgnoreCluster throws s newClusters)
  | .dataChange cluster throws =>
      cluster.brokerType.isSome = true ∧ throws = false ∧
        ∀ old ∈ s.currentClusters.get cluster.clusterName, Removable isIgnoreCluster s old

/-- The schedule together with what the map and the subscriptions say. -/
structure Tidy (isIgnoreCluster : String → Bool) (s : Runner) : Prop where
  keyed : Keyed s
  full : ∀ cluster ∈ s.currentClusters.all, isIgnoreCluster cluster.clusterName = false →
    ∃ metadata, s.seen cluster.clusterName = some metadata ∧ metadata.clusterName = cluster.clusterName ∧
      ∀ service, ∃ executor ∈ s.live, executor.service = service ∧ executor.cluster = metadata
  owner : ∀ executor ∈ s.live, s.currentClusters.containsKey executor.cluster.clusterName = true ∧
    isIgnoreCluster executor.cluster.clusterName = false ∧
    s.seen executor.cluster.clusterName = some executor.cluster
  subscribed : s.phase ≠ .destroyed → ∀ name ∈ s.subscribed,
    s.currentClusters.containsKey name = true ∧ isIgnoreCluster name = false
  early : s.phase = .created → s.currentClusters = .empty

section Clusters
variable {clusters : Clusters} {cluster : ClusterMetadata} {name : String}

theorem Clusters.get_of_mem (member : cluster ∈ clusters.all) : clusters.get cluster.clusterName = some cluster := by
  have found : (clusters.get cluster.clusterName).isSome := by
    unfold Clusters.get
    rw [List.find?_isSome]
    exact ⟨cluster, member, decide_eq_true rfl⟩
  obtain ⟨other, same⟩ := Option.isSome_iff_exists.mp found
  have listed := List.mem_of_find?_eq_some same
  have named : other.clusterName = cluster.clusterName := by simpa using List.find?_some same
  rw [same, List.inj_on_of_nodup_map clusters.once listed member named]

theorem Clusters.mem_of_get (found : clusters.get name = some cluster) :
    cluster ∈ clusters.all ∧ cluster.clusterName = name :=
  ⟨List.mem_of_find?_eq_some found, by simpa using List.find?_some found⟩

theorem Clusters.containsKey_iff : clusters.containsKey name = true ↔
    ∃ cluster ∈ clusters.all, cluster.clusterName = name := by
  unfold Clusters.containsKey
  rw [Option.isSome_iff_exists]
  constructor
  · rintro ⟨cluster, found⟩
    exact ⟨cluster, Clusters.mem_of_get found⟩
  · rintro ⟨cluster, member, rfl⟩
    exact ⟨cluster, Clusters.get_of_mem member⟩

end Clusters

section Events
variable {isIgnoreCluster : String → Bool} {throws : String → Bool} {s : Runner} {newClusters : Clusters}

theorem Tidy.scheduled (tidy : Tidy isIgnoreCluster s) : Scheduled isIgnoreCluster s where
  each cluster member known := by
    obtain ⟨metadata, seen, -, all⟩ := tidy.full cluster member known
    refine ⟨metadata, seen, fun service => ?_⟩
    obtain ⟨executor, live, own⟩ := all service
    refine ⟨executor, ⟨live, own⟩, ?_⟩
    rintro other ⟨live', service', metadata'⟩
    exact tidy.keyed.unique live' live (service'.trans own.1.symm) (metadata'.trans own.2.symm)
  other := tidy.owner

theorem added_once (s : Runner) (newClusters : Clusters) :
    ((s.added isIgnoreCluster newClusters).map (·.clusterName)).Nodup :=
  newClusters.once.sublist (List.filter_sublist.map _)

theorem mem_added {cluster : ClusterMetadata} : cluster ∈ s.added isIgnoreCluster newClusters ↔
    cluster ∈ newClusters.all ∧ s.currentClusters.containsKey cluster.clusterName = false ∧
      isIgnoreCluster cluster.clusterName = false := by
  unfold Runner.added
  rw [List.mem_filter, Bool.and_eq_true, Bool.not_eq_true', Bool.not_eq_true']

theorem mem_dropped {cluster : ClusterMetadata} : cluster ∈ s.dropped newClusters ↔
    cluster ∈ s.currentClusters.all ∧ newClusters.containsKey cluster.clusterName = false := by
  unfold Runner.dropped
  rw [List.mem_filter, Bool.not_eq_true']

theorem Tidy.grows (tidy : Tidy isIgnoreCluster s) (throws : String → Bool) (newClusters : Clusters) :
    Grows (s.read newClusters) (Runner.forEach (Runner.add throws) (s.added isIgnoreCluster newClusters)
        (s.read newClusters)).1
        (fun cluster _ => cluster ∈ (s.added isIgnoreCluster newClusters).takeWhile (succeeds throws)) ∧
      (Runner.forEach (Runner.add throws) (s.added isIgnoreCluster newClusters) (s.read newClusters)).2 =
        !(s.added isIgnoreCluster newClusters).all (succeeds throws) := by
  apply grows_forEach_add
  · exact ⟨tidy.keyed.mirrors, tidy.keyed.named, tidy.keyed.fresh⟩
  · exact added_once s newClusters
  · intro executor member listed
    obtain ⟨cluster, new, same⟩ := List.mem_map.mp listed
    have unknown := (mem_added.mp new).2.1
    rw [same, (tidy.owner executor member).1] at unknown
    cases unknown

theorem seen_read (retained : ∀ cluster ∈ newClusters.all, s.currentClusters.containsKey cluster.clusterName = true →
      isIgnoreCluster cluster.clusterName = false → s.seen cluster.clusterName = some cluster) {name : String}
    (known : s.currentClusters.containsKey name = true) (considered : isIgnoreCluster name = false) :
    (s.read newClusters).seen name = s.seen name := by
  unfold Runner.read
  dsimp only
  cases found : newClusters.get name with
  | none => rfl
  | some cluster =>
    obtain ⟨member, rfl⟩ := Clusters.mem_of_get found
    exact (retained cluster member known considered).symm

theorem takeWhile_eq_self {α : Type} {test : α → Bool} {items : List α} (all : ∀ item ∈ items, test item = true) :
    items.takeWhile test = items := List.takeWhile_eq_self_iff.mpr all

theorem Tidy.current (tidy : Tidy isIgnoreCluster s) {cluster : ClusterMetadata}
    (removable : Removable isIgnoreCluster s cluster) {executor : Executor} (member : executor ∈ s.live)
    (same : executor.cluster.clusterName = cluster.clusterName) :
    executor.cluster.brokerType = cluster.brokerType := by
  obtain ⟨-, considered, seen⟩ := tidy.owner executor member
  rw [same] at considered seen
  have stored := removable.2 considered
  rw [seen] at stored
  exact stored

/-- A refresh that goes through, from what its loops do. -/
theorem Tidy.refreshed (tidy : Tidy isIgnoreCluster s) (alive : s.phase ≠ .destroyed) {grown shrunk : Runner}
    (retained : ∀ cluster ∈ newClusters.all, s.currentClusters.containsKey cluster.clusterName = true →
      isIgnoreCluster cluster.clusterName = false → s.seen cluster.clusterName = some cluster)
    (grows : Grows (s.read newClusters) grown fun cluster _ => cluster ∈ s.added isIgnoreCluster newClusters)
    (shrinks : Shrinks grown shrunk (fun name => ∃ cluster ∈ s.dropped newClusters, cluster.clusterName = name)
      fun name => ∃ cluster ∈ s.dropped newClusters, cluster.clusterName = name) (phase : Phase)
    (later : phase ≠ .created) :
    Tidy isIgnoreCluster { shrunk with phase, currentClusters := newClusters } := by
  have seen : shrunk.seen = (s.read newClusters).seen := shrinks.seen.trans grows.seen
  -- a known name that is not dropped is still there
  have stays {name : String} (known : s.currentClusters.containsKey name = true)
      (kept : ¬ ∃ cluster ∈ s.dropped newClusters, cluster.clusterName = name) :
      newClusters.containsKey name = true := by
    by_contra lost
    obtain ⟨cluster, member, rfl⟩ := Clusters.containsKey_iff.mp known
    exact kept ⟨cluster, mem_dropped.mpr ⟨member, Bool.eq_false_iff.mpr lost⟩, rfl⟩
  have undropped {name : String} (listed : newClusters.containsKey name = true) :
      ¬ ∃ cluster ∈ s.dropped newClusters, cluster.clusterName = name := by
    rintro ⟨cluster, gone, rfl⟩
    rw [(mem_dropped.mp gone).2] at listed
    cases listed
  have read_new {cluster : ClusterMetadata} (new : cluster ∈ s.added isIgnoreCluster newClusters) :
      (s.read newClusters).seen cluster.clusterName = some cluster := by
    unfold Runner.read
    dsimp only
    rw [Clusters.get_of_mem (mem_added.mp new).1]
    rfl
  constructor
  · exact ⟨shrinks.keyed.mirrors, shrinks.keyed.named, shrinks.keyed.fresh⟩
  · intro cluster member considered
    have listed := Clusters.containsKey_iff.mpr ⟨cluster, member, rfl⟩
    dsimp only
    rw [seen]
    by_cases known : s.currentClusters.containsKey cluster.clusterName = true
    · obtain ⟨old, before, same⟩ := Clusters.containsKey_iff.mp known
      obtain ⟨metadata, read, named, all⟩ := tidy.full old before (same ▸ considered)
      rw [same] at read named
      refine ⟨metadata, (seen_read retained known considered).trans read, named, fun service => ?_⟩
      obtain ⟨executor, live, own, built⟩ := all service
      refine ⟨executor, (shrinks.live executor).mpr ⟨grows.old executor live, ?_⟩, own, built⟩
      rw [built, named]
      exact undropped listed
    · have new : cluster ∈ s.added isIgnoreCluster newClusters :=
        mem_added.mpr ⟨member, Bool.eq_false_iff.mpr known, considered⟩
      refine ⟨cluster, read_new new, rfl, fun service => ?_⟩
      obtain ⟨executor, live, own, built⟩ := grows.all cluster service new
      refine ⟨executor, (shrinks.live executor).mpr ⟨live, ?_⟩, own, built⟩
      rw [built]
      exact undropped listed
  · intro executor member
    obtain ⟨live, kept⟩ := (shrinks.live executor).mp member
    dsimp only
    rw [seen]
    obtain old | new := grows.only executor live
    · obtain ⟨known, considered, read⟩ := tidy.owner executor old
      exact ⟨stays known kept, considered, (seen_read retained known considered).trans read⟩
    · obtain ⟨listed, -, considered⟩ := mem_added.mp new
      exact ⟨Clusters.containsKey_iff.mpr ⟨_, listed, rfl⟩, considered, read_new new⟩
  · intro _ name member
    obtain ⟨subscribed, kept⟩ := shrinks.subscribed name member
    obtain old | ⟨cluster, -, new, rfl⟩ := grows.subscribed name subscribed
    · obtain ⟨known, considered⟩ := tidy.subscribed alive name old
      exact ⟨stays known kept, considered⟩
    · obtain ⟨listed, -, considered⟩ := mem_added.mp new
      exact ⟨Clusters.containsKey_iff.mpr ⟨cluster, listed, rfl⟩, considered⟩
  · intro created
    exact absurd created later

theorem Tidy.read (tidy : Tidy isIgnoreCluster s)
    (retained : ∀ cluster ∈ newClusters.all, s.currentClusters.containsKey cluster.clusterName = true →
      isIgnoreCluster cluster.clusterName = false → s.seen cluster.clusterName = some cluster) :
    Tidy isIgnoreCluster (s.read newClusters) where
  keyed := ⟨tidy.keyed.mirrors, tidy.keyed.named, tidy.keyed.fresh⟩
  full cluster member considered := by
    rw [seen_read retained (Clusters.containsKey_iff.mpr ⟨cluster, member, rfl⟩) considered]
    exact tidy.full cluster member considered
  owner executor member := by
    obtain ⟨known, considered, seen⟩ := tidy.owner executor member
    exact ⟨known, considered, (seen_read retained known considered).trans seen⟩
  subscribed := tidy.subscribed
  early := tidy.early

theorem Tidy.spared (tidy : Tidy isIgnoreCluster s) {s' : Runner} {gone : String → Prop}
    (shrinks : Shrinks s s' gone gone) (ignored : ∀ name, gone name → isIgnoreCluster name = true) :
    Tidy isIgnoreCluster s' := by
  have live (executor : Executor) : executor ∈ s'.live ↔ executor ∈ s.live := by
    rw [shrinks.live]
    apply and_iff_left_of_imp
    intro member left
    have considered := (tidy.owner executor member).2.1
    rw [ignored _ left] at considered
    cases considered
  constructor
  · exact shrinks.keyed
  · rw [shrinks.currentClusters, shrinks.seen]
    simp only [live]
    exact tidy.full
  · rw [shrinks.currentClusters, shrinks.seen]
    simp only [live]
    exact tidy.owner
  · intro alive name member
    rw [shrinks.currentClusters]
    rw [shrinks.phase] at alive
    exact tidy.subscribed alive name (shrinks.subscribed name member).1
  · rw [shrinks.phase, shrinks.currentClusters]
    exact tidy.early

theorem tidy_childChange (tidy : Tidy isIgnoreCluster s) (running : s.phase = .running)
    (orderly : Orderly isIgnoreCluster s (.childChange newClusters throws)) :
    Tidy isIgnoreCluster (s.refresh isIgnoreCluster throws newClusters).1 := by
  obtain ⟨retained, ⟨succeed, removable⟩ | harmless⟩ := orderly
  · obtain ⟨grows, grew⟩ := tidy.grows throws newClusters
    rw [takeWhile_eq_self succeed] at grows
    rw [List.all_eq_true.mpr succeed] at grew
    have typed : ∀ cluster ∈ s.dropped newClusters, cluster.brokerType.isSome = true :=
      fun cluster member => (removable cluster member).1
    obtain ⟨shrinks, shrank⟩ := shrinks_forEach_drop (s.dropped newClusters) grows.keyed (by
      intro cluster member executor live same
      have gone := List.takeWhile_subset _ member
      obtain old | new := grows.only executor live
      · exact tidy.current (removable cluster gone) old same
      · have unknown := (mem_added.mp new).2.1
        rw [same, Clusters.containsKey_iff.mpr ⟨cluster, (mem_dropped.mp gone).1, rfl⟩] at unknown
        cases unknown)
    rw [takeWhile_eq_self typed] at shrinks
    rw [List.all_eq_true.mpr typed] at shrank
    have alive : s.phase ≠ .destroyed := by
      rw [running]
      decide
    have refreshed := tidy.refreshed alive retained grows shrinks .running (by decide)
    rw [← (shrinks.phase.trans grows.phase).trans running] at refreshed
    simp only [Runner.refresh, grew, shrank, Bool.not_true, Bool.false_eq_true, if_false]
    exact refreshed
  · unfold Harmless at harmless
    split at harmless
    · next cluster rest first =>
      have fails : Runner.add throws cluster (s.read newClusters) = none := by
        rw [← Option.not_isSome_iff_eq_none, add_isSome, harmless]
        decide
      simp only [Runner.refresh, first, Runner.forEach, fails, if_true]
      exact tidy.read retained
    · next empty =>
      obtain ⟨untyped, ignored⟩ := harmless
      have read := tidy.read retained
      obtain ⟨shrinks, shrank⟩ := shrinks_forEach_drop (s.dropped newClusters) read.keyed (by
        intro cluster member executor live same
        have considered := (read.owner executor live).2.1
        rw [same, ignored cluster member] at considered
        cases considered)
      rw [untyped] at shrank
      simp only [Runner.refresh, empty, Runner.forEach, Bool.false_eq_true, if_false, shrank, Bool.not_false, if_true]
      apply read.spared shrinks
      rintro name ⟨cluster, member, rfl⟩
      exact ignored cluster member

theorem destroy_live (keyed : Keyed s) : s.destroy.live = [] ∧ Keyed s.destroy ∧
    s.destroy.currentClusters = s.currentClusters ∧ s.destroy.phase = .destroyed := by
  have keyed' : Keyed { s with phase := .destroyed } := ⟨keyed.mirrors, keyed.named, keyed.fresh⟩
  obtain ⟨removed, frame, -, live⟩ := removeAll keyed' s.serviceMap.keys
  refine ⟨List.eq_nil_iff_forall_not_mem.mpr fun executor member => ?_, removed, frame.currentClusters, frame.phase⟩
  obtain ⟨before, unnamed⟩ := (live executor).mp member
  have found := (keyed.mirrors.mem_iff executor).mp before
  exact unnamed (AList.mem_keys.mpr (AList.lookup_isSome.mp (Option.isSome_of_eq_some found)))

theorem tidy_run (tidy : Tidy isIgnoreCluster s) (created : s.phase = .created) :
    Tidy isIgnoreCluster (s.run isIgnoreCluster throws newClusters) := by
  have unknown := tidy.early created
  have undropped : s.dropped newClusters = [] := by
    unfold Runner.dropped
    rw [unknown]
    rfl
  obtain ⟨grows, grew⟩ := tidy.grows throws newClusters
  cases succeed : (s.added isIgnoreCluster newClusters).all (succeeds throws) with
  | false =>
    rw [succeed] at grew
    simp only [Runner.run, Runner.refresh, grew, Bool.not_false, if_true]
    obtain ⟨live, keyed, same, phase⟩ := destroy_live grows.keyed
    have none_known := same.trans (grows.currentClusters.trans unknown)
    constructor
    · exact keyed
    · intro cluster member
      rw [none_known] at member
      cases member
    · intro executor member
      rw [live] at member
      cases member
    · intro alive
      exact absurd phase alive
    · intro _
      exact none_known
  | true =>
    rw [succeed] at grew
    rw [takeWhile_eq_self (List.all_eq_true.mp succeed)] at grows
    have alive : s.phase ≠ .destroyed := by
      rw [created]
      decide
    have retained : ∀ cluster ∈ newClusters.all, s.currentClusters.containsKey cluster.clusterName = true →
        isIgnoreCluster cluster.clusterName = false → s.seen cluster.clusterName = some cluster := by
      intro cluster _ known
      rw [unknown] at known
      cases known
    have shrinks := @Shrinks.none _ grows.keyed (fun name =>
      ∃ cluster ∈ s.dropped newClusters, cluster.clusterName = name) (by
        rintro name ⟨cluster, member, -⟩
        rw [undropped] at member
        cases member)
    have refreshed := tidy.refreshed alive retained grows shrinks .running (by decide)
    simp only [Runner.run, Runner.refresh, grew, undropped, Runner.forEach, Bool.not_true, Bool.false_eq_true,
      if_false]
    exact refreshed

theorem tidy_dataChange {throws : Bool} {cluster : ClusterMetadata} (tidy : Tidy isIgnoreCluster s)
    (enabled : s.guard (.dataChange cluster throws))
    (orderly : Orderly isIgnoreCluster s (.dataChange cluster throws)) :
    Tidy isIgnoreCluster (s.handleDataChange throws cluster) := by
  obtain ⟨running, subscribed⟩ := enabled
  obtain ⟨typed, rfl, removable⟩ := orderly
  have alive : s.phase ≠ .destroyed := by
    rw [running]
    decide
  obtain ⟨known, considered⟩ := tidy.subscribed alive _ subscribed
  obtain ⟨old, stored⟩ := Option.isSome_iff_exists.mp known
  have named := (Clusters.mem_of_get stored).2
  obtain ⟨type, own⟩ := Option.isSome_iff_exists.mp typed
  obtain ⟨oldType, oldOwn⟩ := Option.isSome_iff_exists.mp (removable old stored).1
  obtain ⟨removed, removes⟩ : ∃ removed, Runner.removeCluster old
      { s with seen := Function.update s.seen cluster.clusterName (some cluster) } = some removed := by
    unfold Runner.removeCluster
    rw [oldOwn]
    exact ⟨_, rfl⟩
  obtain ⟨refreshed, refreshes⟩ : ∃ refreshed, removed.refreshCluster false cluster = some refreshed := by
    unfold Runner.refreshCluster
    rw [own]
    exact ⟨_, rfl⟩
  have keyed : Keyed { s with seen := Function.update s.seen cluster.clusterName (some cluster) } :=
    ⟨tidy.keyed.mirrors, tidy.keyed.named, tidy.keyed.fresh⟩
  have current : ∀ executor ∈ s.live, executor.cluster.clusterName = old.clusterName →
      executor.cluster.brokerType = old.brokerType :=
    fun executor live same => tidy.current (removable old stored) live same
  have shrinks := shrinks_removeCluster keyed current removes
  have grows := grows_refreshCluster shrinks.keyed (fun executor live same =>
    ((shrinks.live executor).mp live).2 (same.trans named.symm)) refreshes
  simp only [Runner.handleDataChange, stored, removes, refreshes, Option.getD_some]
  have frame := shrinks.toFrame.trans grows.toFrame
  have seen : refreshed.seen = Function.update s.seen cluster.clusterName (some cluster) := frame.seen
  constructor
  · exact grows.keyed
  · rw [frame.currentClusters, seen]
    intro other member considered
    by_cases same : other.clusterName = cluster.clusterName
    · refine ⟨cluster, ?_, same.symm, fun service => grows.all cluster service rfl⟩
      rw [same, Function.update_self]
    · obtain ⟨metadata, seen, called, all⟩ := tidy.full other member considered
      refine ⟨metadata, ?_, called, fun service => ?_⟩
      · rw [Function.update_of_ne same]
        exact seen
      · obtain ⟨executor, live, own⟩ := all service
        refine ⟨executor, grows.old executor ((shrinks.live executor).mpr ⟨live, ?_⟩), own⟩
        rw [own.2, called, named]
        exact same
  · rw [frame.currentClusters, seen]
    intro executor member
    obtain kept | new := grows.only executor member
    · obtain ⟨live, other⟩ := (shrinks.live executor).mp kept
      rw [named] at other
      rw [Function.update_of_ne other]
      exact tidy.owner executor live
    · rw [new, Function.update_self]
      exact ⟨known, considered, rfl⟩
  · rw [frame.phase, frame.currentClusters]
    intro alive name member
    obtain before | ⟨other, _, rfl, rfl⟩ := grows.subscribed name member
    · exact tidy.subscribed alive name (shrinks.subscribed name before).1
    · exact ⟨known, considered⟩
  · rw [frame.phase, frame.currentClusters]
    exact tidy.early

theorem tidy_effect (tidy : Tidy isIgnoreCluster s) {event : Event} (enabled : s.guard event)
    (orderly : Orderly isIgnoreCluster s event) : Tidy isIgnoreCluster (s.effect isIgnoreCluster event) := by
  cases event with
  | run newClusters throws => exact tidy_run tidy enabled
  | childChange newClusters throws => exact tidy_childChange tidy enabled orderly
  | dataChange cluster throws => exact tidy_dataChange tidy enabled orderly

theorem tidy_created : Tidy isIgnoreCluster .created where
  keyed := by
    constructor
    · apply Mirrors.empty.rows_iff.mpr
      intro executor
      exact ⟨False.elim, fun member => by cases member⟩
    · intro executor member
      cases member
    · intro executor member
      cases member
  full cluster member := by cases member
  owner executor member := by cases member
  subscribed _ name member := by cases member
  early _ := rfl

end Events

/-- In every run whose events are orderly, each state between two events has one
set of executors for each known cluster and no other. -/
theorem scheduled_of_orderly (isIgnoreCluster : String → Bool) (s : Runner)
    (reached : ((machine isIgnoreCluster).restrict (Orderly isIgnoreCluster)).Reachable s) :
    Scheduled isIgnoreCluster s := by
  have tidy : Tidy isIgnoreCluster s := by
    induction reached with
    | start initial =>
      obtain rfl := initial
      exact tidy_created
    | step _ enabled ih => exact tidy_effect ih enabled.1 enabled.2
  exact tidy.scheduled

section Example

instance (s : Runner) (event : Event) : Decidable (s.guard event) := by
  apply Event.casesOn (motive := fun event => Decidable (s.guard event)) event <;> intros <;>
    dsimp only [Runner.guard] <;> infer_instance

instance (isIgnoreCluster : String → Bool) (s : Runner) (event : Event) :
    Decidable ((machine isIgnoreCluster).guard s event) := inferInstanceAs (Decidable (s.guard event))

instance (isIgnoreCluster : String → Bool) (s : Runner) (cluster : ClusterMetadata) :
    Decidable (Removable isIgnoreCluster s cluster) := by
  unfold Removable
  infer_instance

instance (isIgnoreCluster throws : String → Bool) (s : Runner) (newClusters : Clusters) :
    Decidable (Harmless isIgnoreCluster throws s newClusters) := by
  unfold Harmless
  split <;> infer_instance

instance (isIgnoreCluster : String → Bool) (s : Runner) (event : Event) :
    Decidable (Orderly isIgnoreCluster s event) := by
  apply Event.casesOn (motive := fun event => Decidable (Orderly isIgnoreCluster s event)) event <;> intros <;>
    dsimp only [Orderly] <;> infer_instance

def mq1 (address : String) (type : BrokerType) : ClusterMetadata := ⟨"mq1", some address, some type, none⟩

def one (cluster : ClusterMetadata) : Clusters := ⟨[cluster], List.nodup_singleton _⟩

/-- The cluster of the start, at two addresses and of both types. -/
def started : Event := .run (one (mq1 "a" .ROCKETMQ)) fun _ => false

theorem scheduled_of_orderly_run : ∃ s : Runner, Scheduled (fun _ => false) s ∧ s.live.length = 5 ∧
    s.seen "mq1" = some (mq1 "b" .ROCKETMQ) := by
  have run : ∃ s, ((machine fun _ => false).restrict (Orderly fun _ => false)).Reachable s ∧
      (s.live.length = 5 ∧ s.seen "mq1" = some (mq1 "b" .ROCKETMQ)) :=
    Guarded.exists_reachable [started, .dataChange (mq1 "b" .ROCKETMQ) false] rfl (by decide)
  obtain ⟨s, reached, built⟩ := run
  exact ⟨s, scheduled_of_orderly _ s reached, built⟩

/-- The broker type changes, and then the address: the second removal asks for
the type of the start and finds nothing. -/
theorem not_scheduled : ¬ ∀ isIgnoreCluster s, (machine isIgnoreCluster).Reachable s → Scheduled isIgnoreCluster s := by
  intro always
  have run : ∃ s, (machine fun _ => false).Reachable s ∧
      ∃ executor ∈ s.live, s.seen executor.cluster.clusterName ≠ some executor.cluster :=
    Guarded.exists_reachable
      [started, .dataChange (mq1 "a" .KAFKA) false, .dataChange (mq1 "b" .KAFKA) false] rfl (by decide)
  obtain ⟨s, reached, executor, live, outdated⟩ := run
  exact outdated ((always _ s reached).other executor live).2.2

end Example

end Zms.Collector
