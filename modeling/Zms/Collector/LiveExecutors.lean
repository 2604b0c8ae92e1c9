import Zms.Collector.Schedules

/-! What an event does to the live executors, whether or not the map of services still owns them all. -/

set_option autoImplicit false

namespace Zms.Collector

open Zms.Registry

/-- An entry is named for the cluster of its executor. -/
def Mapped (s : Runner) : Prop :=
  ∀ name executor, s.serviceMap.lookup name = some executor →
    ∃ type, executor.cluster.brokerType = some type ∧
      name = serviceName executor.service executor.cluster.clusterName type

/-- The removal of the cluster finds executors of the other. -/
def Removes (cluster other : ClusterMetadata) : Prop :=
  cluster.clusterName = other.clusterName ∧ cluster.brokerType = other.brokerType

structure Changes (s s' : Runner) (new gone : ClusterMetadata → Prop) : Prop where
  only : ∀ executor ∈ s'.live, executor ∈ s.live ∨ new executor.cluster
  stays : ∀ executor ∈ s.live, executor ∈ s'.live ∨ gone executor.cluster
  mapped : Mapped s'
  currentClusters : s'.currentClusters = s.currentClusters
  phase : s'.phase = s.phase ∨ s'.phase = .destroyed

section Changes
variable {s s' s'' : Runner} {new new' gone gone' : ClusterMetadata → Prop}

theorem Changes.refl (mapped : Mapped s) : Changes s s new gone where
  only _ member := .inl member
  stays _ member := .inl member
  mapped := mapped
  currentClusters := rfl
  phase := .inl rfl

theorem Changes.trans (first : Changes s s' new gone) (second : Changes s' s'' new gone) :
    Changes s s'' new gone where
  only executor member := by
    rcases second.only executor member with before | isNew
    · exact first.only executor before
    · exact .inr isNew
  stays executor member := by
    rcases first.stays executor member with after | isGone
    · exact second.stays executor after
    · exact .inr isGone
  mapped := second.mapped
  currentClusters := second.currentClusters.trans first.currentClusters
  phase := by
    rcases second.phase with same | destroyed
    · rw [same]
      exact first.phase
    · exact .inr destroyed

theorem Changes.mono (changes : Changes s s' new gone) (more : ∀ cluster, new cluster → new' cluster)
    (moreGone : ∀ cluster, gone cluster → gone' cluster) : Changes s s' new' gone' where
  only executor member := (changes.only executor member).imp_right (more executor.cluster)
  stays executor member := (changes.stays executor member).imp_right (moreGone executor.cluster)
  mapped := changes.mapped
  currentClusters := changes.currentClusters
  phase := changes.phase

theorem changes_foldl {α : Type} {step : Runner → α → Runner} {items : List α} (mapped : Mapped s)
    (each : ∀ s, Mapped s → ∀ item ∈ items, Changes s (step s item) new gone) :
    Changes s (items.foldl step s) new gone := by
  induction items generalizing s with
  | nil => exact Changes.refl mapped
  | cons item rest ih =>
      have first := each s mapped item List.mem_cons_self
      refine first.trans (ih first.mapped fun s mapped other member => ?_)
      exact each s mapped other (List.mem_cons_of_mem _ member)

theorem changes_submit {cluster : ClusterMetadata} {type : BrokerType} (mapped : Mapped s)
    (own : cluster.brokerType = some type) (service : Service) :
    Changes s (s.submit service cluster (serviceName service cluster.clusterName type)) (· = cluster) gone where
  only executor member := by
    rcases List.mem_cons.mp member with rfl | before
    · exact .inr rfl
    · exact .inl before
  stays _ member := .inl (List.mem_cons_of_mem _ member)
  mapped := by
    intro name executor found
    unfold Runner.submit at found
    dsimp only at found
    by_cases same : name = serviceName service cluster.clusterName type
    · rw [same, AList.lookup_insert] at found
      obtain rfl := Option.some.inj found
      exact ⟨type, own, same⟩
    · rw [AList.lookup_insert_ne same] at found
      exact mapped name executor found
  currentClusters := rfl
  phase := .inl rfl

theorem changes_remove (mapped : Mapped s) (name : String) :
    Changes s (s.remove name) new fun cluster =>
      ∃ removed, s.serviceMap.lookup name = some removed ∧ removed.cluster = cluster := by
  unfold Runner.remove
  split
  · exact Changes.refl mapped
  · next removed found =>
      constructor
      · exact fun executor member => .inl (List.mem_filter.mp member).1
      · intro executor member
        by_cases same : executor = removed
        · exact .inr ⟨removed, found, congrArg Executor.cluster same.symm⟩
        · exact .inl (List.mem_filter.mpr ⟨member, decide_eq_true same⟩)
      · exact fun other executor kept => mapped other executor (Entries.lookup_of_erase kept)
      · rfl
      · exact .inl rfl

theorem removes_of_lookup (mapped : Mapped s) {service : Service} {cluster other : ClusterMetadata} {type : BrokerType}
    (own : cluster.brokerType = some type)
    (found : ∃ removed, s.serviceMap.lookup (serviceName service cluster.clusterName type) = some removed ∧
      removed.cluster = other) : Removes cluster other := by
  obtain ⟨removed, mapsTo, rfl⟩ := found
  obtain ⟨type', own', called⟩ := mapped _ removed mapsTo
  obtain ⟨-, names, types⟩ := serviceName_inj called
  exact ⟨names, own.trans ((congrArg some types).trans own'.symm)⟩

theorem changes_refreshCluster {throws : Bool} {cluster : ClusterMetadata} (mapped : Mapped s)
    (completes : s.refreshCluster throws cluster = some s') : Changes s s' (· = cluster) gone := by
  unfold Runner.refreshCluster at completes
  split at completes
  · cases completes
  · next type own =>
    split at completes
    · cases completes
    · obtain rfl := Option.some.inj completes
      exact changes_foldl mapped fun s mapped service _ => changes_submit mapped own service

theorem changes_removeCluster {cluster : ClusterMetadata} (mapped : Mapped s)
    (completes : s.removeCluster cluster = some s') : Changes s s' new (Removes cluster) := by
  unfold Runner.removeCluster at completes
  split at completes
  · cases completes
  · next type own =>
    obtain rfl := Option.some.inj completes
    refine changes_foldl mapped fun s mapped service _ => ?_
    exact (changes_remove mapped _).mono (fun _ isNew => isNew) fun other => removes_of_lookup mapped own

theorem changes_forEach {step : ClusterMetadata → Runner → Option Runner} {succeeds : ClusterMetadata → Bool}
    {newOf goneOf : ClusterMetadata → ClusterMetadata → Prop} (clusters : List ClusterMetadata) (mapped : Mapped s)
    (decided : ∀ cluster s, (step cluster s).isSome = succeeds cluster)
    (each : ∀ cluster s s', Mapped s → step cluster s = some s' → Changes s s' (newOf cluster) (goneOf cluster)) :
    Changes s (Runner.forEach step clusters s).1
        (fun other => ∃ cluster ∈ clusters.takeWhile succeeds, newOf cluster other)
        (fun other => ∃ cluster ∈ clusters.takeWhile succeeds, goneOf cluster other) ∧
      (Runner.forEach step clusters s).2 = !clusters.all succeeds := by
  induction clusters generalizing s with
  | nil => exact ⟨Changes.refl mapped, rfl⟩
  | cons first rest ih =>
      unfold Runner.forEach
      split
      · next fails =>
          have unsuccessful : succeeds first = false := by
            rw [← decided first s, fails]
            rfl
          rw [List.all_cons, unsuccessful]
          exact ⟨Changes.refl mapped, rfl⟩
      · next s' completes =>
          have successful : succeeds first = true := by
            rw [← decided first s, completes]
            rfl
          have changes := each first s s' mapped completes
          obtain ⟨later, failed⟩ := ih changes.mapped
          rw [List.takeWhile_cons, List.all_cons, successful]
          refine ⟨(changes.mono ?_ ?_).trans (later.mono ?_ ?_), failed⟩
          · exact fun other isNew => ⟨first, List.mem_cons_self, isNew⟩
          · exact fun other isGone => ⟨first, List.mem_cons_self, isGone⟩
          · exact fun other ⟨cluster, member, isNew⟩ => ⟨cluster, List.mem_cons_of_mem _ member, isNew⟩
          · exact fun other ⟨cluster, member, isGone⟩ => ⟨cluster, List.mem_cons_of_mem _ member, isGone⟩

end Changes

/-! ### Events -/

section Events
variable {isIgnoreCluster : String → Bool} {throws : String → Bool} {s : Runner} {newClusters : Clusters}

def Completes (isIgnoreCluster throws : String → Bool) (s : Runner) (newClusters : Clusters) : Prop :=
  (∀ cluster ∈ s.added isIgnoreCluster newClusters, succeeds throws cluster = true) ∧
    ∀ cluster ∈ s.dropped newClusters, cluster.brokerType.isSome = true

/-- The clusters that a refresh adds before the first that throws. -/
def Adds (isIgnoreCluster throws : String → Bool) (s : Runner) (newClusters : Clusters) (cluster : ClusterMetadata) :
    Prop :=
  cluster ∈ (s.added isIgnoreCluster newClusters).takeWhile (succeeds throws)

/-- A removal of a known cluster finds the executors of this one. -/
def MayRemove (s : Runner) (cluster : ClusterMetadata) : Prop :=
  ∃ old ∈ s.currentClusters.all, Removes old cluster

/-- The metadata that an event creates executors for. -/
def Schedules (isIgnoreCluster : String → Bool) (s : Runner) : Event → ClusterMetadata → Prop
  | .run newClusters throws, cluster | .childChange newClusters throws, cluster =>
      Adds isIgnoreCluster throws s newClusters cluster
  | .dataChange changed throws, cluster =>
      cluster = changed ∧ changed.brokerType.isSome = true ∧ throws = false ∧
        ∀ old, s.currentClusters.get changed.clusterName = some old → old.brokerType.isSome = true

theorem mapped_read (mapped : Mapped s) {seen : String → Option ClusterMetadata} : Mapped { s with seen } := mapped

theorem changes_read (mapped : Mapped s) {seen : String → Option ClusterMetadata} {new gone : ClusterMetadata → Prop} :
    Changes s { s with seen } new gone where
  only _ member := .inl member
  stays _ member := .inl member
  mapped := mapped_read mapped
  currentClusters := rfl
  phase := .inl rfl

theorem changes_add {cluster : ClusterMetadata} {s s' : Runner} (mapped : Mapped s)
    (completes : Runner.add throws cluster s = some s') : Changes s s' (· = cluster) fun _ => False := by
  obtain ⟨refreshed, refreshes, rfl⟩ := Option.map_eq_some_iff.mp completes
  have changes : Changes s refreshed (· = cluster) fun _ => False := changes_refreshCluster mapped refreshes
  exact ⟨changes.only, changes.stays, changes.mapped, changes.currentClusters, changes.phase⟩

theorem changes_drop {cluster : ClusterMetadata} {s s' : Runner} (mapped : Mapped s)
    (completes : Runner.drop cluster s = some s') : Changes s s' (fun _ => False) (Removes cluster) := by
  obtain ⟨removed, removes, rfl⟩ := Option.map_eq_some_iff.mp completes
  have changes : Changes s removed (fun _ => False) (Removes cluster) := changes_removeCluster mapped removes
  exact ⟨changes.only, changes.stays, changes.mapped, changes.currentClusters, changes.phase⟩

theorem destroy_leaves (mapped : Mapped s) :
    (∀ executor ∈ s.destroy.live, executor ∈ s.live) ∧ Mapped s.destroy ∧ s.destroy.phase = .destroyed := by
  have mappedMarked : Mapped { s with phase := .destroyed } := mapped
  have destroyed : Changes { s with phase := .destroyed } s.destroy (fun _ => False) fun _ => True := by
    refine changes_foldl mappedMarked fun s mapped name _ => ?_
    exact (changes_remove mapped name).mono (fun _ isNew => isNew) fun _ _ => trivial
  refine ⟨fun executor member => (destroyed.only executor member).resolve_right id, destroyed.mapped, ?_⟩
  rcases destroyed.phase with same | same
  · exact same
  · exact same

/-- What an event leaves of the executors and of the known clusters. -/
structure Leaves (isIgnoreCluster : String → Bool) (s s' : Runner) (event : Event) : Prop where
  only : ∀ executor ∈ s'.live, executor ∈ s.live ∨ Schedules isIgnoreCluster s event executor.cluster
  stays : s.phase ≠ .created → ∀ executor ∈ s.live, executor ∈ s'.live ∨ MayRemove s executor.cluster
  mapped : Mapped s'
  currentClusters : s'.currentClusters = s.currentClusters ∨ s.phase = .created ∨
    ∃ newClusters throws, event = .childChange newClusters throws ∧
      Completes isIgnoreCluster throws s newClusters ∧ s'.currentClusters = newClusters
  started : s'.phase ≠ .created

theorem mem_of_mem_dropped {cluster : ClusterMetadata} (member : cluster ∈ s.dropped newClusters) :
    cluster ∈ s.currentClusters.all := (List.mem_filter.mp member).1

/-- How a refresh ends: in one of its loops, or with the new clusters. -/
theorem refresh_leaves (mapped : Mapped s) (isIgnoreCluster throws : String → Bool) (newClusters : Clusters) :
    ∃ after, Changes s after (Adds isIgnoreCluster throws s newClusters) (MayRemove s) ∧
      ((s.refresh isIgnoreCluster throws newClusters).1 = after ∨
        Completes isIgnoreCluster throws s newClusters ∧
          (s.refresh isIgnoreCluster throws newClusters).1 = { after with currentClusters := newClusters }) := by
  have read : Changes s (s.read newClusters) (Adds isIgnoreCluster throws s newClusters) (MayRemove s) :=
    changes_read mapped
  obtain ⟨grows, addFails⟩ := changes_forEach (s.added isIgnoreCluster newClusters) read.mapped (add_isSome throws)
    fun _ _ _ mapped completes => changes_add mapped completes
  obtain ⟨shrinks, dropFails⟩ := changes_forEach (s.dropped newClusters) grows.mapped drop_isSome
    fun _ _ _ mapped completes => changes_drop mapped completes
  have added : ∀ other, (∃ cluster ∈ (s.added isIgnoreCluster newClusters).takeWhile (succeeds throws),
      other = cluster) → Adds isIgnoreCluster throws s newClusters other := by
    rintro other ⟨cluster, member, rfl⟩
    exact member
  have removed : ∀ other, (∃ cluster ∈ (s.dropped newClusters).takeWhile (·.brokerType.isSome),
      Removes cluster other) → MayRemove s other := by
    rintro other ⟨cluster, member, removes⟩
    exact ⟨cluster, mem_of_mem_dropped (List.takeWhile_subset _ member), removes⟩
  have grown := read.trans (grows.mono added fun other ⟨_, _, impossible⟩ => impossible.elim)
  have shrunk := grown.trans (shrinks.mono (fun other ⟨_, _, impossible⟩ => impossible.elim) removed)
  unfold Runner.refresh
  dsimp only
  split
  · exact ⟨_, grown, .inl rfl⟩
  · next allAdded =>
    split
    · exact ⟨_, shrunk, .inl rfl⟩
    · next allDropped =>
      rw [addFails, Bool.not_eq_true', Bool.not_eq_false] at allAdded
      rw [dropFails, Bool.not_eq_true', Bool.not_eq_false] at allDropped
      exact ⟨_, shrunk, .inr ⟨⟨List.all_eq_true.mp allAdded, List.all_eq_true.mp allDropped⟩, rfl⟩⟩

theorem succeeds_of_refreshCluster {throws : Bool} {cluster : ClusterMetadata} {s s' : Runner}
    (completes : s.refreshCluster throws cluster = some s') : cluster.brokerType.isSome = true ∧ throws = false := by
  unfold Runner.refreshCluster at completes
  split at completes
  · cases completes
  · next type own =>
    cases throws with
    | true => cases completes
    | false => exact ⟨Option.isSome_of_eq_some own, rfl⟩

theorem brokerType_of_removeCluster {cluster : ClusterMetadata} {s s' : Runner}
    (completes : s.removeCluster cluster = some s') : cluster.brokerType.isSome = true := by
  unfold Runner.removeCluster at completes
  split at completes
  · cases completes
  · next type own => exact Option.isSome_of_eq_some own

theorem changes_handleDataChange (mapped : Mapped s) (isIgnoreCluster : String → Bool) (throws : Bool)
    (cluster : ClusterMetadata) : Changes s (s.handleDataChange throws cluster)
      (Schedules isIgnoreCluster s (.dataChange cluster throws)) (MayRemove s) := by
  have read {new gone : ClusterMetadata → Prop} :
      Changes s { s with seen := Function.update s.seen cluster.clusterName (some cluster) } new gone :=
    changes_read mapped
  -- the refresh that follows a removal, or that no removal precedes
  have refreshed {removed : Runner} (changes : Changes s removed (fun _ => False) (MayRemove s))
      (known : ∀ old, s.currentClusters.get cluster.clusterName = some old → old.brokerType.isSome = true) :
      Changes s ((removed.refreshCluster throws cluster).getD removed)
        (Schedules isIgnoreCluster s (.dataChange cluster throws)) (MayRemove s) := by
    have before : Changes s removed (Schedules isIgnoreCluster s (.dataChange cluster throws)) (MayRemove s) :=
      changes.mono (fun _ impossible => impossible.elim) fun _ isGone => isGone
    cases completes : removed.refreshCluster throws cluster with
    | none => exact before
    | some s' =>
        obtain ⟨typed, fine⟩ := succeeds_of_refreshCluster completes
        refine before.trans ((changes_refreshCluster changes.mapped completes).mono ?_ fun _ isGone => isGone)
        rintro other rfl
        exact ⟨rfl, typed, fine, known⟩
  unfold Runner.handleDataChange
  dsimp only
  cases found : s.currentClusters.get cluster.clusterName with
  | none => exact refreshed read fun old impossible => by rw [found] at impossible; cases impossible
  | some old =>
      dsimp only
      split
      · exact read
      · next removed completes =>
        have removal : Changes _ removed (fun _ => False) (Removes old) :=
          changes_removeCluster (mapped_read mapped) completes
        refine refreshed (read.trans (removal.mono (fun _ isNew => isNew) ?_)) ?_
        · exact fun other removes => ⟨old, (Clusters.mem_of_get found).1, removes⟩
        · intro other same
          rw [← Option.some.inj (found.symm.trans same)]
          exact brokerType_of_removeCluster completes

theorem Changes.started {s s' : Runner} {new gone : ClusterMetadata → Prop} (changes : Changes s s' new gone)
    (running : s.phase = .running) : s'.phase ≠ .created := by
  intro impossible
  rcases changes.phase with same | destroyed
  · cases running.symm.trans (same.symm.trans impossible)
  · cases destroyed.symm.trans impossible

theorem runner_leaves (isIgnoreCluster : String → Bool) (mapped : Mapped s) {event : Event} (enabled : s.guard event) :
    Leaves isIgnoreCluster s (s.effect isIgnoreCluster event) event := by
  cases event with
  | run newClusters throws =>
      have created : s.phase = .created := enabled
      obtain ⟨after, changes, ends⟩ := refresh_leaves mapped isIgnoreCluster throws newClusters
      have refreshed : (∀ executor ∈ (s.refresh isIgnoreCluster throws newClusters).1.live, executor ∈ after.live) ∧
          Mapped (s.refresh isIgnoreCluster throws newClusters).1 := by
        rcases ends with same | ⟨_, same⟩
        · rw [same]
          exact ⟨fun _ member => member, changes.mapped⟩
        · rw [same]
          exact ⟨fun _ member => member, changes.mapped⟩
      have ran : (∀ executor ∈ (s.run isIgnoreCluster throws newClusters).live, executor ∈ after.live) ∧
          Mapped (s.run isIgnoreCluster throws newClusters) ∧
            (s.run isIgnoreCluster throws newClusters).phase ≠ .created := by
        unfold Runner.run
        dsimp only
        split
        · obtain ⟨kept, mappedAfter, destroyed⟩ := destroy_leaves refreshed.2
          refine ⟨fun executor member => refreshed.1 executor (kept executor member), mappedAfter, ?_⟩
          rw [destroyed]
          decide
        · exact ⟨refreshed.1, refreshed.2, fun impossible => by cases impossible⟩
      obtain ⟨live, mappedAfter, started⟩ := ran
      refine ⟨fun executor member => changes.only executor (live executor member), ?_, mappedAfter, .inr (.inl created),
        started⟩
      exact fun notCreated => absurd created notCreated
  | childChange newClusters throws =>
      obtain ⟨after, changes, ends⟩ := refresh_leaves mapped isIgnoreCluster throws newClusters
      unfold Runner.effect
      rcases ends with same | ⟨completes, same⟩
      · dsimp only
        rw [same]
        exact ⟨changes.only, fun _ => changes.stays, changes.mapped, .inl changes.currentClusters,
          changes.started enabled⟩
      · dsimp only
        rw [same]
        exact ⟨changes.only, fun _ => changes.stays, changes.mapped,
          .inr (.inr ⟨newClusters, throws, rfl, completes, rfl⟩), changes.started enabled⟩
  | dataChange cluster throws =>
      have changes := changes_handleDataChange mapped isIgnoreCluster throws cluster
      exact ⟨changes.only, fun _ => changes.stays, changes.mapped, .inl changes.currentClusters,
        changes.started enabled.1⟩

end Events

end Zms.Collector
