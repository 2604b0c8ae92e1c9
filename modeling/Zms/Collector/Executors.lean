import Mathlib
import Zms.Collector.ReportRunner
import Zms.Registry.Mirrors

/-! What the submissions and removals of the collector do to its executors.

The map of services owns every live executor as long as no name is taken when
it is submitted, and a removal finds those whose broker type is the one it asks for.
-/

set_option autoImplicit false

namespace Zms.Collector

open Zms.Registry Zms.Transition

section Names

theorem label_append_inj {service service' : Service} {rest rest' : List Char}
    (same : service.label.toList ++ rest = service'.label.toList ++ rest') : service = service' ∧ rest = rest' := by
  cases service <;> cases service' <;>
    simp [Service.label] at same <;> simp [same]

theorem type_append_inj {name name' : List Char} {type type' : BrokerType}
    (same : name ++ ("-" ++ brokerTypeName type).toList = name' ++ ("-" ++ brokerTypeName type').toList) :
    name = name' ∧ type = type' := by
  -- the last letters tell the types apart
  cases type <;> cases type'
  · exact ⟨List.append_cancel_right same, rfl⟩
  · have backwards := congrArg List.reverse same
    simp [brokerTypeName] at backwards
  · have backwards := congrArg List.reverse same
    simp [brokerTypeName] at backwards
  · exact ⟨List.append_cancel_right same, rfl⟩

theorem serviceName_inj {service service' : Service} {name name' : String} {type type' : BrokerType}
    (same : serviceName service name type = serviceName service' name' type') :
    service = service' ∧ name = name' ∧ type = type' := by
  have chars := congrArg String.toList same
  simp only [serviceName, String.append_assoc] at chars
  rw [String.toList_append, String.toList_append, String.toList_append (s := service'.label),
    String.toList_append (s := name')] at chars
  obtain ⟨services, rest⟩ := label_append_inj chars
  obtain ⟨names, types⟩ := type_append_inj rest
  exact ⟨services, String.toList_injective names, types⟩

end Names

/-- The map of services holds exactly the live executors. -/
structure Keyed (s : Runner) : Prop where
  mirrors : Mirrors s.serviceMap Executor.serviceName (· ∈ s.live)
  named : ∀ executor ∈ s.live, ∃ type, executor.cluster.brokerType = some type ∧
    executor.serviceName = serviceName executor.service executor.cluster.clusterName type
  fresh : ∀ executor ∈ s.live, executor.id < s.threadNum

section Registering
variable {s s' : Runner} {cluster : ClusterMetadata} {type : BrokerType}

theorem Keyed.serviceName_iff (keyed : Keyed s) {executor : Executor} (member : executor ∈ s.live)
    (own : executor.cluster.brokerType = some type) (service : Service) (name : String) :
    executor.serviceName = serviceName service name type ↔
      executor.service = service ∧ executor.cluster.clusterName = name := by
  obtain ⟨type', own', called⟩ := keyed.named executor member
  obtain rfl := Option.some.inj (own.symm.trans own')
  rw [called]
  constructor
  · intro same
    obtain ⟨services, names, -⟩ := serviceName_inj same
    exact ⟨services, names⟩
  · rintro ⟨rfl, rfl⟩
    rfl

theorem Keyed.unique (keyed : Keyed s) {first second : Executor} (one : first ∈ s.live) (two : second ∈ s.live)
    (service : first.service = second.service) (clusters : first.cluster = second.cluster) : first = second := by
  obtain ⟨type, own, called⟩ := keyed.named second two
  apply keyed.mirrors.key_inj one two
  rw [called, keyed.serviceName_iff one (clusters ▸ own)]
  exact ⟨service, congrArg (·.clusterName) clusters⟩

theorem keyed_submit (keyed : Keyed s) (own : cluster.brokerType = some type) {service : Service}
    (free : ∀ executor ∈ s.live, executor.cluster.clusterName = cluster.clusterName → executor.service ≠ service) :
    Keyed (s.submit service cluster (serviceName service cluster.clusterName type)) := by
  have apart : ∀ executor ∈ s.live, executor.serviceName ≠ serviceName service cluster.clusterName type := by
    intro executor member same
    obtain ⟨type', -, called⟩ := keyed.named executor member
    obtain ⟨services, names, -⟩ := serviceName_inj (called.symm.trans same)
    exact free executor member names services
  constructor
  · have inserted := keyed.mirrors.insert
      ⟨s.threadNum, serviceName service cluster.clusterName type, service, cluster⟩
    apply inserted.rows_iff.mpr
    intro executor
    rw [Runner.submit, List.mem_cons]
    constructor
    · rintro (new | ⟨old, -⟩)
      · exact .inl new
      · exact .inr old
    · rintro (new | old)
      · exact .inl new
      · exact .inr ⟨old, apart executor old⟩
  · intro executor member
    obtain rfl | old := List.mem_cons.mp member
    · exact ⟨type, own, rfl⟩
    · exact keyed.named executor old
  · intro executor member
    obtain rfl | old := List.mem_cons.mp member
    · exact Nat.lt_succ_self _
    · exact Nat.lt_succ_of_lt (keyed.fresh executor old)

theorem mem_remove (keyed : Keyed s) (name : String) (executor : Executor) :
    executor ∈ (s.remove name).live ↔ executor ∈ s.live ∧ executor.serviceName ≠ name := by
  unfold Runner.remove
  split
  · next absent =>
    constructor
    · intro member
      refine ⟨member, fun same => ?_⟩
      have found := (keyed.mirrors name executor).mpr ⟨member, same⟩
      rw [absent] at found
      cases found
    · exact fun kept => kept.1
  · next removed found =>
    rw [List.mem_filter, decide_eq_true_eq]
    apply and_congr_right
    intro member
    rw [not_iff_not]
    constructor
    · rintro rfl
      exact ((keyed.mirrors name executor).mp found).2
    · intro same
      have found' := (keyed.mirrors name executor).mpr ⟨member, same⟩
      exact Option.some.inj (found'.symm.trans found)

theorem keyed_remove (keyed : Keyed s) (name : String) : Keyed (s.remove name) := by
  have kept := mem_remove keyed name
  constructor
  · cases found : s.serviceMap.lookup name with
    | none =>
      have same : s.remove name = s := by
        unfold Runner.remove
        rw [found]
      rw [same]
      exact keyed.mirrors
    | some removed =>
      have erased : (s.remove name).serviceMap = s.serviceMap.erase name := by
        unfold Runner.remove
        rw [found]
      rw [erased]
      apply (keyed.mirrors.erase name).rows_iff.mpr
      intro executor
      exact (kept executor).symm
  · intro executor member
    exact keyed.named executor ((kept executor).mp member).1
  · intro executor member
    have bound := keyed.fresh executor ((kept executor).mp member).1
    unfold Runner.remove
    split
    · exact bound
    · exact bound

end Registering

/-- What an event leaves alone while it works on the executors. -/
structure Frame (s s' : Runner) : Prop where
  phase : s'.phase = s.phase
  currentClusters : s'.currentClusters = s.currentClusters
  seen : s'.seen = s.seen

theorem Frame.trans {s s' s'' : Runner} (first : Frame s s') (second : Frame s' s'') : Frame s s'' :=
  ⟨second.phase.trans first.phase, second.currentClusters.trans first.currentClusters, second.seen.trans first.seen⟩

/-- The executors that are new are those of `new`, and their clusters are subscribed to. -/
structure Grows (s s' : Runner) (new : ClusterMetadata → Service → Prop) : Prop extends Frame s s' where
  keyed : Keyed s'
  old : ∀ executor ∈ s.live, executor ∈ s'.live
  only : ∀ executor ∈ s'.live, executor ∈ s.live ∨ new executor.cluster executor.service
  all : ∀ cluster service, new cluster service →
    ∃ executor ∈ s'.live, executor.service = service ∧ executor.cluster = cluster
  subscribed : ∀ name ∈ s'.subscribed,
    name ∈ s.subscribed ∨ ∃ cluster service, new cluster service ∧ cluster.clusterName = name

/-- The executors that are gone are those of the clusters in `gone`, the
subscriptions those in `ended`. -/
structure Shrinks (s s' : Runner) (gone ended : String → Prop) : Prop extends Frame s s' where
  keyed : Keyed s'
  live : ∀ executor, executor ∈ s'.live ↔ executor ∈ s.live ∧ ¬ gone executor.cluster.clusterName
  subscribed : ∀ name ∈ s'.subscribed, name ∈ s.subscribed ∧ ¬ ended name

section Growing
variable {s s' s'' : Runner} {new new' : ClusterMetadata → Service → Prop}

theorem Grows.none (keyed : Keyed s) (empty : ∀ cluster service, ¬ new cluster service) : Grows s s new where
  phase := rfl
  currentClusters := rfl
  seen := rfl
  keyed := keyed
  old _ member := member
  only _ member := .inl member
  all cluster service member := absurd member (empty cluster service)
  subscribed _ member := .inl member

theorem Grows.trans {both : ClusterMetadata → Service → Prop} (first : Grows s s' new) (second : Grows s' s'' new')
    (either : ∀ cluster service, both cluster service ↔ new cluster service ∨ new' cluster service) :
    Grows s s'' both where
  toFrame := first.toFrame.trans second.toFrame
  keyed := second.keyed
  old executor member := second.old executor (first.old executor member)
  only executor member := by
    rw [either, ← or_assoc]
    obtain before | later := second.only executor member
    · exact .inl (first.only executor before)
    · exact .inr later
  all cluster service member := by
    obtain before | later := (either cluster service).mp member
    · obtain ⟨executor, found, own⟩ := first.all cluster service before
      exact ⟨executor, second.old executor found, own⟩
    · exact second.all cluster service later
  subscribed name member := by
    obtain before | ⟨cluster, service, later, own⟩ := second.subscribed name member
    · obtain before | ⟨cluster, service, found, own⟩ := first.subscribed name before
      · exact .inl before
      · exact .inr ⟨cluster, service, (either cluster service).mpr (.inl found), own⟩
    · exact .inr ⟨cluster, service, (either cluster service).mpr (.inr later), own⟩

theorem grows_submit {cluster : ClusterMetadata} {type : BrokerType} (keyed : Keyed s)
    (own : cluster.brokerType = some type) (service : Service)
    (free : ∀ executor ∈ s.live, executor.cluster.clusterName = cluster.clusterName → executor.service ≠ service) :
    Grows s (s.submit service cluster (serviceName service cluster.clusterName type))
      fun other also => other = cluster ∧ also = service where
  phase := rfl
  currentClusters := rfl
  seen := rfl
  keyed := keyed_submit keyed own free
  old _ member := List.mem_cons_of_mem _ member
  only executor member := by
    obtain rfl | old := List.mem_cons.mp member
    · exact .inr ⟨rfl, rfl⟩
    · exact .inl old
  all other also := by
    rintro ⟨rfl, rfl⟩
    exact ⟨_, List.mem_cons_self, rfl, rfl⟩
  subscribed _ member := .inl member

theorem grows_submitAll {cluster : ClusterMetadata} {type : BrokerType} (keyed : Keyed s)
    (own : cluster.brokerType = some type) {services : List Service} (once : services.Nodup)
    (free : ∀ executor ∈ s.live, executor.cluster.clusterName = cluster.clusterName → executor.service ∉ services) :
    Grows s (services.foldl
      (fun s service => s.submit service cluster (serviceName service cluster.clusterName type)) s)
      fun other service => other = cluster ∧ service ∈ services := by
  induction services generalizing s with
  | nil =>
    apply Grows.none keyed
    rintro other service ⟨-, absurdity⟩
    cases absurdity
  | cons first rest ih =>
    obtain ⟨absent, once⟩ := List.nodup_cons.mp once
    have submitted := grows_submit keyed own first fun executor member same service =>
      free executor member same (service ▸ List.mem_cons_self)
    have later := ih submitted.keyed once fun executor member same => by
      obtain old | ⟨-, also⟩ := submitted.only executor member
      · exact fun listed => free executor old same (List.mem_cons_of_mem _ listed)
      · rw [also]
        exact absent
    apply submitted.trans later
    intro other service
    rw [List.mem_cons, ← and_or_left]

theorem Service.mem_submitted (service : Service) : service ∈ submitted := by
  cases service <;> decide

theorem grows_refreshCluster {throws : Bool} {cluster : ClusterMetadata} (keyed : Keyed s)
    (free : ∀ executor ∈ s.live, executor.cluster.clusterName ≠ cluster.clusterName)
    (completes : s.refreshCluster throws cluster = some s') : Grows s s' fun other _ => other = cluster := by
  unfold Runner.refreshCluster at completes
  split at completes
  · cases completes
  · next type own =>
    split at completes
    · cases completes
    · obtain rfl := Option.some.inj completes
      have submitted := grows_submitAll keyed own (by decide : Service.submitted.Nodup)
        fun executor member same => absurd same (free executor member)
      simpa only [Service.mem_submitted, and_true] using submitted

theorem grows_add {throws : String → Bool} {cluster : ClusterMetadata} (keyed : Keyed s)
    (free : ∀ executor ∈ s.live, executor.cluster.clusterName ≠ cluster.clusterName)
    (completes : Runner.add throws cluster s = some s') : Grows s s' fun other _ => other = cluster := by
  obtain ⟨refreshed, refreshes, rfl⟩ := Option.map_eq_some_iff.mp completes
  have grows := grows_refreshCluster keyed free refreshes
  refine { grows with keyed := ?_, subscribed := fun name member => ?_ }
  · exact ⟨grows.keyed.mirrors, grows.keyed.named, grows.keyed.fresh⟩
  · obtain rfl | before := List.mem_cons.mp member
    · exact .inr ⟨cluster, .RT, rfl, rfl⟩
    · exact grows.subscribed name before

/-- The refresh of a cluster does not throw. -/
def succeeds (throws : String → Bool) (cluster : ClusterMetadata) : Bool :=
  cluster.brokerType.isSome && !throws cluster.clusterName

theorem add_isSome (throws : String → Bool) (cluster : ClusterMetadata) (s : Runner) :
    (Runner.add throws cluster s).isSome = succeeds throws cluster := by
  unfold Runner.add Runner.refreshCluster succeeds
  rw [Option.isSome_map]
  split
  · next own =>
    rw [own]
    rfl
  · next own =>
    rw [own]
    split
    · next fails =>
      rw [fails]
      rfl
    · next fine =>
      rw [Bool.eq_false_iff.mpr fine]
      rfl

/-- The loop completes the clusters before the first whose refresh throws. -/
theorem grows_forEach_add {throws : String → Bool} {clusters : List ClusterMetadata} (keyed : Keyed s)
    (once : (clusters.map (·.clusterName)).Nodup)
    (free : ∀ executor ∈ s.live, executor.cluster.clusterName ∉ clusters.map (·.clusterName)) :
    Grows s (Runner.forEach (Runner.add throws) clusters s).1
        (fun cluster _ => cluster ∈ clusters.takeWhile (succeeds throws)) ∧
      (Runner.forEach (Runner.add throws) clusters s).2 = !clusters.all (succeeds throws) := by
  induction clusters generalizing s with
  | nil =>
    refine ⟨Grows.none keyed ?_, rfl⟩
    intro cluster _ absurdity
    cases absurdity
  | cons first rest ih =>
    obtain ⟨absent, once⟩ := List.nodup_cons.mp once
    have decided := add_isSome throws first s
    unfold Runner.forEach
    split
    · next fails =>
      have unsuccessful : succeeds throws first = false := by
        rw [← decided, fails]
        rfl
      rw [List.takeWhile_cons, List.all_cons, unsuccessful]
      refine ⟨Grows.none keyed ?_, rfl⟩
      intro cluster _ absurdity
      cases absurdity
    · next s' completes =>
      have successful : succeeds throws first = true := by
        rw [← decided, completes]
        rfl
      have grows := grows_add keyed (fun executor member same => free executor member (same ▸ List.mem_cons_self)) completes
      have free' : ∀ executor ∈ s'.live, executor.cluster.clusterName ∉ rest.map (·.clusterName) := by
        intro executor member listed
        obtain old | new := grows.only executor member
        · exact free executor old (List.mem_cons_of_mem _ listed)
        · rw [new] at listed
          exact absent listed
      obtain ⟨later, failed⟩ := ih grows.keyed once free'
      rw [List.takeWhile_cons, List.all_cons, successful]
      refine ⟨grows.trans later ?_, failed⟩
      intro cluster _
      exact List.mem_cons

end Growing

section Shrinking
variable {s s' s'' : Runner}

theorem Shrinks.none (keyed : Keyed s) {gone : String → Prop} (empty : ∀ name, ¬ gone name) :
    Shrinks s s gone gone where
  phase := rfl
  currentClusters := rfl
  seen := rfl
  keyed := keyed
  live executor := by
    constructor
    · exact fun member => ⟨member, empty _⟩
    · exact fun kept => kept.1
  subscribed name member := ⟨member, empty name⟩

theorem Shrinks.trans {gone gone' both : String → Prop} (first : Shrinks s s' gone gone)
    (second : Shrinks s' s'' gone' gone') (either : ∀ name, both name ↔ gone name ∨ gone' name) :
    Shrinks s s'' both both where
  toFrame := first.toFrame.trans second.toFrame
  keyed := second.keyed
  live executor := by
    rw [second.live, first.live, either, not_or, and_assoc]
  subscribed name member := by
    obtain ⟨before, other⟩ := second.subscribed name member
    obtain ⟨before, another⟩ := first.subscribed name before
    rw [either, not_or]
    exact ⟨before, another, other⟩

theorem frame_remove (s : Runner) (name : String) :
    Frame s (s.remove name) ∧ (s.remove name).subscribed = s.subscribed := by
  unfold Runner.remove
  split
  · exact ⟨⟨rfl, rfl, rfl⟩, rfl⟩
  · exact ⟨⟨rfl, rfl, rfl⟩, rfl⟩

theorem removeAll (keyed : Keyed s) (names : List String) :
    Keyed (names.foldl Runner.remove s) ∧ Frame s (names.foldl Runner.remove s) ∧
      (names.foldl Runner.remove s).subscribed = s.subscribed ∧
      ∀ executor, executor ∈ (names.foldl Runner.remove s).live ↔ executor ∈ s.live ∧ executor.serviceName ∉ names := by
  induction names generalizing s with
  | nil =>
    refine ⟨keyed, ⟨rfl, rfl, rfl⟩, rfl, fun executor => ?_⟩
    simp only [List.foldl_nil, List.not_mem_nil, not_false_eq_true, and_true]
  | cons first rest ih =>
    obtain ⟨frame, subscribed⟩ := frame_remove s first
    obtain ⟨keyed', frame', subscribed', live⟩ := ih (keyed_remove keyed first)
    refine ⟨keyed', frame.trans frame', subscribed'.trans subscribed, fun executor => ?_⟩
    rw [List.foldl_cons, live, mem_remove keyed, List.mem_cons, not_or, and_assoc]

theorem Service.mem_removed (service : Service) : service ∈ removed := by
  cases service <;> decide

/-- The removal of a cluster finds its executors if their broker type is still the same. -/
theorem shrinks_removeCluster {cluster : ClusterMetadata} (keyed : Keyed s)
    (current : ∀ executor ∈ s.live, executor.cluster.clusterName = cluster.clusterName →
      executor.cluster.brokerType = cluster.brokerType)
    (completes : s.removeCluster cluster = some s') :
    Shrinks s s' (· = cluster.clusterName) fun _ => False := by
  unfold Runner.removeCluster at completes
  split at completes
  · cases completes
  · next type own =>
    obtain rfl := Option.some.inj completes
    have names : Service.removed.foldl (fun s service => s.remove (serviceName service cluster.clusterName type)) s =
        (Service.removed.map fun service => serviceName service cluster.clusterName type).foldl Runner.remove s := by
      rw [List.foldl_map]
    rw [names]
    obtain ⟨keyed', frame, subscribed, live⟩ :=
      removeAll keyed (Service.removed.map fun service => serviceName service cluster.clusterName type)
    refine { frame with keyed := keyed', live := fun executor => ?_, subscribed := fun name member => ?_ }
    · rw [live]
      apply and_congr_right
      intro member
      rw [not_iff_not, List.mem_map]
      constructor
      · rintro ⟨service, -, same⟩
        obtain ⟨type', -, called⟩ := keyed.named executor member
        exact (serviceName_inj (same.trans called)).2.1.symm
      · intro same
        have own' := (current executor member same).trans own
        exact ⟨executor.service, Service.mem_removed _,
          ((keyed.serviceName_iff member own' executor.service cluster.clusterName).mpr ⟨rfl, same⟩).symm⟩
    · rw [subscribed] at member
      exact ⟨member, id⟩

theorem shrinks_drop {cluster : ClusterMetadata} (keyed : Keyed s)
    (current : ∀ executor ∈ s.live, executor.cluster.clusterName = cluster.clusterName →
      executor.cluster.brokerType = cluster.brokerType)
    (completes : Runner.drop cluster s = some s') :
    Shrinks s s' (· = cluster.clusterName) (· = cluster.clusterName) := by
  obtain ⟨removed, removes, rfl⟩ := Option.map_eq_some_iff.mp completes
  have shrinks := shrinks_removeCluster keyed current removes
  refine { shrinks with keyed := ?_, subscribed := fun name member => ?_ }
  · exact ⟨shrinks.keyed.mirrors, shrinks.keyed.named, shrinks.keyed.fresh⟩
  · obtain ⟨before, other⟩ := List.mem_filter.mp member
    exact ⟨(shrinks.subscribed name before).1, of_decide_eq_true other⟩

theorem drop_isSome (cluster : ClusterMetadata) (s : Runner) :
    (Runner.drop cluster s).isSome = cluster.brokerType.isSome := by
  unfold Runner.drop Runner.removeCluster
  rw [Option.isSome_map]
  split
  · next own =>
    rw [own]
    rfl
  · next own =>
    rw [own]
    rfl

theorem shrinks_forEach_drop (clusters : List ClusterMetadata) (keyed : Keyed s)
    (current : ∀ cluster ∈ clusters.takeWhile (·.brokerType.isSome), ∀ executor ∈ s.live,
      executor.cluster.clusterName = cluster.clusterName → executor.cluster.brokerType = cluster.brokerType) :
    Shrinks s (Runner.forEach Runner.drop clusters s).1
        (fun name => ∃ cluster ∈ clusters.takeWhile (·.brokerType.isSome), cluster.clusterName = name)
        (fun name => ∃ cluster ∈ clusters.takeWhile (·.brokerType.isSome), cluster.clusterName = name) ∧
      (Runner.forEach Runner.drop clusters s).2 = !clusters.all (·.brokerType.isSome) := by
  induction clusters generalizing s with
  | nil =>
    refine ⟨Shrinks.none keyed ?_, rfl⟩
    rintro name ⟨cluster, absurdity, -⟩
    cases absurdity
  | cons first rest ih =>
    have decided := drop_isSome first s
    unfold Runner.forEach
    split
    · next fails =>
      have untyped : first.brokerType.isSome = false := by
        rw [← decided, fails]
        rfl
      rw [List.takeWhile_cons, List.all_cons, untyped]
      refine ⟨Shrinks.none keyed ?_, rfl⟩
      rintro name ⟨cluster, absurdity, -⟩
      cases absurdity
    · next s' completes =>
      have typed : first.brokerType.isSome = true := by
        rw [← decided, completes]
        rfl
      rw [List.takeWhile_cons, typed] at current
      have shrinks := shrinks_drop keyed (current first List.mem_cons_self) completes
      obtain ⟨later, failed⟩ := ih shrinks.keyed fun cluster listed executor member =>
        current cluster (List.mem_cons_of_mem _ listed) executor ((shrinks.live executor).mp member).1
      rw [List.takeWhile_cons, List.all_cons, typed]
      refine ⟨shrinks.trans later fun name => ?_, failed⟩
      simp only [if_true, List.mem_cons, exists_eq_or_imp, eq_comm (a := name)]

end Shrinking

end Zms.Collector
