import Zms.Portal.Brokers
import Zms.Portal.ConsumerCopies

/-! What is left when a topic could not be created in all of its new environments, and what
a second try does about it.
-/

set_option autoImplicit false

namespace Zms.Portal.Brokers

open Zms.Registry Zms.Transition Zms.Transition.Throwing Zms.Portal.Resources

/-- What the brokers are asked for a topic that is created. -/
def creation (partitions replication : Option Int) (brokerType : BrokerType) (present : Option Int) :
    Option (Option Int) := do
  let _ ← replication
  let partitions ← partitions
  return some (← created brokerType present partitions)

/-- The node of a topic that is created. -/
def topicData (clusterName : String) : Properties := ⟨clusterName, some "", some "", none, none, none, none, none⟩

def newEnvs (db : Database) (topicId : Int) (environments : List EnvironmentInfoVo) : List EnvironmentInfoVo :=
  environments.filter fun item => ((db.refs .TOPIC).get (topicId, item.environmentId)).isNone

def listedClusters (db : Database) (infos : List EnvironmentInfoVo) : List ZmsService :=
  (db.listClustersByServiceIds (infos.map (·.serviceId))).getD []

def insertStep (topicId : Int) (info : EnvironmentInfoVo) : Step PlatformRows :=
  some (statementStep fun db => db.insertRefs .TOPIC [.plain topicId info.environmentId none])

/-- The requests for one environment: nothing is asked where the cluster is missing. -/
def nextSteps (types : EnvId → String → Option BrokerType) (topic : Topic) (replication : Int)
    (clusters : List ZmsService) (info : EnvironmentInfoVo) : List (Step PlatformRows) :=
  match serviceOf clusters info.serviceId with
  | none => [none]
  | some service =>
      [some (brokerStep types info.environmentId service.serverName topic.name
          (creation topic.partitions (some replication))),
        some (nodeStep info.environmentId topic.name (topicData service.serverName)),
        some (statementStep fun db => some (db.updateCluster topic.id info.environmentId service.id))]

def environmentSteps (types : EnvId → String → Option BrokerType) (topic : Topic) (replication : Int)
    (clusters : List ZmsService) (infos : List EnvironmentInfoVo) : List (Step PlatformRows) :=
  infos.map (insertStep topic.id) ++ infos.flatMap (nextSteps types topic replication clusters)

def syncSteps (p : Platform) (topic : Topic) (environments : List EnvironmentInfoVo) : List (Step PlatformRows) :=
  some some :: some some ::
    if newEnvs p.db topic.id environments = [] then [none]
    else some some :: environmentSteps p.brokerTypes topic (p.replication topic.id)
      (listedClusters p.db (newEnvs p.db topic.id environments)) (newEnvs p.db topic.id environments)

/-! ### The call as these steps -/

section Calls
variable {p : Platform} {topic : Topic}

theorem mem_localEnvs_iff {db : Database} {topicId : Int} {env : EnvId} :
    env ∈ (db.listByTopicId [topicId]).map (·.environmentId) ↔ ((db.refs .TOPIC).get (topicId, env)).isSome = true := by
  rw [Table.isSome_get_iff]
  unfold Database.listByTopicId
  constructor
  · intro member
    obtain ⟨joined, listed, rfl⟩ := List.mem_map.mp member
    obtain ⟨ref, among, rfl⟩ := List.mem_map.mp ((List.perm_insertionSort _ _).mem_iff.mp listed)
    obtain ⟨isRow, own⟩ := List.mem_filter.mp among
    have own : ref.resourceId = topicId := by simpa using own
    exact ⟨ref, isRow, Prod.ext own rfl⟩
  · rintro ⟨ref, isRow, same⟩
    obtain ⟨own, here⟩ := Prod.mk.inj same
    refine List.mem_map.mpr ⟨db.join ref, (List.perm_insertionSort _ _).mem_iff.mpr ?_, here⟩
    exact List.mem_map_of_mem (List.mem_filter.mpr ⟨isRow, by simpa using own⟩)

theorem newEnvs_eq (db : Database) (topicId : Int) (environments : List EnvironmentInfoVo) :
    (environments.filter fun item =>
      !((db.listByTopicId [topicId]).map (·.environmentId)).contains item.environmentId) =
      newEnvs db topicId environments := by
  apply List.filter_congr
  intro item _
  rw [Bool.eq_iff_iff, Bool.not_eq_true', ← Bool.not_eq_true, List.contains_iff_mem, mem_localEnvs_iff,
    Option.isNone_iff_eq_none, Option.not_isSome_iff_eq_none]

theorem registerTopicToZk_eq_perform (p : Platform) (env : EnvId) (clusterName topicName : String)
    (brokerType : Option BrokerType) :
    onPortal (registerTopicToZk env clusterName topicName brokerType) p =
      asking.perform [some (nodeStep env topicName (topicData clusterName))] p :=
  writeTopicInfo_eq_perform p env topicName (topicData clusterName)

theorem syncNext_eq_perform {types : EnvId → String → Option BrokerType} {replication : Int}
    (typed : p.brokerTypes = types) (stored : p.replication topic.id = replication) (clusters : List ZmsService)
    (info : EnvironmentInfoVo) :
    syncNext topic clusters info p = asking.perform (nextSteps types topic replication clusters info) p := by
  subst typed stored
  unfold syncNext nextSteps
  cases serviceOf clusters info.serviceId with
  | none => rfl
  | some service =>
    change (TopicService.createTopic info.environmentId service.serverName topic.name topic.partitions
      (some (p.replication topic.id)) >>= _) p = _
    refine Asking.bind_eq_perform (brokerRequest_eq_perform ..) fun t _ => ?_
    exact Asking.bind_eq_perform (registerTopicToZk_eq_perform ..) fun u _ => execute_eq_perform ..

theorem replication_perform (steps : List (Step PlatformRows)) :
    (asking.perform steps p).2.replication = p.replication := keeps_perform (fun _ => rfl) (fun _ _ => rfl) steps

theorem forEach_syncNext {types : EnvId → String → Option BrokerType} {replication : Int}
    (typed : p.brokerTypes = types) (stored : p.replication topic.id = replication) (clusters : List ZmsService)
    (infos : List EnvironmentInfoVo) : forEach (syncNext topic clusters) infos p =
      asking.perform (infos.flatMap (nextSteps types topic replication clusters)) p := by
  induction infos generalizing p with
  | nil => rfl
  | cons info rest ih =>
    rw [forEach_cons, List.flatMap_cons]
    refine Asking.bind_eq_perform (syncNext_eq_perform typed stored clusters info) fun t taken => ih ?_ ?_
    · have same := brokerTypes_perform (p := p) (nextSteps types topic replication clusters info)
      rw [taken] at same
      exact same.trans typed
    · have same := replication_perform (p := p) (nextSteps types topic replication clusters info)
      rw [taken] at same
      exact (congrFun same topic.id).trans stored

theorem forEach_installTopicEnvRef (topicId : Int) (infos : List EnvironmentInfoVo) :
    forEach (fun item => onPortal (installTopicEnvRef topicId item.environmentId)) infos =
      asking.perform (infos.map (insertStep topicId)) := by
  have each (info : EnvironmentInfoVo) :
      onPortal (installTopicEnvRef topicId info.environmentId) = asking.perform [insertStep topicId info] :=
    funext fun p => execute_eq_perform p _
  rw [Asking.forEach_perform each]
  congr 1
  induction infos with
  | nil => rfl
  | cons info rest ih => rw [List.flatMap_cons, ih]; rfl

theorem listClusters_eq (db : Database) {infos : List EnvironmentInfoVo} (some_new : infos ≠ []) :
    db.listClustersByServiceIds (infos.map (·.serviceId)) = some (listedClusters db infos) := by
  unfold listedClusters Database.listClustersByServiceIds
  rw [if_neg fun none_named => some_new (List.map_eq_nil_iff.mp none_named)]
  rfl

theorem syncTopic_eq {id : Int} (found : p.db.topics.get id = some topic) (environments : List EnvironmentInfoVo) :
    syncTopic id environments p = asking.perform (syncSteps p topic environments) p := by
  obtain rfl : topic.id = id := (Table.get_eq_some_iff.mp found).2
  unfold syncTopic syncSteps
  apply read_bind_eq_perform (a := topic)
  · intro refused
    exact bind_of_throws (query_of_refused refused)
  · intro answered
    refine (bind_of_returns (query_of_answered answered)).trans ?_
    rw [found]
    rfl
  apply read_bind_eq_perform query_of_refused query_of_answered
  change (ensure ((environments.filter fun item =>
    !((p.db.listByTopicId [topic.id]).map (·.environmentId)).contains item.environmentId) ≠ []) >>= _) _ = _
  rw [newEnvs_eq]
  by_cases nothing : newEnvs p.db topic.id environments = []
  · rw [if_pos nothing, ensure_bind_of_not (not_not.mpr nothing)]
    rfl
  · rw [if_neg nothing, ensure_bind nothing]
    apply read_bind_eq_perform query_of_refused query_of_answered
    have listed := listClusters_eq p.db nothing
    rw [newEnvs_eq]
    change (ofOption (p.db.listClustersByServiceIds ((newEnvs p.db topic.id environments).map (·.serviceId))) >>=
      fun clusters => forEach (fun item => onPortal (installTopicEnvRef topic.id item.environmentId))
        (newEnvs p.db topic.id environments) >>=
          fun _ => forEach (syncNext topic clusters) (newEnvs p.db topic.id environments)) _ = _
    rw [listed, ofOption_bind, forEach_installTopicEnvRef]
    refine Asking.bind_eq_perform rfl fun t taken => forEach_syncNext ?_ ?_ _ _
    · have same := brokerTypes_perform (p := asking.next (asking.next (asking.next p)))
        ((newEnvs p.db topic.id environments).map (insertStep topic.id))
      rw [taken] at same
      exact same
    · have same := replication_perform (p := asking.next (asking.next (asking.next p)))
        ((newEnvs p.db topic.id environments).map (insertStep topic.id))
      rw [taken] at same
      exact congrFun same topic.id

end Calls

/-! ### What the steps change -/

/-- What an environment has of a topic. -/
def refAt (db : Database) (topic : Topic) (env : EnvId) : Option EnvironmentRef := (db.refs .TOPIC).get (topic.id, env)

structure SameIn (topic : Topic) (env : EnvId) (r t : PlatformRows) : Prop where
  ref : refAt t.db topic env = refAt r.db topic env
  node : t.nodes env .TOPIC topic.name = r.nodes env .TOPIC topic.name
  brokers : ∀ cluster, t.brokers (env, cluster, topic.name) = r.brokers (env, cluster, topic.name)

instance (topic : Topic) (env : EnvId) : IsPreorder PlatformRows (SameIn topic env) where
  refl _ := ⟨rfl, rfl, fun _ => rfl⟩
  trans _ _ _ first second := ⟨second.ref.trans first.ref, second.node.trans first.node,
    fun cluster => (second.brokers cluster).trans (first.brokers cluster)⟩

section Changes
variable {types : EnvId → String → Option BrokerType} {topic : Topic} {replication : Int} {clusters : List ZmsService}
  {infos : List EnvironmentInfoVo} {info : EnvironmentInfoVo} {env : EnvId} {u v r t : PlatformRows}

theorem brokerStep_eq_some {clusterName topicName : String} {change : BrokerType → Option Int → Option (Option Int)}
    (taken : brokerStep types env clusterName topicName change u = some v) :
    ∃ type partitions, types env clusterName = some type ∧
      change type (u.brokers (env, clusterName, topicName)) = some partitions ∧
      v = { u with brokers := Function.update u.brokers (env, clusterName, topicName) partitions } := by
  obtain ⟨type, typed, taken⟩ := Option.bind_eq_some_iff.mp taken
  obtain ⟨partitions, changed, rfl⟩ := Option.map_eq_some_iff.mp taken
  exact ⟨type, partitions, typed, changed, rfl⟩

theorem refAt_insertRefs {db inserted : Database} {info : EnvironmentInfoVo}
    (done : db.insertRefs .TOPIC [.plain topic.id info.environmentId none] = some inserted) (env : EnvId) :
    refAt inserted topic env =
      (refAt db topic env).or (if info.environmentId = env then some (.plain topic.id env none) else none) := by
  unfold refAt
  rw [get_insertRefs done, List.find?_singleton]
  congr 1
  by_cases here : info.environmentId = env
  · subst here
    rw [if_pos rfl]
    exact if_pos (decide_eq_true rfl)
  · rw [if_neg here]
    refine if_neg fun same => here ?_
    exact congrArg Prod.snd (of_decide_eq_true same)

theorem refAt_updateCluster (db : Database) (env' : EnvId) (serviceId : Int) (env : EnvId) :
    refAt (db.updateCluster topic.id env' serviceId) topic env =
      (refAt db topic env).map fun ref => if env = env' then { ref with serviceId := some serviceId } else ref := by
  have stored : refAt (db.updateCluster topic.id env' serviceId) topic env =
      (refAt db topic env).map fun ref =>
        if ref.key = (topic.id, env') then { ref with serviceId := some serviceId } else ref := by
    simp only [refAt, Database.updateCluster, Database.updateRef, Database.setRefs, Function.update_self,
      Table.get_update]
  rw [stored]
  cases found : refAt db topic env with
  | none => rfl
  | some ref =>
    have key : ref.key = (topic.id, env) := (Table.get_eq_some_iff.mp found).2
    rw [Option.map_some, Option.map_some, key]
    by_cases here : env = env'
    · rw [if_pos here, if_pos (by rw [here])]
    · rw [if_neg here, if_neg fun same => here (congrArg Prod.snd same)]

theorem mem_nextSteps {step : PlatformRows → Option PlatformRows}
    (member : some step ∈ nextSteps types topic replication clusters info) :
    ∃ service, serviceOf clusters info.serviceId = some service ∧
      (step = brokerStep types info.environmentId service.serverName topic.name
          (creation topic.partitions (some replication)) ∨
        step = nodeStep info.environmentId topic.name (topicData service.serverName) ∨
        step = statementStep fun db => some (db.updateCluster topic.id info.environmentId service.id)) := by
  unfold nextSteps at member
  split at member
  · cases List.mem_singleton.mp member
  · next service found =>
    refine ⟨service, found, ?_⟩
    simpa using member

theorem sameIn_nextSteps (elsewhere : info.environmentId ≠ env) {step : PlatformRows → Option PlatformRows}
    (member : some step ∈ nextSteps types topic replication clusters info) (taken : step u = some v) :
    SameIn topic env u v := by
  obtain ⟨service, _, rfl | rfl | rfl⟩ := mem_nextSteps member
  · obtain ⟨_, _, _, _, rfl⟩ := brokerStep_eq_some taken
    refine ⟨rfl, rfl, fun cluster => Function.update_of_ne ?_ ..⟩
    intro same
    exact elsewhere (congrArg Prod.fst same).symm
  · cases taken
    exact ⟨rfl, put_of_ne u.nodes _ fun same => elsewhere same.1.symm, fun _ => rfl⟩
  · cases taken
    refine ⟨?_, rfl, fun _ => rfl⟩
    rw [refAt_updateCluster]
    simp only [Ne.symm elsewhere, if_false, Option.map_id_fun', id_eq]

/-- A reference that is there stays as it is. -/
def KeepsRef (topic : Topic) (env : EnvId) (r t : PlatformRows) : Prop :=
  ∀ ref, refAt r.db topic env = some ref → refAt t.db topic env = some ref

instance (topic : Topic) (env : EnvId) : IsPreorder PlatformRows (KeepsRef topic env) where
  refl _ _ found := found
  trans _ _ _ first second ref found := second ref (first ref found)

theorem SameIn.keepsRef (same : SameIn topic env u v) : KeepsRef topic env u v :=
  fun _ found => same.ref.trans found

theorem keepsRef_insertStep {step : PlatformRows → Option PlatformRows}
    (is_step : insertStep topic.id info = some step) (taken : step u = some v) : KeepsRef topic env u v := by
  cases is_step
  obtain ⟨db, inserted, rfl⟩ := Option.map_eq_some_iff.mp taken
  intro ref found
  rw [refAt_insertRefs inserted, found]
  rfl

theorem insertRefs_isSome_iff (db : Database) (env : EnvId) :
    (db.insertRefs .TOPIC [.plain topic.id env none]).isSome = true ↔ refAt db topic env = none := by
  unfold Database.insertRefs Table.insertList
  have keys : (((db.refs .TOPIC).rows ++ [EnvironmentRef.plain topic.id env none]).map EnvironmentRef.key).Nodup ↔
      refAt db topic env = none := by
    rw [List.map_append, List.map_singleton, List.nodup_append]
    unfold refAt
    rw [← Option.not_isSome_iff_eq_none, Table.isSome_get_iff]
    constructor
    · rintro ⟨_, _, apart⟩ ⟨ref, member, same⟩
      exact apart _ (List.mem_map_of_mem member) _ List.mem_cons_self same
    · intro missing
      refine ⟨(db.refs .TOPIC).keys, List.nodup_singleton _, ?_⟩
      intro key listed other is_new same
      obtain ⟨ref, member, rfl⟩ := List.mem_map.mp listed
      exact missing ⟨ref, member, same.trans (List.mem_singleton.mp is_new)⟩
  by_cases fresh : refAt db topic env = none
  · rw [dif_pos (keys.mpr fresh)]
    exact iff_of_true rfl fresh
  · rw [dif_neg fun nodup => fresh (keys.mp nodup)]
    exact iff_of_false Bool.false_ne_true fresh

/-- The unique index refuses a second reference. -/
theorem applied_inserts_of_present (present : ∃ info ∈ infos, refAt r.db topic info.environmentId ≠ none) :
    applied (infos.map (insertStep topic.id)) r = none := by
  induction infos generalizing r with
  | nil =>
    obtain ⟨_, impossible, _⟩ := present
    cases impossible
  | cons info rest ih =>
    change (statementStep _ r).bind _ = none
    cases inserted : statementStep (fun db => db.insertRefs .TOPIC [.plain topic.id info.environmentId none]) r with
    | none => rfl
    | some v =>
      obtain ⟨other, member, there⟩ := present
      have fresh : refAt r.db topic info.environmentId = none := by
        rw [← insertRefs_isSome_iff]
        obtain ⟨db, done, _⟩ := Option.map_eq_some_iff.mp inserted
        exact Option.isSome_of_eq_some done
      obtain rfl | member := List.mem_cons.mp member
      · exact absurd fresh there
      obtain ⟨ref, found⟩ := Option.ne_none_iff_exists'.mp there
      refine ih ⟨other, member, ?_⟩
      rw [@keepsRef_insertStep _ info _ _ _ _ rfl inserted ref found]
      exact Option.some_ne_none ref

theorem distinct_of_inserts (done : applied (infos.map (insertStep topic.id)) r = some t) :
    (infos.map (·.environmentId)).Nodup := by
  induction infos generalizing r with
  | nil => exact List.nodup_nil
  | cons info rest ih =>
    obtain ⟨v, taken, later⟩ := Option.bind_eq_some_iff.mp done
    obtain ⟨db, inserted, rfl⟩ := Option.map_eq_some_iff.mp taken
    refine List.nodup_cons.mpr ⟨fun again => ?_, ih later⟩
    obtain ⟨other, member, same⟩ := List.mem_map.mp again
    have stuck : applied (rest.map (insertStep topic.id)) { r with db } = none := by
      refine applied_inserts_of_present ⟨other, member, ?_⟩
      rw [refAt_insertRefs inserted, same, if_pos rfl]
      cases refAt r.db topic info.environmentId <;> exact Option.some_ne_none _
    rw [stuck] at later
    cases later

theorem refs_of_inserts (fresh : ∀ info ∈ infos, refAt r.db topic info.environmentId = none)
    (done : applied (infos.map (insertStep topic.id)) r = some t) :
    ∀ info ∈ infos, refAt t.db topic info.environmentId = some (.plain topic.id info.environmentId none) := by
  have distinct := distinct_of_inserts done
  induction infos generalizing r with
  | nil =>
    intro _ impossible
    cases impossible
  | cons info rest ih =>
    obtain ⟨again, distinct⟩ := List.nodup_cons.mp distinct
    obtain ⟨v, taken, later⟩ := Option.bind_eq_some_iff.mp done
    obtain ⟨db, inserted, rfl⟩ := Option.map_eq_some_iff.mp taken
    intro other member
    obtain rfl | member := List.mem_cons.mp member
    · refine related_of_applied (KeepsRef topic other.environmentId) ?_ later _ ?_
      · intro step among u v
        obtain ⟨_, _, is_step⟩ := List.mem_map.mp among
        exact keepsRef_insertStep is_step
      · rw [refAt_insertRefs inserted, fresh other List.mem_cons_self, if_pos rfl]
        rfl
    · refine ih (fun new among => ?_) later distinct other member
      have apart : info.environmentId ≠ new.environmentId := fun same =>
        again (List.mem_map.mpr ⟨new, among, same.symm⟩)
      rw [refAt_insertRefs inserted, fresh new (List.mem_cons_of_mem _ among), if_neg apart]
      rfl

theorem applied_inserts (fresh : ∀ info ∈ infos, refAt r.db topic info.environmentId = none)
    (distinct : (infos.map (·.environmentId)).Nodup) :
    (applied (infos.map (insertStep topic.id)) r).isSome = true := by
  induction infos generalizing r with
  | nil => rfl
  | cons info rest ih =>
    obtain ⟨again, distinct⟩ := List.nodup_cons.mp distinct
    have first := (insertRefs_isSome_iff r.db info.environmentId).mpr (fresh info List.mem_cons_self)
    obtain ⟨db, inserted⟩ := Option.isSome_iff_exists.mp first
    have taken : statementStep (fun db => db.insertRefs .TOPIC [.plain topic.id info.environmentId none]) r =
        some { r with db } := Option.map_eq_some_iff.mpr ⟨db, inserted, rfl⟩
    change ((statementStep _ r).bind (applied (rest.map (insertStep topic.id)))).isSome = true
    rw [taken]
    refine ih (fun new among => ?_) distinct
    have apart : info.environmentId ≠ new.environmentId := fun same =>
        again (List.mem_map.mpr ⟨new, among, same.symm⟩)
    rw [refAt_insertRefs inserted, fresh new (List.mem_cons_of_mem _ among), if_neg apart]
    rfl

theorem rest_of_inserts (done : applied (infos.map (insertStep topic.id)) r = some t) :
    t.brokers = r.brokers ∧ t.db.services = r.db.services := by
  constructor
  · refine keeps_of_applied (f := PlatformRows.brokers) ?_ done
    intro step among u v taken
    obtain ⟨_, _, is_step⟩ := List.mem_map.mp among
    cases is_step
    obtain ⟨_, _, rfl⟩ := Option.map_eq_some_iff.mp taken
    rfl
  · refine keeps_of_applied (f := fun r => r.db.services) ?_ done
    intro step among u v taken
    obtain ⟨_, _, is_step⟩ := List.mem_map.mp among
    cases is_step
    obtain ⟨_, inserted, rfl⟩ := Option.map_eq_some_iff.mp taken
    obtain ⟨_, _, rfl⟩ := Option.map_eq_some_iff.mp inserted
    rfl

theorem keepsRef_nextSteps {m : Nat} (part : m < (nextSteps types topic replication clusters info).length)
    {step : PlatformRows → Option PlatformRows}
    (member : some step ∈ (nextSteps types topic replication clusters info).take m) (taken : step u = some v) :
    KeepsRef topic env u v := by
  unfold nextSteps at part member
  cases found : serviceOf clusters info.serviceId with
  | none =>
    rw [found] at member
    cases List.mem_singleton.mp (List.mem_of_mem_take member)
  | some service =>
    rw [found] at part member
    have early : m ≤ 2 := Nat.le_of_lt_succ part
    have among := (List.take_subset_take_left _ early) member
    simp only [List.take_succ_cons, List.take_zero, List.mem_cons, Option.some.injEq, List.not_mem_nil,
      or_false] at among
    obtain rfl | rfl := among
    · obtain ⟨_, _, _, _, rfl⟩ := brokerStep_eq_some taken
      exact fun _ found => found
    · cases taken
      exact fun _ found => found

/-- A synchronisation that has begun and does not end leaves a reference without a cluster. -/
theorem ref_left (some_new : infos ≠ []) (fresh : ∀ info ∈ infos, refAt r.db topic info.environmentId = none) {m : Nat}
    (part : m + 1 < (environmentSteps types topic replication clusters infos).length)
    (done : applied ((environmentSteps types topic replication clusters infos).take (m + 1)) r = some t) :
    ∃ info ∈ infos, refAt t.db topic info.environmentId = some (.plain topic.id info.environmentId none) := by
  unfold environmentSteps at part done
  by_cases inserting : m + 1 ≤ (infos.map (insertStep topic.id)).length
  · rw [List.take_append_of_le_length inserting] at done
    obtain ⟨first, rest, rfl⟩ := List.exists_cons_of_ne_nil some_new
    refine ⟨first, List.mem_cons_self, ?_⟩
    rw [List.map_cons, List.take_succ_cons] at done
    obtain ⟨v, taken, later⟩ := Option.bind_eq_some_iff.mp done
    obtain ⟨db, inserted, rfl⟩ := Option.map_eq_some_iff.mp taken
    refine related_of_applied (KeepsRef topic first.environmentId) ?_ later _ ?_
    · intro step among u v
      obtain ⟨_, _, is_step⟩ := List.mem_map.mp (List.mem_of_mem_take among)
      exact keepsRef_insertStep is_step
    · rw [refAt_insertRefs inserted, fresh first List.mem_cons_self, if_pos rfl]
      rfl
  · obtain ⟨j, amount⟩ : ∃ j, m + 1 = (infos.map (insertStep topic.id)).length + j :=
      ⟨m + 1 - (infos.map (insertStep topic.id)).length, by omega⟩
    rw [amount, List.take_length_add_append, applied_append] at done
    rw [List.length_append, amount] at part
    obtain ⟨q, inserted, later⟩ := Option.bind_eq_some_iff.mp done
    have distinct := distinct_of_inserts inserted
    have refs := refs_of_inserts fresh inserted
    -- the last environment is the one that is not complete
    obtain ⟨init, last, rfl⟩ : ∃ init last, infos = init ++ [last] :=
      ⟨_, _, (List.dropLast_concat_getLast some_new).symm⟩
    refine ⟨last, List.mem_append_right init List.mem_cons_self, ?_⟩
    rw [List.flatMap_append, List.flatMap_singleton, List.take_append] at later
    rw [List.flatMap_append, List.flatMap_singleton, List.length_append] at part
    have apart {other : EnvironmentInfoVo} (member : other ∈ init) : other.environmentId ≠ last.environmentId := by
      rw [List.map_append, List.nodup_append] at distinct
      exact distinct.2.2 _ (List.mem_map_of_mem member) _ List.mem_cons_self
    refine related_of_applied (KeepsRef topic last.environmentId) ?_ later _
      (refs last (List.mem_append_right init List.mem_cons_self))
    intro step among u v taken
    obtain among | among := List.mem_append.mp among
    · obtain ⟨other, member, asked⟩ := List.mem_flatMap.mp (List.mem_of_mem_take among)
      exact (sameIn_nextSteps (apart member) asked taken).keepsRef
    · have some_step : 0 < (nextSteps types topic replication clusters last).length := by
        unfold nextSteps
        split <;> exact Nat.zero_lt_succ _
      exact keepsRef_nextSteps (by omega) among taken

/-- All that a topic needs in an environment. -/
structure Placed (topic : Topic) (env : EnvId) (service : ZmsService) (t : PlatformRows) : Prop where
  ref : refAt t.db topic env = some (.plain topic.id env (some service.id))
  node : t.nodes env .TOPIC topic.name = some (topicData service.serverName)
  broker : (t.brokers (env, service.serverName, topic.name)).isSome = true

theorem Placed.of_sameIn {service : ZmsService} (placed : Placed topic env service u) (same : SameIn topic env u v) :
    Placed topic env service v where
  ref := same.ref.trans placed.ref
  node := same.node.trans placed.node
  broker := by rw [same.brokers]; exact placed.broker

theorem placed_of_nextSteps (before : refAt r.db topic info.environmentId = some (.plain topic.id info.environmentId none))
    (done : applied (nextSteps types topic replication clusters info) r = some t) :
    ∃ service, serviceOf clusters info.serviceId = some service ∧ Placed topic info.environmentId service t := by
  unfold nextSteps at done
  cases found : serviceOf clusters info.serviceId with
  | none =>
    rw [found] at done
    cases done
  | some service =>
    rw [found] at done
    obtain ⟨u, taken, done⟩ := Option.bind_eq_some_iff.mp done
    obtain ⟨_, partitions, _, changed, rfl⟩ := brokerStep_eq_some taken
    obtain ⟨_, _, changed⟩ := Option.bind_eq_some_iff.mp changed
    obtain ⟨_, _, changed⟩ := Option.bind_eq_some_iff.mp changed
    cases changed
    cases done
    refine ⟨service, rfl, ?_, put_self .., ?_⟩
    · rw [refAt_updateCluster, before, Option.map_some, if_pos rfl]
      rfl
    · exact Option.isSome_of_eq_some (Function.update_self ..)

theorem sameIn_of_flatMap (elsewhere : ∀ info ∈ infos, info.environmentId ≠ env)
    (done : applied (infos.flatMap (nextSteps types topic replication clusters)) r = some t) :
    SameIn topic env r t := by
  refine related_of_applied _ ?_ done
  intro step among u v
  obtain ⟨info, member, asked⟩ := List.mem_flatMap.mp among
  exact sameIn_nextSteps (elsewhere info member) asked

theorem placed_of_environmentSteps (fresh : ∀ info ∈ infos, refAt r.db topic info.environmentId = none)
    (done : applied (environmentSteps types topic replication clusters infos) r = some t) :
    ∀ info ∈ infos, ∃ service, serviceOf clusters info.serviceId = some service ∧
      Placed topic info.environmentId service t := by
  unfold environmentSteps at done
  rw [applied_append] at done
  obtain ⟨q, inserted, done⟩ := Option.bind_eq_some_iff.mp done
  have distinct := distinct_of_inserts inserted
  have refs := refs_of_inserts fresh inserted
  intro info member
  have waiting := refs info member
  obtain ⟨before, after, rfl⟩ := List.append_of_mem member
  rw [List.map_append, List.map_cons, List.nodup_append, List.nodup_cons] at distinct
  obtain ⟨-, ⟨once, -⟩, apart⟩ := distinct
  rw [List.flatMap_append, List.flatMap_cons, applied_append] at done
  obtain ⟨u, earlier, done⟩ := Option.bind_eq_some_iff.mp done
  rw [applied_append] at done
  obtain ⟨v, now, later⟩ := Option.bind_eq_some_iff.mp done
  have same : SameIn topic info.environmentId q u := sameIn_of_flatMap (fun other among =>
    apart _ (List.mem_map_of_mem among) _ List.mem_cons_self) earlier
  obtain ⟨service, found, placed⟩ := placed_of_nextSteps (same.ref.trans waiting) now
  refine ⟨service, found, placed.of_sameIn (sameIn_of_flatMap (fun other among here => once ?_) later)⟩
  exact List.mem_map.mpr ⟨other, among, here⟩

/-- The cluster of an environment can be asked for the topic. -/
def Usable (types : EnvId → String → Option BrokerType) (clusters : List ZmsService) (topic : Topic)
    (brokers : BrokerTopics) (info : EnvironmentInfoVo) : Prop :=
  ∃ service, serviceOf clusters info.serviceId = some service ∧
    ∃ type, types info.environmentId service.serverName = some type ∧ ∃ partitions, topic.partitions = some partitions ∧
      (created type (brokers (info.environmentId, service.serverName, topic.name)) partitions).isSome = true

theorem applied_nextSteps_iff (types : EnvId → String → Option BrokerType) (topic : Topic) (replication : Int)
    (clusters : List ZmsService) (info : EnvironmentInfoVo) (r : PlatformRows) :
    (applied (nextSteps types topic replication clusters info) r).isSome = true ↔
    Usable types clusters topic r.brokers info := by
  unfold nextSteps Usable
  cases found : serviceOf clusters info.serviceId with
  | none =>
    refine iff_of_false Bool.false_ne_true ?_
    rintro ⟨_, impossible, _⟩
    cases impossible
  | some service =>
    constructor
    · intro done
      obtain ⟨t, done⟩ := Option.isSome_iff_exists.mp done
      obtain ⟨u, taken, _⟩ := Option.bind_eq_some_iff.mp done
      obtain ⟨type, partitions, typed, changed, _⟩ := brokerStep_eq_some taken
      obtain ⟨amount, stored, changed⟩ := Option.bind_eq_some_iff.mp changed
      obtain ⟨_, makes, _⟩ := Option.bind_eq_some_iff.mp changed
      exact ⟨service, rfl, type, typed, amount, stored, Option.isSome_of_eq_some makes⟩
    · rintro ⟨_, same, type, typed, amount, stored, makes⟩
      cases same
      obtain ⟨partitions, makes⟩ := Option.isSome_iff_exists.mp makes
      have changed : creation topic.partitions (some replication) type
          (r.brokers (info.environmentId, service.serverName, topic.name)) = some (some partitions) := by
        unfold creation
        rw [stored]
        change (created type _ amount).bind _ = _
        rw [makes]
        rfl
      have taken : brokerStep types info.environmentId service.serverName topic.name
          (creation topic.partitions (some replication)) r = some
            { r with
              brokers := Function.update r.brokers (info.environmentId, service.serverName, topic.name)
                (some partitions) } := by
        unfold brokerStep
        rw [typed, Option.bind_some, changed]
        rfl
      change ((brokerStep _ _ _ _ _ r).bind _).isSome = true
      rw [taken]
      rfl

theorem applied_flatMap_iff (distinct : (infos.map (·.environmentId)).Nodup) :
    (applied (infos.flatMap (nextSteps types topic replication clusters)) r).isSome = true ↔
      ∀ info ∈ infos, Usable types clusters topic r.brokers info := by
  induction infos generalizing r with
  | nil => exact iff_of_true rfl fun _ impossible => by cases impossible
  | cons info rest ih =>
    obtain ⟨once, distinct⟩ := List.nodup_cons.mp distinct
    rw [List.flatMap_cons, applied_append, List.forall_mem_cons, ← applied_nextSteps_iff types topic replication]
    cases done : applied (nextSteps types topic replication clusters info) r with
    | none => exact iff_of_false Bool.false_ne_true fun both => Bool.false_ne_true both.1
    | some u =>
      rw [Option.bind_some, ih distinct, and_iff_right (Option.isSome_some (a := u))]
      refine forall₂_congr fun other member => ?_
      have same : SameIn topic other.environmentId r u := by
        refine related_of_applied _ ?_ done
        intro step among v w
        refine sameIn_nextSteps (fun here => once ?_) among
        exact List.mem_map.mpr ⟨other, member, here.symm⟩
      unfold Usable
      simp only [same.brokers]

theorem applied_environmentSteps_iff (fresh : ∀ info ∈ infos, refAt r.db topic info.environmentId = none) :
    (applied (environmentSteps types topic replication clusters infos) r).isSome = true ↔
      (infos.map (·.environmentId)).Nodup ∧ ∀ info ∈ infos, Usable types clusters topic r.brokers info := by
  unfold environmentSteps
  rw [applied_append]
  by_cases distinct : (infos.map (·.environmentId)).Nodup
  · obtain ⟨q, inserted⟩ := Option.isSome_iff_exists.mp (applied_inserts fresh distinct)
    rw [inserted, Option.bind_some, applied_flatMap_iff distinct, (rest_of_inserts inserted).1, and_iff_right distinct]
  · refine iff_of_false (fun done => distinct ?_) fun both => distinct both.1
    obtain ⟨t, done⟩ := Option.isSome_iff_exists.mp done
    obtain ⟨q, inserted, _⟩ := Option.bind_eq_some_iff.mp done
    exact distinct_of_inserts inserted

end Changes

/-! ### A second try -/

structure Created (p : Platform) (topic : Topic) (env : EnvId) (service : ZmsService) : Prop where
  isRow : service ∈ p.db.services.rows
  ref : ∃ ref, refAt p.db topic env = some ref ∧ ref.serviceId = some service.id
  node : (p.nodes env .TOPIC topic.name).map (·.clusterName) = some service.serverName
  broker : (p.brokers (env, service.serverName, topic.name)).isSome = true

/-- The same topics, references, nodes and brokers again, whatever has happened to services and
clusters; every request is answered. -/
structure Again (t u : Platform) : Prop where
  topics : u.db.topics = t.db.topics
  refs : u.db.refs = t.db.refs
  nodes : u.nodes = t.nodes
  brokers : u.brokers = t.brokers
  answered : ∀ n, u.answers n = true

/-- What the environments need for the topic. -/
structure Serves (u : Platform) (topic : Topic) (infos : List EnvironmentInfoVo) : Prop where
  distinct : (infos.map (·.environmentId)).Nodup
  usable : ∀ info ∈ infos, ∃ service ∈ u.db.services.rows, info.serviceId = some service.id ∧
    service.serverStatus = "ENABLE" ∧ (Database.brokerTypeOf service.serverType).isSome = true ∧
    ∃ type, u.brokerTypes info.environmentId service.serverName = some type ∧
      ∃ partitions, topic.partitions = some partitions ∧
        (created type (u.brokers (info.environmentId, service.serverName, topic.name)) partitions).isSome = true

section Again
variable {s t u p : Platform} {topic : Topic} {environments : List EnvironmentInfoVo}

theorem serviceOf_listedClusters {db : Database} {infos : List EnvironmentInfoVo} {info : EnvironmentInfoVo}
    (member : info ∈ infos) {service : ZmsService} :
    serviceOf (listedClusters db infos) info.serviceId = some service ↔ service ∈ db.services.rows ∧
      info.serviceId = some service.id ∧ service.serverStatus = "ENABLE" ∧
      (Database.brokerTypeOf service.serverType).isSome = true := by
  have listed (other : ZmsService) : other ∈ listedClusters db infos ↔ other ∈ db.services.rows ∧
      (infos.map (·.serviceId)).contains (some other.id) = true ∧ other.serverStatus = "ENABLE" ∧
      (Database.brokerTypeOf other.serverType).isSome = true := by
    unfold listedClusters Database.listClustersByServiceIds
    rw [if_neg fun none_named => List.ne_nil_of_mem member (List.map_eq_nil_iff.mp none_named)]
    change other ∈ List.filter _ _ ↔ _
    simp only [List.mem_filter, Bool.and_eq_true, decide_eq_true_eq, and_assoc]
  constructor
  · intro found
    have chosen := List.find?_some found
    have same : info.serviceId = some service.id := (of_decide_eq_true chosen).symm
    obtain ⟨isRow, _, enabled, typed⟩ := (listed service).mp (List.mem_of_find?_eq_some found)
    exact ⟨isRow, same, enabled, typed⟩
  · rintro ⟨isRow, same, enabled, typed⟩
    have among := (listed service).mpr ⟨isRow, by
      rw [List.contains_iff_mem, ← same]
      exact List.mem_map_of_mem member, enabled, typed⟩
    cases found : serviceOf (listedClusters db infos) info.serviceId with
    | none =>
      have other := List.find?_eq_none.mp found service among
      rw [same] at other
      simp at other
    | some other =>
      have chosen := List.find?_some found
      have ids : some other.id = info.serviceId := of_decide_eq_true chosen
      have isRow' := ((listed other).mp (List.mem_of_find?_eq_some found)).1
      rw [same] at ids
      rw [List.inj_on_of_nodup_map db.services.keys isRow' isRow (Option.some.inj ids)]

theorem serves_iff {infos : List EnvironmentInfoVo} : Serves u topic infos ↔
    (infos.map (·.environmentId)).Nodup ∧
      ∀ info ∈ infos, Usable u.brokerTypes (listedClusters u.db infos) topic u.brokers info := by
  constructor
  · intro serves
    refine ⟨serves.distinct, fun info member => ?_⟩
    obtain ⟨service, isRow, same, enabled, named, rest⟩ := serves.usable info member
    exact ⟨service, (serviceOf_listedClusters member).mpr ⟨isRow, same, enabled, named⟩, rest⟩
  · rintro ⟨distinct, usable⟩
    refine ⟨distinct, fun info member => ?_⟩
    obtain ⟨service, found, rest⟩ := usable info member
    obtain ⟨isRow, same, enabled, named⟩ := (serviceOf_listedClusters member).mp found
    exact ⟨service, isRow, same, enabled, named, rest⟩

theorem fresh_of_newEnvs (db : Database) (topic : Topic) (environments : List EnvironmentInfoVo) :
    ∀ info ∈ newEnvs db topic.id environments,
    refAt db topic info.environmentId = none :=
  fun _ member => Option.isNone_iff_eq_none.mp (List.mem_filter.mp member).2

theorem mem_syncSteps {step : PlatformRows → Option PlatformRows} (member : some step ∈ syncSteps p topic environments) :
    step = some ∨ (∃ info, insertStep topic.id info = some step) ∨
      ∃ info ∈ newEnvs p.db topic.id environments, some step ∈ nextSteps p.brokerTypes topic (p.replication topic.id)
        (listedClusters p.db (newEnvs p.db topic.id environments)) info := by
  unfold syncSteps at member
  obtain reads | member := List.mem_cons.mp member
  · exact .inl (Option.some.inj reads)
  obtain reads | member := List.mem_cons.mp member
  · exact .inl (Option.some.inj reads)
  split at member
  · cases List.mem_singleton.mp member
  obtain reads | member := List.mem_cons.mp member
  · exact .inl (Option.some.inj reads)
  obtain inserts | asks := List.mem_append.mp member
  · obtain ⟨info, _, is_step⟩ := List.mem_map.mp inserts
    exact .inr (.inl ⟨info, is_step⟩)
  · obtain ⟨info, isNew, asked⟩ := List.mem_flatMap.mp asks
    exact .inr (.inr ⟨info, isNew, asked⟩)

theorem kept_of_sync (found : p.db.topics.get topic.id = some topic) (environments : List EnvironmentInfoVo) :
    (syncTopic topic.id environments p).2.db.topics = p.db.topics ∧
      (syncTopic topic.id environments p).2.db.services = p.db.services := by
  rw [syncTopic_eq found]
  have each {α : Type} (f : Database → α) (blind : ∀ db refs, f (db.setRefs .TOPIC refs) = f db) :
      f (asking.perform (syncSteps p topic environments) p).2.db = f p.db := by
    have : IsPreorder PlatformRows fun u v => f v.db = f u.db :=
      { refl := fun _ => rfl, trans := fun _ _ _ first second => second.trans first }
    refine Asking.related_of_perform (A := asking) (fun u v => f v.db = f u.db) ?_ p
    intro step member u v taken
    obtain rfl | ⟨info, is_step⟩ | ⟨info, _, asked⟩ := mem_syncSteps member
    · cases taken
      rfl
    · cases is_step
      obtain ⟨db, inserted, rfl⟩ := Option.map_eq_some_iff.mp taken
      obtain ⟨refs, _, rfl⟩ := Option.map_eq_some_iff.mp inserted
      exact blind ..
    · obtain ⟨_, _, rfl | rfl | rfl⟩ := mem_nextSteps asked
      · obtain ⟨_, _, _, _, rfl⟩ := brokerStep_eq_some taken
        rfl
      · cases taken
        rfl
      · cases taken
        exact blind ..
  exact ⟨each Database.topics fun _ _ => rfl, each Database.services fun _ _ => rfl⟩

theorem ref_of_sync (found : p.db.topics.get topic.id = some topic) {env : EnvId} {ref : EnvironmentRef}
    (there : refAt p.db topic env = some ref) :
    refAt (syncTopic topic.id environments p).2.db topic env = some ref := by
  rw [syncTopic_eq found]
  refine Asking.related_of_perform (A := asking) (KeepsRef topic env) ?_ p ref there
  intro step member u v taken
  obtain rfl | ⟨info, is_step⟩ | ⟨info, isNew, asked⟩ := mem_syncSteps member
  · cases taken
    exact fun _ found => found
  · exact keepsRef_insertStep is_step taken
  · refine (sameIn_nextSteps (fun here => ?_) asked taken).keepsRef
    have missing := fresh_of_newEnvs _ _ _ info isNew
    rw [here, there] at missing
    cases missing

theorem syncSteps_of_some (some_new : newEnvs p.db topic.id environments ≠ []) :
    syncSteps p topic environments = [some some, some some, some some] ++
      environmentSteps p.brokerTypes topic (p.replication topic.id)
        (listedClusters p.db (newEnvs p.db topic.id environments)) (newEnvs p.db topic.id environments) := by
  unfold syncSteps
  rw [if_neg some_new]
  rfl

/-- A synchronisation that throws has changed nothing, or has left a reference without a cluster. -/
theorem sync_throws (found : p.db.topics.get topic.id = some topic) (some_new : newEnvs p.db topic.id environments ≠ [])
    (throws : syncTopic topic.id environments p = (none, t)) :
    ((∃ i < 4, p.answers i = false) ∧ t.rows = p.rows) ∨ ((∀ i < 4, p.answers i = true) ∧
      ∃ info ∈ newEnvs p.db topic.id environments,
        refAt t.db topic info.environmentId = some (.plain topic.id info.environmentId none)) := by
  rw [syncTopic_eq found, syncSteps_of_some some_new] at throws
  obtain ⟨k, stops⟩ := Asking.stops_of_perform throws
  have fresh := fresh_of_newEnvs p.db topic environments
  generalize newEnvs p.db topic.id environments = infos at *
  by_cases early : k < 4
  · left
    constructor
    · refine ⟨k, early, ?_⟩
      by_contra answered
      have stuck := stops.past (Bool.eq_true_of_not_eq_false answered) early
      obtain ⟨info, rest, rfl⟩ := List.exists_cons_of_ne_nil some_new
      obtain ⟨db, inserted⟩ := Option.isSome_iff_exists.mp
        ((insertRefs_isSome_iff p.db info.environmentId).mpr (fresh info List.mem_cons_self))
      have first : statementStep (fun db => db.insertRefs .TOPIC [.plain topic.id info.environmentId none]) p.rows =
          some { p.rows with db } := Option.map_eq_some_iff.mpr ⟨db, inserted, rfl⟩
      have stuck : (statementStep (fun db => db.insertRefs .TOPIC [.plain topic.id info.environmentId none])
          p.rows).bind some = none := stuck
      rw [first] at stuck
      cases stuck
    · have done := stops.done
      rw [List.take_append_of_le_length (Nat.le_of_lt_succ early)] at done
      match k, early with
      | 0, _ | 1, _ | 2, _ | 3, _ => exact (Option.some.inj done).symm
  · right
    refine ⟨fun i below => stops.passed i (by omega), ?_⟩
    obtain ⟨m, rfl⟩ : ∃ m, k = [(some some : Step PlatformRows), some some, some some].length + (m + 1) :=
      ⟨k - 4, by change k = 3 + _; omega⟩
    have done := stops.done
    have below := stops.below
    rw [List.take_length_add_append, applied_append] at done
    rw [List.length_append] at below
    exact ref_left some_new fresh (by omega) done

theorem created_iff (found : u.db.topics.get topic.id = some topic) (answered : ∀ n, u.answers n = true)
    (some_new : newEnvs u.db topic.id environments ≠ []) :
    (∀ info ∈ newEnvs u.db topic.id environments, ∃ service,
      Created (syncTopic topic.id environments u).2 topic info.environmentId service) ↔
        Serves u topic (newEnvs u.db topic.id environments) := by
  have fresh := fresh_of_newEnvs u.db topic environments
  have services := (kept_of_sync found environments).2
  have possible : (applied (environmentSteps u.brokerTypes topic (u.replication topic.id)
      (listedClusters u.db (newEnvs u.db topic.id environments)) (newEnvs u.db topic.id environments)) u.rows).isSome =
      true ↔ _ := applied_environmentSteps_iff fresh
  refine Iff.trans ?_ (possible.trans serves_iff.symm)
  have run := syncTopic_eq found environments
  rw [syncSteps_of_some some_new] at run
  cases ends : syncTopic topic.id environments u with
  | mk answer v =>
    rw [ends] at run services
    cases answer with
    | none =>
      refine iff_of_false (fun all => ?_) fun done => ?_
      · obtain ⟨⟨i, _, refused⟩, _⟩ | ⟨_, info, member, left⟩ := sync_throws found some_new ends
        · rw [answered i] at refused
          cases refused
        · obtain ⟨service, created⟩ := all info member
          obtain ⟨ref, there, served⟩ := created.ref
          cases left.symm.trans there
          cases served
      · have returns := (Asking.returns_iff (A := asking) answered).mpr
          (show (applied ([some some, some some, some some] ++ _) u.rows).isSome = true from done)
        have returns : (asking.perform ([some some, some some, some some] ++ environmentSteps u.brokerTypes topic
            (u.replication topic.id) (listedClusters u.db (newEnvs u.db topic.id environments))
            (newEnvs u.db topic.id environments)) u).1 = some () := returns
        rw [← run] at returns
        cases returns
    | some _ =>
      have all := Asking.applied_of_perform run.symm
      refine iff_of_true (fun info member => ?_) (Option.isSome_of_eq_some all)
      obtain ⟨service, listed, placed⟩ := placed_of_environmentSteps fresh all info member
      obtain ⟨isRow, _⟩ := (serviceOf_listedClusters member).mp listed
      refine ⟨service, services.symm ▸ isRow, ⟨_, placed.ref, rfl⟩, ?_, placed.broker⟩
      exact congrArg (Option.map (·.clusterName)) placed.node

theorem newEnvs_of_again (again : Again t u) (same : t.rows = s.rows) :
    newEnvs u.db topic.id environments = newEnvs s.db topic.id environments := by
  unfold newEnvs
  rw [again.refs, show t.db = s.db from congrArg PlatformRows.db same]

theorem found_of_again (found : s.db.topics.get topic.id = some topic)
    (throws : syncTopic topic.id environments s = (none, t)) (again : Again t u) :
    u.db.topics.get topic.id = some topic := by
  have kept := (kept_of_sync found environments).1
  rw [throws] at kept
  rw [again.topics, show t.db.topics = s.db.topics from kept]
  exact found

theorem refAt_of_again (again : Again t u) (env : EnvId) : refAt u.db topic env = refAt t.db topic env := by
  unfold refAt
  rw [again.refs]

/-- The call repaired what its first try left. -/
def SyncRepairs (topic : Topic) (environments : List EnvironmentInfoVo) (s u : Platform) : Prop :=
  ∀ info ∈ newEnvs s.db topic.id environments, ∃ service,
    Created (syncTopic topic.id environments u).2 topic info.environmentId service

theorem syncRepairs_iff (found : s.db.topics.get topic.id = some topic)
    (throws : syncTopic topic.id environments s = (none, t)) (again : Again t u) :
    SyncRepairs topic environments s u ↔ newEnvs s.db topic.id environments = [] ∨
      (∃ i < 4, s.answers i = false) ∧ Serves u topic (newEnvs s.db topic.id environments) := by
  unfold SyncRepairs
  by_cases nothing : newEnvs s.db topic.id environments = []
  · rw [nothing]
    exact iff_of_true (fun _ impossible => by cases impossible) (.inl rfl)
  rw [or_iff_right nothing]
  have there := found_of_again found throws again
  obtain ⟨early, same⟩ | ⟨begun, info, member, left⟩ := sync_throws found nothing throws
  · have envs : newEnvs u.db topic.id environments = newEnvs s.db topic.id environments := newEnvs_of_again again same
    rw [and_iff_right early, ← envs]
    exact created_iff there again.answered (by rwa [envs])
  · refine iff_of_false (fun all => ?_) fun both => ?_
    · obtain ⟨service, created⟩ := all info member
      obtain ⟨ref, stored, served⟩ := created.ref
      have kept : refAt (syncTopic topic.id environments u).2.db topic info.environmentId = some _ :=
        ref_of_sync there ((refAt_of_again again _).trans left)
      cases kept.symm.trans stored
      cases served
    · obtain ⟨i, below, refused⟩ := both.1
      rw [begun i below] at refused
      cases refused

/-! ### By the metadata -/

/-- The request of an environment for itself. -/
def ownInfo (env : EnvId) (cluster : ZmsService) : EnvironmentInfoVo := ⟨env, some cluster.id, none, none⟩

theorem newEnvs_singleton {info : EnvironmentInfoVo} (missing : refAt u.db topic info.environmentId = none) :
    newEnvs u.db topic.id [info] = [info] :=
  List.filter_eq_self.mpr fun other member => by
    rw [List.mem_singleton.mp member]
    exact Option.isNone_iff_eq_none.mpr missing

theorem backup_of_answered {dto : BackupTopicMetadataDTO} (answered : ∀ n, u.answers n = true) :
    backupTopicMetadata dto u = match u.db.getByTopicName dto.topic with
      | none => (none, asking.next u)
      | some topic => match u.db.getByEnvIdAndName dto.currentEnvId dto.clusterName with
        | none => (none, asking.next (asking.next u))
        | some cluster =>
            if refAt u.db topic dto.currentEnvId = none then
              syncTopic topic.id [ownInfo dto.currentEnvId cluster] (asking.next (asking.next (asking.next u)))
            else (some (), asking.next (asking.next (asking.next u))) := by
  unfold backupTopicMetadata
  rw [bind_of_returns (onPortal_eq (query_of_answered (answered 0)))]
  cases named : u.db.getByTopicName dto.topic with
  | none => rfl
  | some topic =>
    rw [ofOption_bind, bind_of_returns (onPortal_eq (query_of_answered (answered 1)))]
    change (ofOption (u.db.getByEnvIdAndName dto.currentEnvId dto.clusterName) >>= _) _ = _
    dsimp only
    cases u.db.getByEnvIdAndName dto.currentEnvId dto.clusterName with
    | none => rfl
    | some cluster =>
      rw [ofOption_bind, bind_of_returns (onPortal_eq (query_of_answered (answered 2)))]
      have unlisted : dto.currentEnvId ∉ (u.db.listByTopicId [topic.id]).map (·.environmentId) ↔
          refAt u.db topic dto.currentEnvId = none := by
        rw [mem_localEnvs_iff, Option.not_isSome_iff_eq_none]
        exact Iff.rfl
      by_cases missing : refAt u.db topic dto.currentEnvId = none
      · exact (congrFun (if_pos (unlisted.mpr missing)) _).trans (if_pos missing).symm
      · exact (congrFun (if_neg fun not_listed => missing (unlisted.mp not_listed)) _).trans (if_neg missing).symm

theorem getByTopicName_eq (found : u.db.topics.get topic.id = some topic) :
    u.db.getByTopicName topic.name = if 0 ≤ topic.status then some topic else none := by
  have isRow := (Table.get_eq_some_iff.mp found).1
  have only {row : Topic} (member : row ∈ u.db.topics.rows) (same : row.name = topic.name) : row = topic :=
    List.inj_on_of_nodup_map u.db.topics.names member isRow same
  cases chosen : u.db.getByTopicName topic.name with
  | some row =>
    have named := List.find?_some chosen
    simp only [Bool.and_eq_true, decide_eq_true_eq] at named
    obtain rfl := only (List.mem_of_find?_eq_some chosen) named.1
    rw [if_pos named.2]
  | none =>
    rw [if_neg]
    intro open_
    have other := List.find?_eq_none.mp chosen topic isRow
    simp [open_] at other

/-- A backup of the metadata repaired what a first try left in one environment. -/
def BackupRepairs (topic : Topic) (info : EnvironmentInfoVo) (clusterName : String) (u : Platform) : Prop :=
  ∃ service, Created (backupTopicMetadata ⟨topic.name, info.environmentId, clusterName⟩ u).2 topic
    info.environmentId service

theorem not_created_of_ref {ref : EnvironmentRef} {env : EnvId} {service : ZmsService}
    (there : refAt p.db topic env = some ref) (waiting : ref.serviceId = none) : ¬Created p topic env service := by
  intro created
  obtain ⟨other, stored, served⟩ := created.ref
  cases there.symm.trans stored
  rw [waiting] at served
  cases served

theorem not_created_of_missing {env : EnvId} {service : ZmsService} (missing : refAt p.db topic env = none) :
    ¬Created p topic env service := by
  intro created
  obtain ⟨_, stored, _⟩ := created.ref
  cases missing.symm.trans stored

/-- Where the environment has no reference yet, a backup is a synchronisation with its own cluster. -/
theorem backupRepairs_iff_of_missing {info : EnvironmentInfoVo} (found : u.db.topics.get topic.id = some topic)
    (answered : ∀ n, u.answers n = true) (missing : refAt u.db topic info.environmentId = none) (clusterName : String) :
    BackupRepairs topic info clusterName u ↔ 0 ≤ topic.status ∧ ∃ cluster,
      u.db.getByEnvIdAndName info.environmentId clusterName = some cluster ∧
        Serves u topic [ownInfo info.environmentId cluster] := by
  unfold BackupRepairs
  rw [backup_of_answered answered]
  dsimp only
  rw [getByTopicName_eq found]
  by_cases open_ : 0 ≤ topic.status
  case neg =>
    rw [if_neg open_]
    refine iff_of_false (fun ⟨_, created⟩ => ?_) fun both => open_ both.1
    exact not_created_of_missing (p := asking.next u) missing created
  rw [if_pos open_, and_iff_right open_]
  cases named : u.db.getByEnvIdAndName info.environmentId clusterName with
  | none =>
    refine iff_of_false (fun ⟨_, created⟩ => ?_) ?_
    · exact not_created_of_missing (p := asking.next (asking.next u)) missing created
    · rintro ⟨_, impossible, _⟩
      cases impossible
  | some cluster =>
    dsimp only
    rw [if_pos missing]
    have own : newEnvs u.db topic.id [ownInfo info.environmentId cluster] = [ownInfo info.environmentId cluster] :=
      newEnvs_singleton missing
    have asked : (∀ item ∈ newEnvs u.db topic.id [ownInfo info.environmentId cluster], ∃ service,
        Created (syncTopic topic.id [ownInfo info.environmentId cluster]
          (asking.next (asking.next (asking.next u)))).2 topic item.environmentId service) ↔
        Serves (asking.next (asking.next (asking.next u))) topic
          (newEnvs u.db topic.id [ownInfo info.environmentId cluster]) := by
      apply created_iff (u := asking.next (asking.next (asking.next u))) found
      · exact fun n => answered (n + 1 + 1 + 1)
      · change newEnvs u.db topic.id _ ≠ []
        rw [own]
        exact List.cons_ne_nil _ _
    rw [own, List.forall_mem_singleton] at asked
    refine asked.trans ⟨fun serves => ⟨cluster, rfl, serves.distinct, serves.usable⟩, ?_⟩
    rintro ⟨_, same, serves⟩
    cases same
    exact ⟨serves.distinct, serves.usable⟩

theorem db_of_backup {env : EnvId} (found : u.db.topics.get topic.id = some topic) (answered : ∀ n, u.answers n = true)
    (present : refAt u.db topic env ≠ none) (clusterName : String) :
    (backupTopicMetadata ⟨topic.name, env, clusterName⟩ u).2.db = u.db := by
  rw [backup_of_answered answered]
  dsimp only
  rw [getByTopicName_eq found]
  by_cases open_ : 0 ≤ topic.status
  · rw [if_pos open_]
    cases u.db.getByEnvIdAndName env clusterName with
    | none => rfl
    | some cluster =>
      dsimp only
      rw [if_neg present]
      rfl
  · rw [if_neg open_]
    rfl

/-- Both ways to try again: a first try that has come to its second environment, or has inserted the
first reference, leaves an environment that neither of them completes. -/
theorem repairs_iff {id : Int} (found : s.db.topics.get id = some topic)
    (throws : syncTopic id environments s = (none, t)) (again : Again t u) :
    (SyncRepairs topic environments s u ↔ newEnvs s.db id environments = [] ∨
      (∃ i < 4, s.answers i = false) ∧ Serves u topic (newEnvs s.db id environments)) ∧
    ∀ info, environments = [info] → refAt s.db topic info.environmentId = none → ∀ clusterName,
      (BackupRepairs topic info clusterName u ↔ (∃ i < 4, s.answers i = false) ∧ 0 ≤ topic.status ∧ ∃ cluster,
        u.db.getByEnvIdAndName info.environmentId clusterName = some cluster ∧
          Serves u topic [ownInfo info.environmentId cluster]) := by
  obtain rfl : topic.id = id := (Table.get_eq_some_iff.mp found).2
  refine ⟨syncRepairs_iff found throws again, ?_⟩
  rintro info rfl missing clusterName
  have there := found_of_again found throws again
  have own : newEnvs s.db topic.id [info] = [info] := newEnvs_singleton missing
  have some_new : newEnvs s.db topic.id [info] ≠ [] := by
    rw [own]
    exact List.cons_ne_nil _ _
  obtain ⟨early, same⟩ | ⟨begun, other, member, left⟩ := sync_throws found some_new throws
  · have still : refAt u.db topic info.environmentId = none := by
      rw [refAt_of_again again, show t.db = s.db from congrArg PlatformRows.db same]
      exact missing
    rw [and_iff_right early]
    exact backupRepairs_iff_of_missing there again.answered still clusterName
  · rw [own, List.mem_singleton] at member
    subst member
    refine iff_of_false ?_ fun both => ?_
    · rintro ⟨service, created⟩
      have stored : refAt u.db topic other.environmentId = some (.plain topic.id other.environmentId none) :=
        (refAt_of_again again _).trans left
      have kept := db_of_backup there again.answered (by rw [stored]; exact Option.some_ne_none _) clusterName
      exact not_created_of_ref (by rw [kept]; exact stored) rfl created
    · obtain ⟨i, below, refused⟩ := both.1
      rw [begun i below] at refused
      cases refused

end Again

/-- A topic without environments, and a cluster in each of two; the request `failing` gets no answer. -/
def twoEnvironments (failing : Nat) : Platform where
  db :=
    { environments := [1, 2]
      services := .ofList [⟨⟨10, 1, "main", "KAFKA", false⟩, "ENABLE"⟩, ⟨⟨20, 2, "main", "KAFKA", false⟩, "ENABLE"⟩]
      topics := .ofList [⟨⟨1, "orders", CREATE_APPROVED⟩, "owner", some 4⟩]
      consumers := .ofList []
      refs _ := .ofList [] }
  nodes _ _ _ := none
  clusters _ name := some ⟨name, none, some .KAFKA, none⟩
  answers n := n ≠ failing
  brokers _ := none
  replication _ := 1
  rules := ⟨[], [], 1⟩

def bothEnvironments : List EnvironmentInfoVo := [⟨1, some 10, none, none⟩, ⟨2, some 20, none, none⟩]

theorem first_broker_refused : syncTopic 1 bothEnvironments (twoEnvironments 5) =
    (none, (syncTopic 1 bothEnvironments (twoEnvironments 5)).2) := Prod.ext (by decide) rfl

theorem again_answered (t : Platform) : Again t { t with answers := fun _ => true } :=
  ⟨rfl, rfl, rfl, rfl, fun _ => rfl⟩

/-- The brokers of the first environment fail, and the same call again does nothing. -/
theorem environments_left_out : ∃ topic t u, (twoEnvironments 5).db.topics.get 1 = some topic ∧
    syncTopic 1 bothEnvironments (twoEnvironments 5) = (none, t) ∧ Again t u ∧ Serves u topic bothEnvironments ∧
      ¬SyncRepairs topic bothEnvironments (twoEnvironments 5) u := by
  refine ⟨⟨⟨1, "orders", CREATE_APPROVED⟩, "owner", some 4⟩, _, _, by decide, first_broker_refused,
    again_answered _, ⟨by decide, ?_⟩, fun all => ?_⟩
  · intro info member
    obtain rfl | rfl : info = ⟨1, some 10, none, none⟩ ∨ info = ⟨2, some 20, none, none⟩ := by
      simpa [bothEnvironments] using member
    · exact ⟨⟨⟨10, 1, "main", "KAFKA", false⟩, "ENABLE"⟩, by decide, rfl, rfl, by decide, .KAFKA, rfl, 4, rfl, by decide⟩
    · exact ⟨⟨⟨20, 2, "main", "KAFKA", false⟩, "ENABLE"⟩, by decide, rfl, rfl, by decide, .KAFKA, rfl, 4, rfl, by decide⟩
  · obtain ⟨service, made⟩ := all ⟨1, some 10, none, none⟩ (by decide)
    obtain ⟨ref, stored, served⟩ := made.ref
    have waiting : refAt (syncTopic 1 bothEnvironments
        { (syncTopic 1 bothEnvironments (twoEnvironments 5)).2 with answers := fun _ => true }).2.db
        ⟨⟨1, "orders", CREATE_APPROVED⟩, "owner", some 4⟩ 1 = some (.plain 1 1 none) := by decide
    cases waiting.symm.trans stored
    cases served

theorem repairs_iff_bothEnvironments :
    SyncRepairs ⟨⟨1, "orders", CREATE_APPROVED⟩, "owner", some 4⟩ bothEnvironments (twoEnvironments 5)
      { (syncTopic 1 bothEnvironments (twoEnvironments 5)).2 with answers := fun _ => true } ↔
      newEnvs (twoEnvironments 5).db 1 bothEnvironments = [] ∨ (∃ i < 4, (twoEnvironments 5).answers i = false) ∧
        Serves { (syncTopic 1 bothEnvironments (twoEnvironments 5)).2 with answers := fun _ => true }
          ⟨⟨1, "orders", CREATE_APPROVED⟩, "owner", some 4⟩ (newEnvs (twoEnvironments 5).db 1 bothEnvironments) :=
  (repairs_iff (by decide) first_broker_refused (again_answered _)).1

end Zms.Portal.Brokers
