import Mathlib
import Zms.Portal.MigrationService

/-! What the three calls come to: one migration each, of a list of topics or
consumers, and what the attempts at one name do to its node.
-/

set_option autoImplicit false

namespace Zms.Portal.MigrationService

open Zms.Registry

/-- What a call goes through. -/
structure Migration where
  type : ZmsType
  context : Option EnvId
  targetCluster : String
  items : List Selected

/-- The outcomes of the attempts at one name, from the `i`-th attempt on. -/
def attemptsAt (attempt : Nat → Bool) (name : String) : Nat → List Selected → List Bool
  | _, [] => []
  | i, item :: rest =>
      if item.name = name then attempt i :: attemptsAt attempt name (i + 1) rest
      else attemptsAt attempt name (i + 1) rest

section Loop
variable {rewrite : String → Option Properties → Option Properties} {attempt : Nat → Bool}

/-- A second rewrite changes nothing. -/
def Steady (rewrite : String → Option Properties → Option Properties) : Prop :=
  ∀ name data first second, rewrite name data = some first → rewrite name (some first) = some second →
    second = first

/-- One of the attempts at a name fails: by its requests, because the node
cannot be read, or because it cannot be read again. -/
def Fails (rewrite : String → Option Properties → Option Properties) (name : String) (data : Option Properties)
    (attempts : List Bool) : Prop :=
  false ∈ attempts ∨ (attempts ≠ [] ∧ rewrite name data = none) ∨
    (1 < attempts.length ∧ ∃ properties, rewrite name data = some properties ∧ rewrite name (some properties) = none)

/-- One of the attempts at a name rewrites its node. -/
def Passes (rewrite : String → Option Properties → Option Properties) (name : String) (data : Option Properties)
    (attempts : List Bool) : Prop :=
  true ∈ attempts ∧ (rewrite name data).isSome

instance (name : String) (data : Option Properties) (attempts : List Bool) :
    Decidable (Passes rewrite name data attempts) :=
  inferInstanceAs (Decidable (_ ∧ _))

/-- What the attempts at a name leave in its node. -/
def settled (rewrite : String → Option Properties → Option Properties) (name : String) (data : Option Properties)
    (attempts : List Bool) : Option Properties :=
  if true ∈ attempts then (rewrite name data).or data else data

theorem settled_of_passes {name : String} {data : Option Properties} {attempts : List Bool}
    (passes : Passes rewrite name data attempts) : settled rewrite name data attempts = rewrite name data := by
  obtain ⟨properties, written⟩ := Option.isSome_iff_exists.mp passes.2
  unfold settled
  rw [if_pos passes.1, written, Option.some_or]

theorem settled_of_not_passes {name : String} {data : Option Properties} {attempts : List Bool}
    (fails : ¬Passes rewrite name data attempts) : settled rewrite name data attempts = data := by
  unfold settled
  split
  · next outcome =>
      cases written : rewrite name data with
      | none => exact Option.none_or
      | some properties => exact absurd ⟨outcome, Option.isSome_iff_exists.mpr ⟨properties, written⟩⟩ fails
  · rfl

theorem settled_next (steady : Steady rewrite) {name : String} {data : Option Properties} {properties : Properties}
    (written : rewrite name data = some properties) (attempts : List Bool) :
    settled rewrite name (some properties) attempts = settled rewrite name data (true :: attempts) := by
  unfold settled
  rw [if_pos List.mem_cons_self, written, Option.some_or]
  split
  · cases again : rewrite name (some properties) with
    | none => exact Option.none_or
    | some second =>
        rw [steady _ _ _ _ written again]
        exact Option.some_or
  · rfl

theorem mem_attemptsAt {name : String} {b : Bool} {i : Nat} {items : List Selected} :
    b ∈ attemptsAt attempt name i items → ∃ item ∈ items, item.name = name := by
  intro member
  induction items generalizing i with
  | nil => cases member
  | cons item rest ih =>
      unfold attemptsAt at member
      split at member
      · next same => exact ⟨item, List.mem_cons_self, same⟩
      · obtain ⟨found, member, same⟩ := ih member
        exact ⟨found, List.mem_cons_of_mem item member, same⟩

theorem attemptsAt_ne_nil {item : Selected} {i : Nat} {items : List Selected} (member : item ∈ items) :
    attemptsAt attempt item.name i items ≠ [] := by
  induction items generalizing i with
  | nil => cases member
  | cons first rest ih =>
      unfold attemptsAt
      obtain rfl | member := List.mem_cons.mp member
      · rw [if_pos rfl]
        exact List.cons_ne_nil _ _
      · split
        · exact List.cons_ne_nil _ _
        · exact ih member

theorem fails_next (steady : Steady rewrite) {name : String} {data : Option Properties} {properties : Properties}
    (written : rewrite name data = some properties) (attempts : List Bool) :
    Fails rewrite name (some properties) attempts ↔ Fails rewrite name data (true :: attempts) := by
  unfold Fails
  cases again : rewrite name (some properties) with
  | none =>
      cases attempts with
      | nil => simp [written]
      | cons first rest => simp [written, again]
  | some second =>
      obtain rfl := steady _ _ _ _ written again
      simp [written, again]

theorem migrateNext_cases (rewrite : String → Option Properties → Option Properties) (succeeds : Bool)
    (item : Selected) (progress : Progress) :
    (∃ properties, succeeds = true ∧ rewrite item.name (progress.nodes item.name) = some properties ∧
      migrateNext rewrite succeeds item progress =
        ⟨Function.update progress.nodes item.name (some properties), progress.success ++ [item],
          progress.failed⟩) ∨
    ((succeeds = false ∨ rewrite item.name (progress.nodes item.name) = none) ∧
      migrateNext rewrite succeeds item progress =
        ⟨progress.nodes, progress.success, progress.failed ++ [item.name]⟩) := by
  unfold migrateNext
  cases succeeds with
  | false => exact Or.inr ⟨Or.inl rfl, rfl⟩
  | true =>
      cases written : rewrite item.name (progress.nodes item.name) with
      | none => exact Or.inr ⟨Or.inr rfl, rfl⟩
      | some properties => exact Or.inl ⟨properties, rfl, rfl, rfl⟩

theorem migrateFrom_nodes (steady : Steady rewrite) (name : String) (i : Nat) (items : List Selected)
    (progress : Progress) :
    (migrateFrom rewrite attempt i items progress).nodes name =
      settled rewrite name (progress.nodes name) (attemptsAt attempt name i items) := by
  induction items generalizing i progress with
  | nil => simp [migrateFrom, attemptsAt, settled]
  | cons item rest ih =>
      unfold migrateFrom attemptsAt
      rw [ih]
      obtain ⟨properties, outcome, written, next⟩ | ⟨broken, next⟩ :=
        migrateNext_cases rewrite (attempt i) item progress
      · rw [next]
        dsimp only
        by_cases same : item.name = name
        · subst same
          rw [if_pos rfl, Function.update_self, outcome, settled_next steady written]
        · rw [if_neg same, Function.update_of_ne (Ne.symm same)]
      · rw [next]
        dsimp only
        by_cases same : item.name = name
        · subst same
          rw [if_pos rfl]
          obtain outcome | unread := broken
          · simp [settled, outcome]
          · simp [settled, unread]
        · rw [if_neg same]

theorem mem_failed_migrateFrom (steady : Steady rewrite) (name : String) (i : Nat) (items : List Selected)
    (progress : Progress) :
    name ∈ (migrateFrom rewrite attempt i items progress).failed ↔
      name ∈ progress.failed ∨ Fails rewrite name (progress.nodes name) (attemptsAt attempt name i items) := by
  induction items generalizing i progress with
  | nil => simp [migrateFrom, attemptsAt, Fails]
  | cons item rest ih =>
      unfold migrateFrom attemptsAt
      rw [ih]
      obtain ⟨properties, outcome, written, next⟩ | ⟨broken, next⟩ :=
        migrateNext_cases rewrite (attempt i) item progress
      · rw [next]
        dsimp only
        by_cases same : item.name = name
        · subst same
          rw [if_pos rfl, Function.update_self, outcome, fails_next steady written]
        · rw [if_neg same, Function.update_of_ne (Ne.symm same)]
      · rw [next]
        dsimp only
        by_cases same : item.name = name
        · subst same
          rw [if_pos rfl]
          apply iff_of_true
          · exact Or.inl (List.mem_append_right _ List.mem_cons_self)
          · right
            obtain outcome | unread := broken
            · rw [outcome]
              exact Or.inl List.mem_cons_self
            · exact Or.inr (Or.inl ⟨List.cons_ne_nil _ _, unread⟩)
        · rw [if_neg same]
          simp only [List.mem_append, List.mem_singleton, Ne.symm same, or_false]

theorem mem_success_migrateFrom (item : Selected) (i : Nat) (items : List Selected)
    (unique : ∀ other ∈ items, other.name = item.name → other = item) (progress : Progress) :
    item ∈ (migrateFrom rewrite attempt i items progress).success ↔
      item ∈ progress.success ∨
        Passes rewrite item.name (progress.nodes item.name) (attemptsAt attempt item.name i items) := by
  induction items generalizing i progress with
  | nil => simp [migrateFrom, attemptsAt, Passes]
  | cons first rest ih =>
      unfold migrateFrom attemptsAt
      rw [ih (i + 1) (fun other member => unique other (List.mem_cons_of_mem first member))]
      obtain ⟨properties, outcome, written, next⟩ | ⟨broken, next⟩ :=
        migrateNext_cases rewrite (attempt i) first progress
      · rw [next]
        dsimp only
        by_cases same : first.name = item.name
        · obtain rfl := unique first List.mem_cons_self same
          rw [if_pos rfl, outcome]
          apply iff_of_true
          · exact Or.inl (List.mem_append_right _ List.mem_cons_self)
          · right
            exact ⟨List.mem_cons_self, Option.isSome_iff_exists.mpr ⟨properties, written⟩⟩
        · have other : item ≠ first := fun equal => same (congrArg Selected.name equal).symm
          rw [if_neg same, Function.update_of_ne (Ne.symm same)]
          simp only [List.mem_append, List.mem_singleton, other, or_false]
      · rw [next]
        dsimp only
        by_cases same : first.name = item.name
        · obtain rfl := unique first List.mem_cons_self same
          rw [if_pos rfl]
          apply or_congr_right
          obtain outcome | unread := broken
          · simp [Passes, outcome]
          · simp [Passes, unread]
        · rw [if_neg same]

theorem success_subset (i : Nat) (items : List Selected) (progress : Progress) {item : Selected}
    (member : item ∈ (migrateFrom rewrite attempt i items progress).success) :
    item ∈ progress.success ∨ item ∈ items := by
  induction items generalizing i progress with
  | nil => exact Or.inl member
  | cons first rest ih =>
      unfold migrateFrom at member
      obtain known | member := ih (i + 1) _ member
      · obtain ⟨properties, -, -, next⟩ | ⟨-, next⟩ := migrateNext_cases rewrite (attempt i) first progress
        · rw [next] at known
          obtain known | new := List.mem_append.mp known
          · exact Or.inl known
          · rw [List.mem_singleton.mp new]
            exact Or.inr List.mem_cons_self
        · rw [next] at known
          exact Or.inl known
      · exact Or.inr (List.mem_cons_of_mem first member)

theorem success_migrateFrom (i : Nat) (items : List Selected) (distinct : (items.map (·.name)).Nodup)
    (progress : Progress) :
    (migrateFrom rewrite attempt i items progress).success = progress.success ++
      items.filter fun item =>
        Passes rewrite item.name (progress.nodes item.name) (attemptsAt attempt item.name i items) := by
  induction items generalizing i progress with
  | nil => exact (List.append_nil _).symm
  | cons item rest ih =>
      rw [List.map_cons, List.nodup_cons] at distinct
      have others : ∀ other ∈ rest, item.name ≠ other.name := by
        intro other member same
        exact distinct.1 (same ▸ List.mem_map_of_mem member)
      have alone : attemptsAt attempt item.name i (item :: rest) =
          attempt i :: attemptsAt attempt item.name (i + 1) rest := if_pos rfl
      have outcomes : true ∉ attemptsAt attempt item.name (i + 1) rest := by
        intro member
        obtain ⟨other, member, same⟩ := mem_attemptsAt member
        exact others other member same.symm
      unfold migrateFrom
      rw [ih (i + 1) distinct.2, List.filter_cons, alone]
      have rest_eq : (rest.filter fun other =>
            Passes rewrite other.name ((migrateNext rewrite (attempt i) item progress).nodes other.name)
              (attemptsAt attempt other.name (i + 1) rest)) =
          rest.filter fun other =>
            Passes rewrite other.name (progress.nodes other.name)
              (attemptsAt attempt other.name i (item :: rest)) := by
        apply List.filter_congr
        intro other member
        have kept : attemptsAt attempt other.name i (item :: rest) = attemptsAt attempt other.name (i + 1) rest :=
          if_neg (others other member)
        obtain ⟨properties, -, -, next⟩ | ⟨-, next⟩ := migrateNext_cases rewrite (attempt i) item progress
        · simp only [next, kept, Function.update_of_ne (others other member).symm]
        · simp only [next, kept]
      rw [rest_eq]
      obtain ⟨properties, outcome, written, next⟩ | ⟨broken, next⟩ :=
        migrateNext_cases rewrite (attempt i) item progress
      · rw [next, if_pos (by simp [Passes, outcome, written]), List.append_assoc]
        rfl
      · rw [next, if_neg]
        obtain outcome | unread := broken
        · simp [Passes, outcome, outcomes]
        · simp [Passes, unread]

end Loop

section Rewriting
variable {fold : Char → Char} {clusters : String → Option ClusterMetadata} {type : ZmsType} {targetCluster : String}
  {consumePosition : Option String} {name : String} {data : Option Properties} {properties : Properties}

/-- The data that a rewrite writes. -/
def rewritten (fold : Char → Char) (type : ZmsType) (targetCluster : String) (consumePosition : Option String)
    (read : Properties) : Properties where
  clusterName := targetCluster
  gatedIps := some (read.gatedIps.getD "")
  gatedCluster := some (if isNotBlank read.gatedCluster then read.gatedCluster.getD "" else "")
  statisticsLogger := none
  bindingTopic := if type = .TOPIC then none else some (valueOf read.bindingTopic)
  broadcast := if type = .TOPIC then none else some (valueOf read.broadcast)
  consumeFrom := if type = .TOPIC then none else some (consumeFrom fold consumePosition)
  suspend := if type = .TOPIC then none else some (valueOf read.suspend)

theorem rewrite_eq (written : rewrite fold clusters type targetCluster consumePosition name data = some properties) :
    ∃ read, data = some read ∧ properties = rewritten fold type targetCluster consumePosition read := by
  cases data with
  | none => cases written
  | some read =>
      refine ⟨read, rfl, ?_⟩
      obtain ⟨metadata, found, written⟩ := Option.bind_eq_some_iff.mp written
      have own := clusterName_of_readZkInfo found
      have gated := gatedClusterName_of_readZkInfo found
      obtain ⟨gatedIps, fields⟩ := fields_of_readZkInfo found
      obtain ⟨cluster, isCluster, -⟩ := Option.map_eq_some_iff.mp own
      unfold rewritten
      rw [← gated, ← gatedIps]
      cases type with
      | TOPIC =>
          simp only [buildTopicData, setClusterName, isCluster, Option.map_some] at written
          obtain rfl := Option.some.inj written
          rfl
      | CONSUMER_GRUOP =>
          obtain ⟨bindingTopic, broadcast, suspend⟩ := fields rfl
          rw [← bindingTopic, ← broadcast, ← suspend]
          simp only [buildConsumerGroupData, setClusterName, isCluster, Option.map_some] at written
          obtain rfl := Option.some.inj written
          rfl

theorem rewritten_again (read : Properties) :
    rewritten fold type targetCluster consumePosition (rewritten fold type targetCluster consumePosition read) =
      rewritten fold type targetCluster consumePosition read := by
  have gated : (if isNotBlank (some (if isNotBlank read.gatedCluster then read.gatedCluster.getD "" else ""))
      then (if isNotBlank read.gatedCluster then read.gatedCluster.getD "" else "") else "") =
      if isNotBlank read.gatedCluster then read.gatedCluster.getD "" else "" := by
    cases read.gatedCluster with
    | none => rfl
    | some name =>
        by_cases notBlank : isNotBlank (some name) = true
        · simp only [notBlank, if_true, Option.getD_some]
        · simp only [notBlank, Bool.false_eq_true, if_false, ite_self]
  unfold rewritten
  cases type with
  | TOPIC => simp only [if_true, Option.getD_some, gated]
  | CONSUMER_GRUOP => simp only [reduceCtorEq, if_false, valueOf_some, Option.getD_some, gated]

theorem rewrite_steady : Steady (rewrite fold clusters type targetCluster consumePosition) := by
  intro name data first second written again
  obtain ⟨read, -, rfl⟩ := rewrite_eq written
  obtain ⟨read', same, rfl⟩ := rewrite_eq again
  obtain rfl := Option.some.inj same
  exact rewritten_again read

end Rewriting

namespace Database
variable {db : Database}

theorem mem_selectTopicsByServiceId {serviceId : Int} {item : Selected} :
    item ∈ db.selectTopicsByServiceId serviceId ↔ item.clusterId = none ∧
      (∃ row ∈ (db.resources .TOPIC).rows, 0 < row.status ∧ row.id = item.id ∧ row.name = item.name) ∧
      ∃ ref ∈ (db.refs .TOPIC).rows, ref.resourceId = item.id ∧ ref.serviceId = some serviceId := by
  unfold selectTopicsByServiceId
  simp only [List.mem_flatMap, List.mem_map, List.mem_filter, decide_eq_true_eq, Bool.and_eq_true]
  constructor
  · intro ⟨row, ⟨member, status⟩, ref, ⟨own, sameId, sameService⟩, same⟩
    subst same
    exact ⟨rfl, ⟨row, member, status, rfl, rfl⟩, ref, own, sameId, sameService⟩
  · intro ⟨cluster, ⟨row, member, status, sameId, sameName⟩, ref, own, ownId, sameService⟩
    refine ⟨row, ⟨member, status⟩, ref, ⟨own, ownId.trans sameId.symm, sameService⟩, ?_⟩
    rw [sameId, sameName, ← cluster]

theorem mem_selectConsumersByServiceId {serviceId : Int} {item : Selected} :
    item ∈ db.selectConsumersByServiceId serviceId ↔ item.clusterId = none ∧
      (∃ row ∈ (db.resources .CONSUMER_GRUOP).rows, 0 < row.status ∧ row.id = item.id ∧ row.name = item.name) ∧
      ∃ ref ∈ (db.refs .CONSUMER_GRUOP).rows, ref.resourceId = item.id ∧ ref.serviceId = some serviceId := by
  unfold selectConsumersByServiceId
  simp only [List.mem_map, List.mem_filter, decide_eq_true_eq, Bool.and_eq_true, List.any_eq_true]
  constructor
  · intro ⟨row, ⟨member, status, ref, own, sameId, sameService⟩, same⟩
    subst same
    exact ⟨rfl, ⟨row, member, status, rfl, rfl⟩, ref, own, sameId, sameService⟩
  · intro ⟨cluster, ⟨row, member, status, sameId, sameName⟩, ref, own, ownId, sameService⟩
    refine ⟨row, ⟨member, status, ref, own, ownId.trans sameId.symm, sameService⟩, ?_⟩
    rw [sameId, sameName, ← cluster]

theorem mem_selectMigratedById {type : ZmsType} {ids : List Int} {envId : EnvId} {item : Selected} :
    item ∈ db.selectMigratedById type ids envId ↔ item.id ∈ ids ∧
      (∃ row ∈ (db.resources type).rows, 0 < row.status ∧ row.id = item.id ∧ row.name = item.name) ∧
      ∃ ref, (db.refs type).get (item.id, envId) = some ref ∧ ref.serviceId = item.clusterId := by
  unfold selectMigratedById
  simp only [List.mem_filterMap, List.mem_filter, decide_eq_true_eq, Bool.and_eq_true, Option.map_eq_some_iff,
    List.contains_iff_mem]
  constructor
  · intro selected
    obtain ⟨row, ⟨member, status, requested⟩, ref, found, same⟩ := selected
    subst same
    exact ⟨requested, ⟨row, member, status, rfl, rfl⟩, ref, found, rfl⟩
  · intro joined
    obtain ⟨requested, ⟨row, member, status, sameId, sameName⟩, ref, found, sameService⟩ := joined
    refine ⟨row, ⟨member, status, sameId ▸ requested⟩, ref, sameId ▸ found, ?_⟩
    rw [sameId, sameName, sameService]

theorem selectMigratedById_sublist (db : Database) (type : ZmsType) (ids : List Int) (envId : EnvId) :
    ((db.selectMigratedById type ids envId).map fun item => (item.id, item.name)).Sublist
      ((db.resources type).rows.map fun row => (row.id, row.name)) := by
  have sub (rows : List Resource) :
      ((rows.filterMap fun row => ((db.refs type).get (row.id, envId)).map fun ref =>
        (⟨row.id, row.name, ref.serviceId⟩ : Selected)).map fun item => (item.id, item.name)).Sublist
        (rows.map fun row => (row.id, row.name)) := by
    induction rows with
    | nil => exact List.Sublist.refl _
    | cons row rest ih =>
        cases found : (db.refs type).get (row.id, envId) with
        | none =>
            simp only [List.filterMap_cons, found, Option.map_none]
            exact ih.cons (row.id, row.name)
        | some ref =>
            simp only [List.filterMap_cons, found, Option.map_some]
            exact ih.cons_cons (row.id, row.name)
  exact (sub _).trans (List.filter_sublist.map _)

theorem names_selectMigratedById (type : ZmsType) (ids : List Int) (envId : EnvId) :
    ((db.selectMigratedById type ids envId).map (·.name)).Nodup := by
  have sub := (selectMigratedById_sublist db type ids envId).map Prod.snd
  rw [List.map_map, List.map_map] at sub
  exact List.Nodup.sublist sub (db.resources type).names

theorem ids_selectMigratedById (type : ZmsType) (ids : List Int) (envId : EnvId) :
    ((db.selectMigratedById type ids envId).map (·.id)).Nodup := by
  have sub := (selectMigratedById_sublist db type ids envId).map Prod.fst
  rw [List.map_map, List.map_map] at sub
  exact List.Nodup.sublist sub (db.resources type).keys

end Database

section Calls
variable (configured : EnvId → Bool) (fold : Char → Char) (outcomes : Outcomes) (s : State) (dto : MigrationDTO)

/-- The migration that a call goes through when it returns. -/
inductive Plans : Call → Migration → Prop
  | clusterTopics {srcClusterId : Int} {source target : ZmsServiceEntity} (named : dto.srcClusterId = some srcClusterId)
      (sourceFound : s.db.getServiceAndEnvById srcClusterId = some source)
      (targetFound : s.db.getServiceAndEnvById dto.targetClusterId = some target)
      (sameEnv : target.environmentId = source.environmentId)
      (sameType : equalsIgnoreCase fold target.serverType source.serverType = true)
      (created : outcomes.createTopic = true) :
      Plans .migrateClusterTopicZk
        ⟨.TOPIC, some target.environmentId, target.serverName, s.db.selectTopicsByServiceId srcClusterId⟩
  | clusterConsumers {srcClusterId : Int} {source target : ZmsServiceEntity}
      (named : dto.srcClusterId = some srcClusterId)
      (sourceFound : getById s.db.services.rows srcClusterId = some source)
      (targetFound : getById s.db.services.rows dto.targetClusterId = some target)
      (sameType : source.serverType = target.serverType) :
      Plans .migrateClusterConsumerZk
        ⟨.CONSUMER_GRUOP, dto.envId, target.serverName, s.db.selectConsumersByServiceId srcClusterId⟩
  | topics {target : ZmsServiceEntity} {items : List Selected}
      (targetFound : getById s.db.services.rows dto.targetClusterId = some target) (requested : dto.topics ≠ [])
      (selected : s.db.selectMigratedById .TOPIC dto.topics target.environmentId = items)
      (created : items = [] ∨ outcomes.createTopic = true) :
      Plans .migrateZk ⟨.TOPIC, some target.environmentId, target.serverName, items⟩
  | consumers {target : ZmsServiceEntity}
      (targetFound : getById s.db.services.rows dto.targetClusterId = some target) (requested : dto.topics = []) :
      Plans .migrateZk
        ⟨.CONSUMER_GRUOP, some target.environmentId, target.serverName,
          s.db.selectMigratedById .CONSUMER_GRUOP dto.consumers target.environmentId⟩

namespace Plans
variable {configured fold outcomes s dto} {request : Call} {migration : Migration}

theorem row (plans : Plans fold outcomes s dto request migration) {item : Selected}
    (member : item ∈ migration.items) :
    ∃ row ∈ (s.db.resources migration.type).rows, 0 < row.status ∧ row.id = item.id ∧ row.name = item.name := by
  cases plans with
  | clusterTopics => exact (Database.mem_selectTopicsByServiceId.mp member).2.1
  | clusterConsumers => exact (Database.mem_selectConsumersByServiceId.mp member).2.1
  | topics _ _ selected =>
      subst selected
      exact (Database.mem_selectMigratedById.mp member).2.1
  | consumers => exact (Database.mem_selectMigratedById.mp member).2.1

theorem clusterId (plans : Plans fold outcomes s dto request migration) {first second : Selected}
    (member : first ∈ migration.items) (member' : second ∈ migration.items) (same : first.id = second.id) :
    first.clusterId = second.clusterId := by
  cases plans with
  | clusterTopics =>
      rw [(Database.mem_selectTopicsByServiceId.mp member).1, (Database.mem_selectTopicsByServiceId.mp member').1]
  | clusterConsumers =>
      rw [(Database.mem_selectConsumersByServiceId.mp member).1,
        (Database.mem_selectConsumersByServiceId.mp member').1]
  | topics _ _ selected =>
      subst selected
      obtain ⟨-, -, ref, found, own⟩ := Database.mem_selectMigratedById.mp member
      obtain ⟨-, -, ref', found', own'⟩ := Database.mem_selectMigratedById.mp member'
      rw [same, found'] at found
      rw [← own, ← own', Option.some.inj found]
  | consumers =>
      obtain ⟨-, -, ref, found, own⟩ := Database.mem_selectMigratedById.mp member
      obtain ⟨-, -, ref', found', own'⟩ := Database.mem_selectMigratedById.mp member'
      rw [same, found'] at found
      rw [← own, ← own', Option.some.inj found]

theorem unique (plans : Plans fold outcomes s dto request migration) :
    ∀ first ∈ migration.items, ∀ second ∈ migration.items, first.name = second.name → first = second := by
  intro first member second member' same
  obtain ⟨row, known, -, ownId, ownName⟩ := plans.row member
  obtain ⟨row', known', -, ownId', ownName'⟩ := plans.row member'
  obtain rfl := ResourceTable.eq_of_name known known' (by rw [ownName, ownName', same])
  have sameId := ownId.symm.trans ownId'
  have sameCluster := plans.clusterId member member' sameId
  cases first
  cases second
  simp_all

/-- Only the calls that name a source cluster select a topic more than once. -/
theorem distinct (plans : Plans fold outcomes s dto request migration) (unnamed : dto.srcClusterId = none) :
    (migration.items.map (·.name)).Nodup ∧ (migration.items.map (·.id)).Nodup := by
  cases plans with
  | clusterTopics named => rw [unnamed] at named; cases named
  | clusterConsumers named => rw [unnamed] at named; cases named
  | topics _ _ selected =>
      subst selected
      exact ⟨Database.names_selectMigratedById _ _ _, Database.ids_selectMigratedById _ _ _⟩
  | consumers => exact ⟨Database.names_selectMigratedById _ _ _, Database.ids_selectMigratedById _ _ _⟩

end Plans

def Migration.run (migration : Migration) : Response :=
  migrateEach configured fold outcomes s dto migration.type migration.context migration.targetCluster migration.items

theorem checkCluster_eq_some_iff (checked : MigrationDTO) :
    checkCluster fold s.db dto = some checked ↔
      ∃ srcClusterId source target, dto.srcClusterId = some srcClusterId ∧
        s.db.getServiceAndEnvById srcClusterId = some source ∧
        s.db.getServiceAndEnvById dto.targetClusterId = some target ∧
        target.environmentId = source.environmentId ∧
        equalsIgnoreCase fold target.serverType source.serverType = true ∧
        { dto with
          targetCluster := some target.serverName, srcCluster := some source.serverName
          envId := some target.environmentId } = checked := by
  unfold checkCluster
  simp only [Option.bind_eq_bind, Option.bind_eq_some_iff]
  constructor
  · intro ⟨target, targetFound, srcClusterId, named, source, sourceFound, rest⟩
    refine ⟨srcClusterId, source, target, named, sourceFound, targetFound, ?_⟩
    split at rest
    · cases rest
    · next sameEnv =>
        split at rest
        · cases rest
        · next sameType =>
            refine ⟨not_not.mp sameEnv, ?_, Option.some.inj rest⟩
            simpa using sameType
  · intro ⟨srcClusterId, source, target, named, sourceFound, targetFound, sameEnv, sameType, same⟩
    refine ⟨target, targetFound, srcClusterId, named, source, sourceFound, ?_⟩
    rw [if_neg (not_not.mpr sameEnv), sameType, ← same]
    rfl

theorem noneInDb_eq (type : ZmsType) (context : Option EnvId) (targetCluster : String) :
    noneInDb s type context = migrateEach configured fold outcomes s dto type context targetCluster [] := by
  unfold migrateEach
  split
  · rfl
  · simp only [migrateFrom, Function.update_eq_self, noneInDb]

theorem migrateClusterTopicZk_eq_some_iff (response : Response) :
    migrateClusterTopicZk configured fold outcomes s dto = some response ↔
      ∃ migration, Plans fold outcomes s dto .migrateClusterTopicZk migration ∧
        migration.run configured fold outcomes s dto = response := by
  unfold migrateClusterTopicZk
  simp only [Option.bind_eq_bind, Option.bind_eq_some_iff, checkCluster_eq_some_iff]
  constructor
  · intro ⟨checked, ⟨srcClusterId, source, target, named, sourceFound, targetFound, sameEnv, sameType, same⟩,
      srcClusterId', named', returns⟩
    subst same
    obtain rfl := Option.some.inj (named.symm.trans named')
    simp only [migrateTopics, Option.bind_eq_bind, Option.bind_some] at returns
    split at returns
    · next created =>
        exact ⟨_, .clusterTopics named sourceFound targetFound sameEnv sameType created, Option.some.inj returns⟩
    · cases returns
  · intro ⟨migration, plans, same⟩
    cases plans with
    | clusterTopics named sourceFound targetFound sameEnv sameType created =>
        refine ⟨_, ⟨_, _, _, named, sourceFound, targetFound, sameEnv, sameType, rfl⟩, _, named, ?_⟩
        simp only [migrateTopics, Option.bind_eq_bind, Option.bind_some, created, if_true, ← same]
        rfl

theorem migrateClusterConsumerZk_eq_some_iff (response : Response) :
    migrateClusterConsumerZk configured fold outcomes s dto = some response ↔
      ∃ migration, Plans fold outcomes s dto .migrateClusterConsumerZk migration ∧
        migration.run configured fold outcomes s dto = response := by
  unfold migrateClusterConsumerZk
  simp only [Option.bind_eq_bind, Option.bind_eq_some_iff]
  constructor
  · intro ⟨srcClusterId, named, source, sourceFound, target, targetFound, returns⟩
    split at returns
    · cases returns
    · next sameType =>
        exact ⟨_, .clusterConsumers named sourceFound targetFound (not_not.mp sameType), Option.some.inj returns⟩
  · intro ⟨migration, plans, same⟩
    cases plans with
    | clusterConsumers named sourceFound targetFound sameType =>
        refine ⟨_, named, _, sourceFound, _, targetFound, ?_⟩
        rw [if_neg (not_not.mpr sameType), ← same]
        rfl

theorem migrateZk_eq_some_iff (response : Response) :
    migrateZk configured fold outcomes s dto = some response ↔
      ∃ migration, Plans fold outcomes s dto .migrateZk migration ∧
        migration.run configured fold outcomes s dto = response := by
  unfold migrateZk
  simp only [Option.bind_eq_bind, Option.bind_eq_some_iff]
  constructor
  · intro ⟨target, targetFound, returns⟩
    split at returns
    · next requested =>
        split at returns
        · next empty =>
            refine ⟨_, .topics targetFound requested empty (Or.inl rfl), ?_⟩
            rw [← Option.some.inj returns]
            exact (noneInDb_eq configured fold outcomes s dto _ _ _).symm
        · simp only [migrateTopics, Option.bind_eq_bind, Option.bind_some] at returns
          split at returns
          · next created =>
              exact ⟨_, .topics targetFound requested rfl (Or.inr created), Option.some.inj returns⟩
          · cases returns
    · next requested =>
        refine ⟨_, .consumers targetFound (not_not.mp requested), ?_⟩
        split at returns
        · next empty =>
            rw [← Option.some.inj returns]
            unfold Migration.run
            rw [empty]
            exact (noneInDb_eq configured fold outcomes s dto _ _ _).symm
        · exact Option.some.inj returns
  · intro ⟨migration, plans, same⟩
    cases plans with
    | topics targetFound requested selected created =>
        refine ⟨_, targetFound, ?_⟩
        subst selected
        rw [if_pos requested]
        split
        · next empty =>
            rw [← same]
            unfold Migration.run
            rw [empty]
            exact congrArg some (noneInDb_eq configured fold outcomes s dto _ _ _)
        · next nonempty =>
            have created := created.resolve_left nonempty
            simp only [migrateTopics, Option.bind_eq_bind, Option.bind_some, created, if_true, ← same]
            rfl
    | consumers targetFound requested =>
        refine ⟨_, targetFound, ?_⟩
        rw [if_neg (not_not.mpr requested), ← same]
        split
        · next empty =>
            unfold Migration.run
            rw [empty]
            exact congrArg some (noneInDb_eq configured fold outcomes s dto _ _ _)
        · rfl

/-- Every call that returns goes through one migration, and a call whose
migration is planned returns. -/
theorem call_eq_some_iff (request : Call) (response : Response) :
    call configured fold outcomes s dto request = some response ↔
      ∃ migration, Plans fold outcomes s dto request migration ∧
        migration.run configured fold outcomes s dto = response := by
  cases request with
  | migrateClusterTopicZk => exact migrateClusterTopicZk_eq_some_iff configured fold outcomes s dto response
  | migrateClusterConsumerZk => exact migrateClusterConsumerZk_eq_some_iff configured fold outcomes s dto response
  | migrateZk => exact migrateZk_eq_some_iff configured fold outcomes s dto response

namespace Migration
variable (migration : Migration)

def rewrites (env : EnvId) : String → Option Properties → Option Properties :=
  rewrite fold (s.clusters env) migration.type migration.targetCluster dto.consumePosition

def attempts (name : String) : List Bool := attemptsAt outcomes.attempt name 0 migration.items

/-- The node has these properties before the call, and the call rewrites it. -/
def Rewrites (env : EnvId) (name : String) (properties : Properties) : Prop :=
  currentZkClient configured migration.context = some env ∧ s.nodes env migration.type name = some properties ∧
    Passes (migration.rewrites fold s dto env) name (some properties) (migration.attempts outcomes name)

variable {configured fold outcomes s dto migration}

theorem context_of_client {context : Option EnvId} {env : EnvId}
    (client : currentZkClient configured context = some env) : context = some env :=
  (Option.filter_eq_some_iff.mp client).1

theorem steady (env : EnvId) : Steady (migration.rewrites fold s dto env) := rewrite_steady

theorem run_type : (migration.run configured fold outcomes s dto).type = migration.type := by
  unfold run migrateEach
  split <;> rfl

theorem run_context : (migration.run configured fold outcomes s dto).context = migration.context := by
  unfold run migrateEach
  split <;> rfl

theorem run_nodes_of_client {env : EnvId} (client : currentZkClient configured migration.context = some env)
    (name : String) :
    (migration.run configured fold outcomes s dto).nodes env migration.type name =
      settled (migration.rewrites fold s dto env) name (s.nodes env migration.type name)
        (migration.attempts outcomes name) := by
  unfold run migrateEach
  rw [client]
  dsimp only
  rw [Function.update_self, Function.update_self]
  exact migrateFrom_nodes (steady env) name 0 migration.items _

theorem run_nodes_of_ne {env : EnvId} {type : ZmsType}
    (other : currentZkClient configured migration.context ≠ some env ∨ type ≠ migration.type) (name : String) :
    (migration.run configured fold outcomes s dto).nodes env type name = s.nodes env type name := by
  unfold run migrateEach
  cases client : currentZkClient configured migration.context with
  | none => rfl
  | some own =>
      dsimp only
      by_cases same : env = own
      · subst same
        have other := other.resolve_left (not_not.mpr client)
        rw [Function.update_self, Function.update_of_ne other]
      · rw [Function.update_of_ne same]

theorem mem_failed_of_client {env : EnvId} (client : currentZkClient configured migration.context = some env)
    (name : String) :
    name ∈ (migration.run configured fold outcomes s dto).failed ↔
      Fails (migration.rewrites fold s dto env) name (s.nodes env migration.type name)
        (migration.attempts outcomes name) := by
  unfold run migrateEach
  rw [client]
  apply (mem_failed_migrateFrom (steady env) name 0 migration.items _).trans
  apply or_iff_right
  exact List.not_mem_nil

theorem mem_success_iff
    (unique : ∀ first ∈ migration.items, ∀ second ∈ migration.items, first.name = second.name → first = second)
    (item : Selected) :
    item ∈ (migration.run configured fold outcomes s dto).success ↔
      item ∈ migration.items ∧
        ∃ env properties, migration.Rewrites configured fold outcomes s dto env item.name properties := by
  unfold run migrateEach Rewrites
  cases client : currentZkClient configured migration.context with
  | none => simp
  | some env =>
      dsimp only
      constructor
      · intro member
        have selected := (success_subset 0 migration.items _ member).resolve_left List.not_mem_nil
        have passes := (mem_success_migrateFrom item 0 migration.items
          (fun other known same => unique other known item selected same) _).mp member
        have passes := passes.resolve_left List.not_mem_nil
        obtain ⟨properties, written⟩ := Option.isSome_iff_exists.mp passes.2
        obtain ⟨read, found, -⟩ := rewrite_eq written
        refine ⟨selected, env, read, rfl, found, ?_⟩
        dsimp only at found passes
        rw [found] at passes
        exact passes
      · intro ⟨selected, env', properties, same, found, passes⟩
        obtain rfl := Option.some.inj same
        apply (mem_success_migrateFrom item 0 migration.items
          (fun other known same => unique other known item selected same) _).mpr
        right
        dsimp only
        rw [found]
        exact passes

/-- The items whose nodes are rewritten. -/
def passing (configured : EnvId → Bool) (fold : Char → Char) (outcomes : Outcomes) (s : State) (dto : MigrationDTO)
    (migration : Migration) : List Selected :=
  match currentZkClient configured migration.context with
  | none => []
  | some env => migration.items.filter fun item =>
      Passes (migration.rewrites fold s dto env) item.name (s.nodes env migration.type item.name)
        (migration.attempts outcomes item.name)

theorem mem_passing_iff (item : Selected) :
    item ∈ migration.passing configured fold outcomes s dto ↔
      item ∈ migration.items ∧
        ∃ env properties, migration.Rewrites configured fold outcomes s dto env item.name properties := by
  unfold passing Rewrites
  cases client : currentZkClient configured migration.context with
  | none => simp
  | some env =>
      simp only [List.mem_filter, decide_eq_true_eq]
      apply and_congr_right
      intro selected
      constructor
      · intro passes
        obtain ⟨properties, written⟩ := Option.isSome_iff_exists.mp passes.2
        obtain ⟨read, found, -⟩ := rewrite_eq written
        rw [found] at passes
        exact ⟨env, read, rfl, found, passes⟩
      · intro ⟨env', properties, same, found, passes⟩
        obtain rfl := Option.some.inj same
        rw [found]
        exact passes

theorem success_eq_passing (distinct : (migration.items.map (·.name)).Nodup) :
    (migration.run configured fold outcomes s dto).success = migration.passing configured fold outcomes s dto := by
  unfold run migrateEach passing
  cases client : currentZkClient configured migration.context with
  | none => rfl
  | some env => exact (success_migrateFrom 0 migration.items distinct _).trans (List.nil_append _)

end Migration

end Calls

/-- A Kafka cluster and another cluster of one environment, and a topic on the
first. -/
def twoClusters (type : String) : State where
  db :=
    { services := ⟨[⟨1, 1, "first", "KAFKA", false⟩, ⟨2, 1, "second", type, false⟩], by simp⟩
      environments := [1]
      resources := fun type => if type = .TOPIC then ⟨⟨[⟨7, "orders", 1⟩], by decide⟩, by decide⟩
        else ⟨⟨[], List.nodup_nil⟩, List.nodup_nil⟩
      refs := fun type => if type = .TOPIC then ⟨[⟨7, 1, some 1⟩], by decide⟩ else ⟨[], List.nodup_nil⟩ }
  nodes := fun env type name =>
    if env = 1 ∧ type = .TOPIC ∧ name = "orders" then
      some ⟨"first", some "", some "", none, none, none, none, none⟩
    else none
  clusters := fun _ name => if name = "first" then some ⟨"first", none, some .KAFKA, none⟩ else none

/-- The request to move the topic with id 7 to the second cluster. -/
def toSecond : MigrationDTO where
  topics := [7]
  consumers := []
  srcClusterId := none
  targetClusterId := 2
  consumePosition := none
  srcCluster := none
  targetCluster := none
  envId := none

end Zms.Portal.MigrationService
