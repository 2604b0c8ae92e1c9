import Mathlib
import Zms.Portal.Migrations

/-! What a migration leaves behind when its asynchronous step is over: the nodes,
the references in the database, and the names it has reported.
-/

set_option autoImplicit false

namespace Zms.Portal.MigrationService

open Zms.Registry

section References
variable {outcomes : Outcomes} {refs : Table ResourceEnvironmentRef.key} {targetClusterId : Int}

/-- Whether the statement for an item alone is executed. -/
def Outcomes.updates (outcomes : Outcomes) (item : Selected) : Bool :=
  item.clusterId.isSome && outcomes.update item.id

/-- A statement of the asynchronous step for this topic or consumer is executed,
where its reference names this cluster. -/
def Reached (outcomes : Outcomes) (srcClusterId : Option Int) (passed : List Selected) (id clusterId : Int) : Prop :=
  match srcClusterId with
  | some source => outcomes.updateAll = true ∧ clusterId = source ∧ ∃ item ∈ passed, item.id = id
  | none => ∃ item ∈ passed.takeWhile outcomes.updates, item.id = id ∧ item.clusterId = some clusterId

theorem get_updateMigrate_of_hit {clusterId id : Int} {envId : EnvId} {ids : List Int} {ref : ResourceEnvironmentRef}
    (found : refs.get (id, envId) = some ref) (names : ref.serviceId = some clusterId) (member : id ∈ ids) :
    (updateMigrate refs clusterId targetClusterId ids).get (id, envId) =
      some { ref with serviceId := some targetClusterId } := by
  have own : ref.resourceId = id := congrArg Prod.fst (Table.get_eq_some_iff.mp found).2
  unfold updateMigrate
  rw [Table.get_update, found, Option.map_some, if_pos ⟨names, own ▸ member⟩]

theorem get_updateMigrate_of_miss {clusterId id : Int} {envId : EnvId} {ids : List Int}
    (miss : ∀ ref, refs.get (id, envId) = some ref → ref.serviceId = some clusterId → id ∉ ids) :
    (updateMigrate refs clusterId targetClusterId ids).get (id, envId) = refs.get (id, envId) := by
  unfold updateMigrate
  rw [Table.get_update]
  cases found : refs.get (id, envId) with
  | none => rfl
  | some ref =>
      have own : ref.resourceId = id := congrArg Prod.fst (Table.get_eq_some_iff.mp found).2
      rw [Option.map_some, if_neg]
      intro ⟨names, member⟩
      exact miss ref found names (own ▸ member)

/-- The reference of a topic or consumer after the step: moved if a statement
reaches it, and as before if not. -/
def Leaves (outcomes : Outcomes) (refs after : Table ResourceEnvironmentRef.key) (targetClusterId : Int)
    (srcClusterId : Option Int) (passed : List Selected) (id : Int) (envId : EnvId) : Prop :=
  (∃ ref clusterId, refs.get (id, envId) = some ref ∧ ref.serviceId = some clusterId ∧
    Reached outcomes srcClusterId passed id clusterId ∧
    after.get (id, envId) = some { ref with serviceId := some targetClusterId }) ∨
  ((∀ ref clusterId, refs.get (id, envId) = some ref → ref.serviceId = some clusterId →
    ¬Reached outcomes srcClusterId passed id clusterId) ∧ after.get (id, envId) = refs.get (id, envId))

theorem reached_cons (item : Selected) (rest : List Selected) (id clusterId : Int) :
    Reached outcomes none (item :: rest) id clusterId ↔ outcomes.updates item = true ∧
      (item.id = id ∧ item.clusterId = some clusterId ∨ Reached outcomes none rest id clusterId) := by
  unfold Reached
  dsimp only
  rw [List.takeWhile_cons]
  split
  · next updates =>
      simp only [updates, List.mem_cons, true_and]
      constructor
      · rintro ⟨other, rfl | member, own, names⟩
        · exact Or.inl ⟨own, names⟩
        · exact Or.inr ⟨other, member, own, names⟩
      · rintro (⟨own, names⟩ | ⟨other, member, own, names⟩)
        · exact ⟨item, Or.inl rfl, own, names⟩
        · exact ⟨other, Or.inr member, own, names⟩
  · next stops => simp [stops]

theorem Reached.mem_ids {passed : List Selected} {id clusterId : Int}
    (reached : Reached outcomes none passed id clusterId) : id ∈ passed.map (·.id) := by
  obtain ⟨item, member, own, -⟩ := reached
  exact own ▸ List.mem_map_of_mem ((List.takeWhile_prefix _).subset member)

theorem updateEach_cons (item : Selected) (rest : List Selected) :
    (outcomes.updates item = false ∧ updateEach outcomes targetClusterId (item :: rest) refs = refs) ∨
    ∃ clusterId, outcomes.updates item = true ∧ item.clusterId = some clusterId ∧
      updateEach outcomes targetClusterId (item :: rest) refs =
        updateEach outcomes targetClusterId rest (updateMigrate refs clusterId targetClusterId [item.id]) := by
  rw [updateEach.eq_2]
  unfold Outcomes.updates
  cases item.clusterId with
  | none => exact Or.inl ⟨rfl, rfl⟩
  | some clusterId =>
      cases outcomes.update item.id with
      | false => exact Or.inl ⟨rfl, rfl⟩
      | true => exact Or.inr ⟨clusterId, rfl, rfl, rfl⟩

theorem updateEach_leaves (passed : List Selected) (distinct : (passed.map (·.id)).Nodup) (id : Int)
    (envId : EnvId) :
    Leaves outcomes refs (updateEach outcomes targetClusterId passed refs) targetClusterId none passed id envId := by
  induction passed generalizing refs with
  | nil =>
      right
      refine ⟨fun ref clusterId _ _ reached => ?_, rfl⟩
      cases reached.mem_ids
  | cons item rest ih =>
      rw [List.map_cons, List.nodup_cons] at distinct
      obtain ⟨stops, same⟩ | ⟨own, updates, names, same⟩ :=
        @updateEach_cons outcomes refs targetClusterId item rest
      · right
        refine ⟨fun ref clusterId _ _ reached => ?_, by rw [same]⟩
        have updates := ((reached_cons item rest id clusterId).mp reached).1
        rw [stops] at updates
        cases updates
      · rw [same]
        by_cases turn : item.id = id
        · -- the statement of this item is the only one for its id
          subst turn
          have alone (clusterId : Int) : ¬Reached outcomes none rest item.id clusterId :=
            fun reached => distinct.1 reached.mem_ids
          obtain ⟨ref, clusterId, -, -, reached, -⟩ | ⟨-, kept⟩ :=
            @ih (updateMigrate refs own targetClusterId [item.id]) distinct.2
          · exact absurd reached (alone clusterId)
          · by_cases hit : ∃ ref, refs.get (item.id, envId) = some ref ∧ ref.serviceId = some own
            · obtain ⟨ref, found, isOwn⟩ := hit
              left
              refine ⟨ref, own, found, isOwn, ?_, ?_⟩
              · exact (reached_cons item rest item.id own).mpr ⟨updates, Or.inl ⟨rfl, names⟩⟩
              · exact kept.trans (get_updateMigrate_of_hit found isOwn List.mem_cons_self)
            · right
              constructor
              · intro ref clusterId found isCluster reached
                obtain ⟨-, ⟨-, names'⟩ | reached⟩ := (reached_cons item rest item.id clusterId).mp reached
                · rw [names] at names'
                  exact hit ⟨ref, found, isCluster.trans names'.symm⟩
                · exact alone clusterId reached
              · apply kept.trans
                apply get_updateMigrate_of_miss
                intro ref found isOwn
                exact absurd ⟨ref, found, isOwn⟩ hit
        · have kept : (updateMigrate refs own targetClusterId [item.id]).get (id, envId) = refs.get (id, envId) := by
            apply get_updateMigrate_of_miss
            intro ref _ _ member
            exact turn (List.mem_singleton.mp member).symm
          obtain ⟨ref, clusterId, found, isCluster, reached, moved⟩ | ⟨missed, unmoved⟩ :=
            @ih (updateMigrate refs own targetClusterId [item.id]) distinct.2
          · left
            rw [kept] at found
            refine ⟨ref, clusterId, found, isCluster, ?_, moved⟩
            exact (reached_cons item rest id clusterId).mpr ⟨updates, Or.inr reached⟩
          · right
            rw [kept] at missed unmoved
            refine ⟨fun ref clusterId found isCluster reached => ?_, unmoved⟩
            obtain ⟨-, ⟨own, -⟩ | reached⟩ := (reached_cons item rest id clusterId).mp reached
            · exact turn own
            · exact missed ref clusterId found isCluster reached

theorem asyncMigrateInDb_leaves (dto : MigrationDTO) (passed : List Selected)
    (distinct : dto.srcClusterId = none → (passed.map (·.id)).Nodup) (id : Int) (envId : EnvId) :
    Leaves outcomes refs (asyncMigrateInDb outcomes refs dto passed) dto.targetClusterId dto.srcClusterId passed id
      envId := by
  unfold asyncMigrateInDb
  cases named : dto.srcClusterId with
  | none => exact updateEach_leaves passed (distinct named) id envId
  | some source =>
      dsimp only
      cases executed : outcomes.updateAll with
      | false =>
          right
          refine ⟨fun ref clusterId _ _ reached => ?_, rfl⟩
          have := executed.symm.trans reached.1
          cases this
      | true =>
          by_cases hit : ∃ ref, refs.get (id, envId) = some ref ∧ ref.serviceId = some source ∧
              id ∈ passed.map (·.id)
          · obtain ⟨ref, found, names, member⟩ := hit
            left
            refine ⟨ref, source, found, names, ⟨executed, rfl, List.mem_map.mp member⟩, ?_⟩
            exact get_updateMigrate_of_hit found names member
          · right
            constructor
            · intro ref clusterId found names ⟨_, same, item, member, own⟩
              subst same
              exact hit ⟨ref, found, names, own ▸ List.mem_map_of_mem member⟩
            · apply get_updateMigrate_of_miss
              intro ref found names member
              exact hit ⟨ref, found, names, member⟩

namespace Leaves
variable {after : Table ResourceEnvironmentRef.key} {srcClusterId : Option Int} {passed : List Selected} {id : Int}
  {envId : EnvId}

theorem target_iff (leaves : Leaves outcomes refs after targetClusterId srcClusterId passed id envId) :
    (∃ ref, after.get (id, envId) = some ref ∧ ref.serviceId = some targetClusterId) ↔
      ∃ ref, refs.get (id, envId) = some ref ∧ (ref.serviceId = some targetClusterId ∨
        ∃ clusterId, ref.serviceId = some clusterId ∧ Reached outcomes srcClusterId passed id clusterId) := by
  obtain ⟨ref, clusterId, found, names, reached, same⟩ | ⟨missed, same⟩ := leaves
  · exact iff_of_true ⟨_, same, rfl⟩ ⟨ref, found, Or.inr ⟨clusterId, names, reached⟩⟩
  · rw [same]
    apply exists_congr
    intro ref
    apply and_congr_right
    intro found
    constructor
    · exact Or.inl
    · intro names
      apply names.resolve_right
      intro ⟨clusterId, names, reached⟩
      exact missed ref clusterId found names reached

theorem same_iff (leaves : Leaves outcomes refs after targetClusterId srcClusterId passed id envId) :
    after.get (id, envId) = refs.get (id, envId) ↔
      ∀ ref clusterId, refs.get (id, envId) = some ref → ref.serviceId = some clusterId →
        Reached outcomes srcClusterId passed id clusterId → clusterId = targetClusterId := by
  obtain ⟨ref, clusterId, found, names, reached, same⟩ | ⟨missed, same⟩ := leaves
  · constructor
    · intro kept ref' clusterId' found' names' _
      rw [same, found'] at kept
      have kept := congrArg ResourceEnvironmentRef.serviceId (Option.some.inj kept)
      exact (Option.some.inj (kept.trans names')).symm
    · intro harmless
      obtain rfl := harmless ref clusterId found names reached
      rw [same, found, ← names]
  · apply iff_of_true same
    intro ref clusterId found names reached
    exact absurd reached (missed ref clusterId found names)

end Leaves

end References

/-- The rows that the request is about: those with the ids that it lists, or those
in use on the source cluster. -/
def Requested (s : State) (dto : MigrationDTO) (request : Call) (type : ZmsType) (row : Resource) : Prop :=
  row ∈ (s.db.resources type).rows ∧
    match request with
    | .migrateZk => row.id ∈ if type = .TOPIC then dto.topics else dto.consumers
    | .migrateClusterTopicZk | .migrateClusterConsumerZk =>
        0 < row.status ∧ ∃ ref ∈ (s.db.refs type).rows, ref.resourceId = row.id ∧ ref.serviceId = dto.srcClusterId

/-- What the caller may conclude from the failed names, of the state `s'` after the
asynchronous step. -/
structure Agrees (s s' : State) (dto : MigrationDTO) (request : Call) (response : Response) : Prop where
  node : ∀ row, Requested s dto request response.type row → row.name ∉ response.failed →
    ∃ env target properties, response.context = some env ∧
      getById s.db.services.rows dto.targetClusterId = some target ∧
      s'.nodes env response.type row.name = some properties ∧ properties.clusterName = target.serverName
  ref : ∀ row, Requested s dto request response.type row → row.name ∉ response.failed →
    ∃ env ref, response.context = some env ∧ (s'.db.refs response.type).get (row.id, env) = some ref ∧
      ref.serviceId = some dto.targetClusterId
  failed : ∀ row ∈ (s.db.resources response.type).rows, row.name ∈ response.failed → ∀ env,
    s'.nodes env response.type row.name = s.nodes env response.type row.name ∧
      (s'.db.refs response.type).get (row.id, env) = (s.db.refs response.type).get (row.id, env)
  otherNodes : ∀ env type name,
    (type = response.type → ∀ row, Requested s dto request type row → row.name ≠ name) →
    s'.nodes env type name = s.nodes env type name
  otherRefs : ∀ env type id,
    (type = response.type → ∀ row, Requested s dto request type row → row.id ≠ id) →
    (s'.db.refs type).get (id, env) = (s.db.refs type).get (id, env)

section Result
variable (configured : EnvId → Bool) (fold : Char → Char) (outcomes : Outcomes) (s : State) (dto : MigrationDTO)

/-- One of the attempts at a name fails; without a client all do. -/
def Migration.Failing (migration : Migration) (name : String) : Prop :=
  match currentZkClient configured migration.context with
  | none => ∃ item ∈ migration.items, item.name = name
  | some env =>
      Fails (migration.rewrites fold s dto env) name (s.nodes env migration.type name)
        (migration.attempts outcomes name)

/-- What has to hold of the requested rows: those that no attempt fails for are
selected, or already at the target, and their reference in the environment of the
migration names the target, or the cluster of a statement that is executed. For a
topic that is selected twice and fails once, nothing may have been changed. -/
structure Smooth (request : Call) (migration : Migration) : Prop where
  node : ∀ row, Requested s dto request migration.type row →
    ¬migration.Failing configured fold outcomes s dto row.name →
    (∃ item ∈ migration.items, item.id = row.id) ∨
      ∃ env properties, migration.context = some env ∧ s.nodes env migration.type row.name = some properties ∧
        properties.clusterName = migration.targetCluster
  ref : ∀ row, Requested s dto request migration.type row →
    ¬migration.Failing configured fold outcomes s dto row.name →
    ∃ env ref, migration.context = some env ∧ (s.db.refs migration.type).get (row.id, env) = some ref ∧
      (ref.serviceId = some dto.targetClusterId ∨ ∃ clusterId, ref.serviceId = some clusterId ∧
        Reached outcomes dto.srcClusterId (migration.passing configured fold outcomes s dto) row.id clusterId)
  failing : ∀ row, Requested s dto request migration.type row →
    migration.Failing configured fold outcomes s dto row.name →
    (∀ env properties, migration.Rewrites configured fold outcomes s dto env row.name properties →
      migration.rewrites fold s dto env row.name (some properties) = some properties) ∧
      ∀ env ref clusterId, (s.db.refs migration.type).get (row.id, env) = some ref →
        ref.serviceId = some clusterId →
        Reached outcomes dto.srcClusterId (migration.passing configured fold outcomes s dto) row.id clusterId →
        clusterId = dto.targetClusterId

variable {configured fold outcomes s dto} {request : Call} {migration : Migration}

theorem Plans.target (plans : Plans fold outcomes s dto request migration) :
    ∃ target, getById s.db.services.rows dto.targetClusterId = some target ∧
      migration.targetCluster = target.serverName := by
  cases plans with
  | clusterTopics _ _ targetFound => exact ⟨_, (Option.filter_eq_some_iff.mp targetFound).1, rfl⟩
  | clusterConsumers _ _ targetFound => exact ⟨_, targetFound, rfl⟩
  | topics targetFound => exact ⟨_, targetFound, rfl⟩
  | consumers targetFound => exact ⟨_, targetFound, rfl⟩

theorem Plans.requested (plans : Plans fold outcomes s dto request migration) {item : Selected}
    (member : item ∈ migration.items) :
    ∃ row, Requested s dto request migration.type row ∧ row.id = item.id ∧ row.name = item.name := by
  obtain ⟨row, known, status, ownId, ownName⟩ := plans.row member
  refine ⟨row, ⟨known, ?_⟩, ownId, ownName⟩
  cases plans with
  | clusterTopics named =>
      obtain ⟨-, -, ref, own, sameId, sameService⟩ := Database.mem_selectTopicsByServiceId.mp member
      exact ⟨status, ref, own, sameId.trans ownId.symm, sameService.trans named.symm⟩
  | clusterConsumers named =>
      obtain ⟨-, -, ref, own, sameId, sameService⟩ := Database.mem_selectConsumersByServiceId.mp member
      exact ⟨status, ref, own, sameId.trans ownId.symm, sameService.trans named.symm⟩
  | topics _ _ selected =>
      subst selected
      rw [ownId]
      exact (Database.mem_selectMigratedById.mp member).1
  | consumers =>
      rw [ownId]
      exact (Database.mem_selectMigratedById.mp member).1

theorem Plans.id_of_name (plans : Plans fold outcomes s dto request migration) {item : Selected}
    (member : item ∈ migration.items) {row : Resource} (known : row ∈ (s.db.resources migration.type).rows)
    (same : item.name = row.name) : item.id = row.id := by
  obtain ⟨own, ownKnown, -, ownId, ownName⟩ := plans.row member
  obtain rfl := ResourceTable.eq_of_name ownKnown known (ownName.trans same)
  exact ownId.symm

theorem Plans.name_of_id (plans : Plans fold outcomes s dto request migration) {item : Selected}
    (member : item ∈ migration.items) {row : Resource} (known : row ∈ (s.db.resources migration.type).rows)
    (same : item.id = row.id) : item.name = row.name := by
  obtain ⟨own, ownKnown, -, ownId, ownName⟩ := plans.row member
  obtain rfl := ResourceTable.eq_of_id ownKnown known (ownId.trans same)
  exact ownName.symm

theorem mem_failed_iff (name : String) :
    name ∈ (migration.run configured fold outcomes s dto).failed ↔
      migration.Failing configured fold outcomes s dto name := by
  unfold Migration.Failing
  cases client : currentZkClient configured migration.context with
  | none =>
      unfold Migration.run migrateEach
      rw [client]
      exact List.mem_map
  | some env => exact Migration.mem_failed_of_client client name

theorem Migration.Failing.selected {name : String}
    (failing : migration.Failing configured fold outcomes s dto name) :
    ∃ item ∈ migration.items, item.name = name := by
  unfold Migration.Failing at failing
  cases client : currentZkClient configured migration.context with
  | none =>
      rw [client] at failing
      exact failing
  | some env =>
      rw [client] at failing
      have attempted : migration.attempts outcomes name ≠ [] := by
        intro empty
        unfold Fails at failing
        rw [empty] at failing
        simp at failing
      obtain ⟨outcome, attempt⟩ := List.exists_mem_of_ne_nil _ attempted
      exact mem_attemptsAt attempt

/-- A name that no attempt fails for: where it is selected, its node is at the
target, and elsewhere it is as before. -/
theorem node_iff (plans : Plans fold outcomes s dto request migration) {row : Resource}
    (known : row ∈ (s.db.resources migration.type).rows)
    (succeeds : ¬migration.Failing configured fold outcomes s dto row.name) :
    (∃ env properties, migration.context = some env ∧
      (migration.run configured fold outcomes s dto).nodes env migration.type row.name = some properties ∧
      properties.clusterName = migration.targetCluster) ↔
    (∃ item ∈ migration.items, item.id = row.id) ∨
      ∃ env properties, migration.context = some env ∧ s.nodes env migration.type row.name = some properties ∧
        properties.clusterName = migration.targetCluster := by
  by_cases selected : ∃ item ∈ migration.items, item.id = row.id
  · apply iff_of_true _ (Or.inl selected)
    obtain ⟨item, member, own⟩ := selected
    have name := plans.name_of_id member known own
    unfold Migration.Failing at succeeds
    cases client : currentZkClient configured migration.context with
    | none =>
        rw [client] at succeeds
        exact absurd ⟨item, member, name⟩ succeeds
    | some env =>
        rw [client] at succeeds
        unfold Fails at succeeds
        rw [not_or, not_or] at succeeds
        obtain ⟨noFailure, readable, -⟩ := succeeds
        have attempted : migration.attempts outcomes row.name ≠ [] := name ▸ attemptsAt_ne_nil member
        obtain ⟨properties, written⟩ := Option.ne_none_iff_exists'.mp (not_and.mp readable attempted)
        obtain ⟨outcome, attempt⟩ := List.exists_mem_of_ne_nil _ attempted
        have passes : Passes (migration.rewrites fold s dto env) row.name (s.nodes env migration.type row.name)
            (migration.attempts outcomes row.name) := by
          refine ⟨?_, Option.isSome_iff_exists.mpr ⟨properties, written⟩⟩
          cases outcome with
          | true => exact attempt
          | false => exact absurd attempt noFailure
        refine ⟨env, properties, Migration.context_of_client client, ?_, ?_⟩
        · rw [Migration.run_nodes_of_client client, settled_of_passes passes, written]
        · obtain ⟨read, -, rfl⟩ := rewrite_eq written
          rfl
  · rw [or_iff_right selected]
    have unattempted : ∀ b, b ∉ migration.attempts outcomes row.name := by
      intro b member
      obtain ⟨item, member, same⟩ := mem_attemptsAt member
      exact selected ⟨item, member, plans.id_of_name member known same⟩
    have kept (env : EnvId) : (migration.run configured fold outcomes s dto).nodes env migration.type row.name =
        s.nodes env migration.type row.name := by
      by_cases client : currentZkClient configured migration.context = some env
      · rw [Migration.run_nodes_of_client client, settled_of_not_passes fun passes => unattempted true passes.1]
      · exact Migration.run_nodes_of_ne (Or.inl client) row.name
    simp only [kept]

theorem reached_iff (plans : Plans fold outcomes s dto request migration) (id clusterId : Int) :
    Reached outcomes dto.srcClusterId (migration.run configured fold outcomes s dto).success id clusterId ↔
      Reached outcomes dto.srcClusterId (migration.passing configured fold outcomes s dto) id clusterId := by
  cases named : dto.srcClusterId with
  | none => rw [Migration.success_eq_passing (plans.distinct named).1]
  | some source =>
      unfold Reached
      simp only [Migration.mem_success_iff plans.unique, Migration.mem_passing_iff]

theorem success_selected (plans : Plans fold outcomes s dto request migration) {item : Selected}
    (member : item ∈ (migration.run configured fold outcomes s dto).success) : item ∈ migration.items :=
  ((Migration.mem_success_iff plans.unique item).mp member).1

theorem Reached.selected (plans : Plans fold outcomes s dto request migration) {id clusterId : Int}
    (reached : Reached outcomes dto.srcClusterId (migration.run configured fold outcomes s dto).success id clusterId) :
    ∃ item ∈ migration.items, item.id = id := by
  cases named : dto.srcClusterId with
  | none =>
      rw [named] at reached
      obtain ⟨item, member, own⟩ := List.mem_map.mp reached.mem_ids
      exact ⟨item, success_selected plans member, own⟩
  | some source =>
      rw [named] at reached
      obtain ⟨-, -, item, member, own⟩ := reached
      exact ⟨item, success_selected plans member, own⟩

theorem run_leaves (plans : Plans fold outcomes s dto request migration) (id : Int) (envId : EnvId) :
    Leaves outcomes (s.db.refs migration.type)
      ((finish outcomes s dto (migration.run configured fold outcomes s dto)).db.refs migration.type)
      dto.targetClusterId dto.srcClusterId (migration.run configured fold outcomes s dto).success id envId := by
  have step : (finish outcomes s dto (migration.run configured fold outcomes s dto)).db.refs migration.type =
      asyncMigrateInDb outcomes (s.db.refs migration.type) dto
        (migration.run configured fold outcomes s dto).success := by
    unfold finish
    rw [Migration.run_type]
    exact Function.update_self ..
  rw [step]
  apply asyncMigrateInDb_leaves
  intro unnamed
  obtain ⟨names, ids⟩ := plans.distinct unnamed
  rw [Migration.success_eq_passing names]
  unfold Migration.passing
  split
  · exact List.nodup_nil
  · exact List.Nodup.sublist (List.filter_sublist.map _) ids

theorem finish_refs_of_ne {type : ZmsType} (other : type ≠ migration.type) :
    (finish outcomes s dto (migration.run configured fold outcomes s dto)).db.refs type = s.db.refs type := by
  unfold finish
  rw [Migration.run_type]
  exact Function.update_of_ne other ..

theorem otherNodes_of_plans (plans : Plans fold outcomes s dto request migration) {env : EnvId} {type : ZmsType}
    {name : String}
    (other : type = migration.type → ∀ row, Requested s dto request type row → row.name ≠ name) :
    (migration.run configured fold outcomes s dto).nodes env type name = s.nodes env type name := by
  by_cases own : currentZkClient configured migration.context = some env ∧ type = migration.type
  · obtain ⟨client, rfl⟩ := own
    rw [Migration.run_nodes_of_client client, settled_of_not_passes]
    intro passes
    obtain ⟨item, member, same⟩ := mem_attemptsAt passes.1
    obtain ⟨row, requested, -, ownName⟩ := plans.requested member
    exact other rfl row requested (ownName.trans same)
  · exact Migration.run_nodes_of_ne (not_and_or.mp own) name

theorem otherRefs_of_plans (plans : Plans fold outcomes s dto request migration) {env : EnvId} {type : ZmsType}
    {id : Int} (other : type = migration.type → ∀ row, Requested s dto request type row → row.id ≠ id) :
    ((finish outcomes s dto (migration.run configured fold outcomes s dto)).db.refs type).get (id, env) =
      (s.db.refs type).get (id, env) := by
  by_cases own : type = migration.type
  · subst own
    apply (run_leaves plans id env).same_iff.mpr
    intro ref clusterId _ _ reached
    obtain ⟨item, member, same⟩ := reached.selected plans
    obtain ⟨row, requested, ownId, -⟩ := plans.requested member
    exact absurd (ownId.trans same) (other rfl row requested)
  · rw [finish_refs_of_ne own]

theorem failed_node_iff (row : Resource) :
    (∀ env, (migration.run configured fold outcomes s dto).nodes env migration.type row.name =
        s.nodes env migration.type row.name) ↔
      ∀ env properties, migration.Rewrites configured fold outcomes s dto env row.name properties →
        migration.rewrites fold s dto env row.name (some properties) = some properties := by
  constructor
  · intro same env properties ⟨client, found, passes⟩
    have kept := same env
    rw [Migration.run_nodes_of_client client, found, settled_of_passes passes] at kept
    exact kept
  · intro harmless env
    by_cases client : currentZkClient configured migration.context = some env
    · rw [Migration.run_nodes_of_client client]
      by_cases passes : Passes (migration.rewrites fold s dto env) row.name
          (s.nodes env migration.type row.name) (migration.attempts outcomes row.name)
      · rw [settled_of_passes passes]
        obtain ⟨properties, written⟩ := Option.isSome_iff_exists.mp passes.2
        obtain ⟨read, found, -⟩ := rewrite_eq written
        rw [found] at passes ⊢
        exact harmless env read ⟨client, found, passes⟩
      · exact settled_of_not_passes passes
    · exact Migration.run_nodes_of_ne (Or.inl client) row.name

/-- The list of failed names is right about one migration exactly when it is smooth. -/
theorem agrees_run_iff (plans : Plans fold outcomes s dto request migration) :
    Agrees s (finish outcomes s dto (migration.run configured fold outcomes s dto)) dto request
        (migration.run configured fold outcomes s dto) ↔
      Smooth configured fold outcomes s dto request migration := by
  obtain ⟨target, found, named⟩ := plans.target
  have type := @Migration.run_type configured fold outcomes s dto migration
  have context := @Migration.run_context configured fold outcomes s dto migration
  constructor
  · intro agrees
    have agreedNode := agrees.node
    have agreedRef := agrees.ref
    have agreedFailed := agrees.failed
    rw [type] at agreedNode agreedRef agreedFailed
    constructor
    · intro row requested succeeds
      apply (node_iff plans requested.1 succeeds).mp
      obtain ⟨env, target', properties, inEnv, found', node, own⟩ :=
        agreedNode row requested fun failed => succeeds ((mem_failed_iff row.name).mp failed)
      rw [found] at found'
      obtain rfl := Option.some.inj found'
      exact ⟨env, properties, context ▸ inEnv, node, own.trans named.symm⟩
    · intro row requested succeeds
      obtain ⟨env, ref, inEnv, after, own⟩ :=
        agreedRef row requested fun failed => succeeds ((mem_failed_iff row.name).mp failed)
      obtain ⟨ref', before, moved⟩ := (run_leaves plans row.id env).target_iff.mp ⟨ref, after, own⟩
      simp only [reached_iff plans] at moved
      exact ⟨env, ref', context ▸ inEnv, before, moved⟩
    · intro row requested failing
      have same := agreedFailed row requested.1 ((mem_failed_iff row.name).mpr failing)
      refine ⟨(failed_node_iff row).mp fun env => (same env).1, ?_⟩
      intro env ref clusterId before isCluster reached
      have harmless := (run_leaves plans row.id env).same_iff.mp (same env).2
      exact harmless ref clusterId before isCluster ((reached_iff plans row.id clusterId).mpr reached)
  · intro smooth
    constructor
    · intro row requested succeeds
      rw [type] at requested ⊢
      have succeeds := fun failing => succeeds ((mem_failed_iff row.name).mpr failing)
      obtain ⟨env, properties, inEnv, node, own⟩ :=
        (node_iff plans requested.1 succeeds).mpr (smooth.node row requested succeeds)
      exact ⟨env, target, properties, context.trans inEnv, found, node, own.trans named⟩
    · intro row requested succeeds
      rw [type] at requested ⊢
      have succeeds := fun failing => succeeds ((mem_failed_iff row.name).mpr failing)
      obtain ⟨env, ref, inEnv, before, moved⟩ := smooth.ref row requested succeeds
      simp only [← reached_iff plans] at moved
      obtain ⟨ref', after, own⟩ := (run_leaves plans row.id env).target_iff.mpr ⟨ref, before, moved⟩
      exact ⟨env, ref', context.trans inEnv, after, own⟩
    · intro row known failed env
      rw [type] at known ⊢
      have failing := (mem_failed_iff row.name).mp failed
      obtain ⟨item, member, same⟩ := failing.selected
      obtain ⟨own, requested, ownId, ownName⟩ := plans.requested member
      obtain rfl := ResourceTable.eq_of_name known requested.1 (ownName.trans same).symm
      obtain ⟨harmlessNode, harmlessRef⟩ := smooth.failing row requested failing
      refine ⟨(failed_node_iff row).mpr harmlessNode env, ?_⟩
      apply (run_leaves plans row.id env).same_iff.mpr
      intro ref clusterId before isCluster reached
      exact harmlessRef env ref clusterId before isCluster ((reached_iff plans row.id clusterId).mp reached)
    · intro env type' name other
      rw [type] at other
      exact otherNodes_of_plans plans other
    · intro env type' id other
      rw [type] at other
      exact otherRefs_of_plans plans other

/-- Whatever fails, the list of failed names tells the caller how every name stands
exactly when the migration is smooth. -/
theorem names_agree_iff (configured : EnvId → Bool) (fold : Char → Char) (outcomes : Outcomes) (s : State)
    (dto : MigrationDTO) (request : Call) :
    (∀ response, call configured fold outcomes s dto request = some response →
      Agrees s (finish outcomes s dto response) dto request response) ↔
      ∀ migration, Plans fold outcomes s dto request migration →
        Smooth configured fold outcomes s dto request migration := by
  constructor
  · intro agrees migration plans
    apply (agrees_run_iff plans).mp
    exact agrees _ ((call_eq_some_iff configured fold outcomes s dto request _).mpr ⟨migration, plans, rfl⟩)
  · intro smooth response returns
    obtain ⟨migration, plans, rfl⟩ := (call_eq_some_iff configured fold outcomes s dto request response).mp returns
    exact (agrees_run_iff plans).mpr (smooth migration plans)

end Result

/-- The node is rewritten, the statement for its reference fails, and no name is
reported. -/
theorem names_not_agree :
    ¬∀ (configured : EnvId → Bool) (fold : Char → Char) (outcomes : Outcomes) (s : State) (dto : MigrationDTO)
      (request : Call) (response : Response), call configured fold outcomes s dto request = some response →
      Agrees s (finish outcomes s dto response) dto request response := by
  intro agrees
  have found : getById (twoClusters "KAFKA").db.services.rows toSecond.targetClusterId =
      some ⟨2, 1, "second", "KAFKA", false⟩ := by decide
  have plans : Plans Char.toLower ⟨true, fun _ => true, true, fun _ => false⟩ (twoClusters "KAFKA") toSecond
      .migrateZk ⟨.TOPIC, some 1, "second", [⟨7, "orders", some 1⟩]⟩ :=
    .topics found (by decide) (by decide) (Or.inr rfl)
  have smooth := (agrees_run_iff plans).mp (agrees (fun _ => true) _ _ _ _ _ _
    ((call_eq_some_iff _ _ _ _ _ _ _).mpr ⟨_, plans, rfl⟩))
  have succeeds := (not_congr (mem_failed_iff "orders")).mp
    (by decide : "orders" ∉ (Migration.run (fun _ => true) Char.toLower ⟨true, fun _ => true, true, fun _ => false⟩
      (twoClusters "KAFKA") toSecond ⟨.TOPIC, some 1, "second", [⟨7, "orders", some 1⟩]⟩).failed)
  obtain ⟨env, ref, inEnv, before, names⟩ := smooth.ref ⟨7, "orders", 1⟩ ⟨by decide, by decide⟩ succeeds
  obtain rfl := Option.some.inj inEnv
  obtain rfl := Option.some.inj (before.symm.trans (by decide : _ = some ⟨7, 1, some 1⟩))
  obtain names | ⟨clusterId, -, item, member, -⟩ := names
  · cases names
  · have updates := List.mem_takeWhile_imp member
    unfold Outcomes.updates at updates
    rw [Bool.and_false] at updates
    cases updates

end Zms.Portal.MigrationService
