import Mathlib
import Zms.Portal.Migrations

/-! The clusters between which the nodes move: the call checks some of what has to
hold of them, and the rest is up to its caller.
-/

set_option autoImplicit false

namespace Zms.Portal.MigrationService

open Zms.Registry

/-- A cluster that is in use in an environment. -/
def Usable (env : EnvId) (service : ZmsServiceEntity) : Prop :=
  service.isDeleted = false ∧ service.environmentId = env

/-- Every node that is rewritten named a cluster of the environment that is
written, the target is one too, both have the same type, and the source cluster
of the request is the one the node named. -/
def Guarded (fold : Char → Char) (s : State) (dto : MigrationDTO) (response : Response) : Prop :=
  ∀ item ∈ response.success, ∃ env properties source target,
    response.context = some env ∧ s.nodes env response.type item.name = some properties ∧
      source ∈ s.db.services.rows ∧ source.serverName = properties.clusterName ∧ Usable env source ∧
      target ∈ s.db.services.rows ∧ target.id = dto.targetClusterId ∧ Usable env target ∧
      equalsIgnoreCase fold target.serverType source.serverType = true ∧
      ∀ srcClusterId, dto.srcClusterId = some srcClusterId → source.id = srcClusterId

section Guard
variable (configured : EnvId → Bool) (fold : Char → Char) (outcomes : Outcomes) (s : State) (dto : MigrationDTO)

/-- What a call leaves to its caller. The cluster call for topics compares the
clusters of the request and no more; that for consumers their types alone;
and the call for single topics or consumers looks at the target only. -/
def Careful (request : Call) (migration : Migration) : Prop :=
  match request with
  | .migrateClusterTopicZk =>
      ∀ source ∈ s.db.services.rows, dto.srcClusterId = some source.id →
        ∀ env name properties, migration.Rewrites configured fold outcomes s dto env name properties →
          source.serverName = properties.clusterName
  | .migrateClusterConsumerZk =>
      ∀ source ∈ s.db.services.rows, dto.srcClusterId = some source.id →
        ∀ target ∈ s.db.services.rows, target.id = dto.targetClusterId →
          ∀ env name properties, migration.Rewrites configured fold outcomes s dto env name properties →
            Usable env source ∧ Usable env target ∧ source.serverName = properties.clusterName
  | .migrateZk =>
      ∀ target ∈ s.db.services.rows, target.id = dto.targetClusterId →
        ∀ env name properties, migration.Rewrites configured fold outcomes s dto env name properties →
          target.isDeleted = false ∧
            ∃ source ∈ s.db.services.rows, source.serverName = properties.clusterName ∧ Usable env source ∧
              equalsIgnoreCase fold target.serverType source.serverType = true ∧
              ∀ srcClusterId, dto.srcClusterId = some srcClusterId → source.id = srcClusterId

variable {configured fold outcomes s dto} {request : Call} {migration : Migration}

theorem Database.getServiceAndEnvById_eq_some {db : Database} {id : Int} {service : ZmsServiceEntity}
    (found : db.getServiceAndEnvById id = some service) :
    service ∈ db.services.rows ∧ service.id = id ∧ service.isDeleted = false := by
  obtain ⟨found, inUse⟩ := Option.filter_eq_some_iff.mp found
  obtain ⟨member, same⟩ := getById_eq_some_iff.mp found
  rw [Bool.and_eq_true, Bool.not_eq_true'] at inUse
  exact ⟨member, same, inUse.1⟩

theorem service_eq_of_id {first second : ZmsServiceEntity} (member : first ∈ s.db.services.rows)
    (member' : second ∈ s.db.services.rows) (same : first.id = second.id) : first = second :=
  List.inj_on_of_nodup_map s.db.services.keys member member' same

theorem equalsIgnoreCase_refl (text : String) : equalsIgnoreCase fold text text = true :=
  decide_eq_true rfl

/-- A migration is guarded when this holds of the nodes that it rewrites. -/
theorem guarded_run_iff (plans : Plans fold outcomes s dto request migration) :
    Guarded fold s dto (migration.run configured fold outcomes s dto) ↔
      ∀ env name properties, migration.Rewrites configured fold outcomes s dto env name properties →
        ∃ source ∈ s.db.services.rows, ∃ target ∈ s.db.services.rows,
          source.serverName = properties.clusterName ∧ Usable env source ∧
            target.id = dto.targetClusterId ∧ Usable env target ∧
            equalsIgnoreCase fold target.serverType source.serverType = true ∧
            ∀ srcClusterId, dto.srcClusterId = some srcClusterId → source.id = srcClusterId := by
  unfold Guarded
  rw [Migration.run_context, Migration.run_type]
  constructor
  · intro guarded env name properties rewrites
    obtain ⟨client, found, passes⟩ := rewrites
    obtain ⟨item, selected, rfl⟩ := mem_attemptsAt passes.1
    obtain ⟨env', properties', source, target, same, found', member, names, usable, member', own, rest⟩ :=
      guarded item ((Migration.mem_success_iff plans.unique item).mpr
        ⟨selected, env, properties, client, found, passes⟩)
    rw [Migration.context_of_client client] at same
    obtain rfl := Option.some.inj same
    rw [found] at found'
    obtain rfl := Option.some.inj found'
    exact ⟨source, member, target, member', names, usable, own, rest⟩
  · intro guarded item member
    obtain ⟨-, env, properties, rewrites⟩ := (Migration.mem_success_iff plans.unique item).mp member
    obtain ⟨source, member, target, member', names, usable, own, rest⟩ := guarded env item.name properties rewrites
    exact ⟨env, properties, source, target, Migration.context_of_client rewrites.1, rewrites.2.1, member, names,
      usable, member', own, rest⟩

theorem guarded_clusterTopics_iff (plans : Plans fold outcomes s dto .migrateClusterTopicZk migration) :
    Guarded fold s dto (migration.run configured fold outcomes s dto) ↔
      Careful configured fold outcomes s dto .migrateClusterTopicZk migration := by
  rw [guarded_run_iff plans]
  unfold Careful
  cases plans with
  | @clusterTopics srcClusterId source target named sourceFound targetFound sameEnv sameType created =>
      obtain ⟨sourceMember, sourceId, sourceUsed⟩ := Database.getServiceAndEnvById_eq_some sourceFound
      obtain ⟨targetMember, targetId, targetUsed⟩ := Database.getServiceAndEnvById_eq_some targetFound
      constructor
      · intro guarded other member own env name properties rewrites
        obtain ⟨source', member', target', -, names, -, -, -, -, isSource⟩ :=
          guarded env name properties rewrites
        have same := service_eq_of_id member member' (isSource other.id own).symm
        rw [same]
        exact names
      · intro careful env name properties rewrites
        have inEnv : target.environmentId = env :=
          Option.some.inj (Migration.context_of_client rewrites.1)
        refine ⟨source, sourceMember, target, targetMember, ?_, ⟨sourceUsed, sameEnv.symm.trans inEnv⟩, targetId,
          ⟨targetUsed, inEnv⟩, sameType, ?_⟩
        · exact careful source sourceMember (named.trans (congrArg some sourceId.symm)) env name properties rewrites
        · intro other own
          rw [sourceId]
          exact Option.some.inj (named.symm.trans own)

theorem guarded_clusterConsumers_iff (plans : Plans fold outcomes s dto .migrateClusterConsumerZk migration) :
    Guarded fold s dto (migration.run configured fold outcomes s dto) ↔
      Careful configured fold outcomes s dto .migrateClusterConsumerZk migration := by
  rw [guarded_run_iff plans]
  unfold Careful
  cases plans with
  | @clusterConsumers srcClusterId source target named sourceFound targetFound sameType =>
      obtain ⟨sourceMember, sourceId⟩ := getById_eq_some_iff.mp sourceFound
      obtain ⟨targetMember, targetId⟩ := getById_eq_some_iff.mp targetFound
      constructor
      · intro guarded other member own other' member' own' env name properties rewrites
        obtain ⟨source', known, target', known', names, usable, isTarget, usable', -, isSource⟩ :=
          guarded env name properties rewrites
        have same := service_eq_of_id member known (isSource other.id own).symm
        have same' := service_eq_of_id member' known' (own'.trans isTarget.symm)
        rw [same, same']
        exact ⟨usable, usable', names⟩
      · intro careful env name properties rewrites
        obtain ⟨usable, usable', names⟩ := careful source sourceMember (named.trans (congrArg some sourceId.symm))
          target targetMember targetId env name properties rewrites
        refine ⟨source, sourceMember, target, targetMember, names, usable, targetId, usable', ?_, ?_⟩
        · rw [sameType]
          exact equalsIgnoreCase_refl target.serverType
        · intro other own
          rw [sourceId]
          exact Option.some.inj (named.symm.trans own)

theorem guarded_migrateZk_iff (plans : Plans fold outcomes s dto .migrateZk migration) :
    Guarded fold s dto (migration.run configured fold outcomes s dto) ↔
      Careful configured fold outcomes s dto .migrateZk migration := by
  rw [guarded_run_iff plans]
  unfold Careful
  obtain ⟨target, targetFound, context⟩ : ∃ target, getById s.db.services.rows dto.targetClusterId = some target ∧
      migration.context = some target.environmentId := by
    cases plans with
    | topics targetFound => exact ⟨_, targetFound, rfl⟩
    | consumers targetFound => exact ⟨_, targetFound, rfl⟩
  obtain ⟨targetMember, targetId⟩ := getById_eq_some_iff.mp targetFound
  constructor
  · intro guarded other member own env name properties rewrites
    obtain ⟨source, known, target', known', names, usable, isTarget, usable', sameType, isSource⟩ :=
      guarded env name properties rewrites
    have same := service_eq_of_id member known' (own.trans isTarget.symm)
    rw [same]
    exact ⟨usable'.1, source, known, names, usable, sameType, isSource⟩
  · intro careful env name properties rewrites
    have inEnv : target.environmentId = env :=
      Option.some.inj (context.symm.trans (Migration.context_of_client rewrites.1))
    obtain ⟨inUse, source, known, names, usable, sameType, isSource⟩ :=
      careful target targetMember targetId env name properties rewrites
    exact ⟨source, known, target, targetMember, names, usable, targetId, ⟨inUse, inEnv⟩, sameType, isSource⟩

/-- Whatever the call does is guarded exactly when its caller was careful. -/
theorem guarded_iff (configured : EnvId → Bool) (fold : Char → Char) (outcomes : Outcomes) (s : State)
    (dto : MigrationDTO) (request : Call) :
    (∀ response, call configured fold outcomes s dto request = some response → Guarded fold s dto response) ↔
      ∀ migration, Plans fold outcomes s dto request migration →
        Careful configured fold outcomes s dto request migration := by
  have each (migration : Migration) (plans : Plans fold outcomes s dto request migration) :
      Guarded fold s dto (migration.run configured fold outcomes s dto) ↔
        Careful configured fold outcomes s dto request migration := by
    cases request with
    | migrateClusterTopicZk => exact guarded_clusterTopics_iff plans
    | migrateClusterConsumerZk => exact guarded_clusterConsumers_iff plans
    | migrateZk => exact guarded_migrateZk_iff plans
  constructor
  · intro guarded migration plans
    apply (each migration plans).mp
    exact guarded _ ((call_eq_some_iff configured fold outcomes s dto request _).mpr ⟨migration, plans, rfl⟩)
  · intro careful response returns
    obtain ⟨migration, plans, rfl⟩ := (call_eq_some_iff configured fold outcomes s dto request response).mp returns
    exact (each migration plans).mpr (careful migration plans)

end Guard

/-- The topic moves to a cluster of the other type. -/
theorem not_guarded :
    ¬∀ (configured : EnvId → Bool) (fold : Char → Char) (outcomes : Outcomes) (s : State) (dto : MigrationDTO)
      (request : Call) (response : Response),
      call configured fold outcomes s dto request = some response → Guarded fold s dto response := by
  intro guarded
  have found : getById (twoClusters "ROCKETMQ").db.services.rows toSecond.targetClusterId =
      some ⟨2, 1, "second", "ROCKETMQ", false⟩ := by decide
  have plans : Plans Char.toLower ⟨true, fun _ => true, true, fun _ => true⟩ (twoClusters "ROCKETMQ") toSecond .migrateZk
      ⟨.TOPIC, some 1, "second", [⟨7, "orders", some 1⟩]⟩ :=
    .topics found (by decide) (by decide) (Or.inr rfl)
  have careful := (guarded_migrateZk_iff plans).mp (guarded (fun _ => true) _ _ _ _ _ _
    ((call_eq_some_iff _ _ _ _ _ _ _).mpr ⟨_, plans, rfl⟩))
  obtain ⟨-, source, member, names, -, sameType, -⟩ := careful ⟨2, 1, "second", "ROCKETMQ", false⟩ (by decide) rfl 1
    "orders" ⟨"first", some "", some "", none, none, none, none, none⟩ ⟨by decide, by decide, by decide⟩
  have only : ∀ service ∈ (twoClusters "ROCKETMQ").db.services.rows, service.serverName = "first" →
      equalsIgnoreCase Char.toLower "ROCKETMQ" service.serverType = false := by
    decide
  rw [only source member names] at sameType
  cases sameType

end Zms.Portal.MigrationService
