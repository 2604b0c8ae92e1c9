import Mathlib
import Zms.Client.Proxy
import Zms.Portal.GatingEffect
import Zms.Portal.Migrations
import Zms.Portal.NodeWriters

/-! Gated launches over the calls of the portal that write nodes and the clients that
read them, each client in its environment and on its host.
-/

set_option autoImplicit false

namespace Zms.Portal.Resources

open Zms.Client Zms.Registry Zms.Transition Zms.Transition.Throwing

section Gates

structure GatedAs (gatedIps gateName : Option String) (before after : Properties) : Prop where
  clusterName : after.clusterName = before.clusterName
  gatedIps : after.gatedIps = some (gatedIps.getD "")
  gated : after.gated = if isNotBlank gateName then gateName else none

/-- Nodes of one resource, in the environments of the infos, get other gates; they were
`ready` for that. -/
def Gates (ready : EnvId → Properties → Prop) (type : ZmsType) (name : String)
    (gateName : EnvironmentInfoVo → Option String) (infos : List EnvironmentInfoVo) (before after : Nodes) : Prop :=
  ∀ env type' name', after env type' name' = before env type' name' ∨
    type' = type ∧ name' = name ∧ ∃ info ∈ infos, info.environmentId = env ∧ ∃ data data',
      before env type name = some data ∧ ready env data ∧ after env type name = some data' ∧
        GatedAs info.gatedIps (gateName info) data data'

variable {ready : EnvId → Properties → Prop} {type : ZmsType} {name : String}
  {gateName : EnvironmentInfoVo → Option String} {infos : List EnvironmentInfoVo}

instance : IsPreorder Nodes (Gates ready type name gateName infos) where
  refl _ _ _ _ := .inl rfl
  trans first second third gates gates' env type' name' := by
    obtain same | ⟨rfl, rfl, info, member, rfl, data, data', was, isReady, becomes, gated⟩ := gates' env type' name'
    · obtain same₀ | ⟨rfl, rfl, info, member, rfl, data, data', was, isReady, becomes, gated⟩ := gates env type' name'
      · exact .inl (same.trans same₀)
      · exact .inr ⟨rfl, rfl, info, member, rfl, data, data', was, isReady, same.trans becomes, gated⟩
    · obtain same | ⟨-, -, info₀, -, -, data₀, data₁, was₀, isReady₀, becomes₀, gated₀⟩ :=
        gates info.environmentId type' name'
      · exact .inr ⟨rfl, rfl, info, member, rfl, data, data', same ▸ was, isReady, becomes, gated⟩
      · obtain rfl := Option.some.inj (becomes₀.symm.trans was)
        exact .inr ⟨rfl, rfl, info, member, rfl, data₀, data', was₀, isReady₀, becomes,
          gated.clusterName.trans gated₀.clusterName, gated.gatedIps, gated.gated⟩

theorem gates_put {nodes : Nodes} {info : EnvironmentInfoVo} {data data' : Properties} (member : info ∈ infos)
    (was : nodes info.environmentId type name = some data) (isReady : ready info.environmentId data)
    (gated : GatedAs info.gatedIps (gateName info) data data') :
    Gates ready type name gateName infos nodes (nodes.put info.environmentId type name (some data')) := by
  intro env type' name'
  by_cases place : env = info.environmentId ∧ type' = type ∧ name' = name
  · obtain ⟨rfl, rfl, rfl⟩ := place
    exact .inr ⟨rfl, rfl, info, member, rfl, data, data', was, isReady, put_self _ _ _ _ _, gated⟩
  · exact .inl (put_of_ne nodes _ place)

theorem gatedAs_withGated (gatedIps gateName : Option String) (data : Properties) :
    GatedAs gatedIps gateName data (Properties.withGated type gatedIps gateName data) :=
  ⟨rfl, rfl, gated_withGated⟩

end Gates

section Writers
variable {type : ZmsType} {name : String} {gateName : EnvironmentInfoVo → Option String}
  {infos : List EnvironmentInfoVo} {ready : (EnvId → String → Option ClusterMetadata) → EnvId → Properties → Prop}

/-- The nodes get other gates, and the clusters stay as they are. -/
def GatesOn (ready : (EnvId → String → Option ClusterMetadata) → EnvId → Properties → Prop) (type : ZmsType)
    (name : String) (gateName : EnvironmentInfoVo → Option String) (infos : List EnvironmentInfoVo) (s t : State) : Prop :=
  Gates (ready s.clusters) type name gateName infos s.nodes t.nodes ∧ t.clusters = s.clusters

instance : IsPreorder State (GatesOn ready type name gateName infos) where
  refl s := ⟨refl_of (Gates (ready s.clusters) type name gateName infos) s.nodes, rfl⟩
  trans s t u first second := by
    obtain ⟨gates, same⟩ := second
    rw [first.2] at gates same
    exact ⟨trans_of _ first.1 gates, same⟩

theorem gatesOn_of_same {s t : State} (same : OnNodes Eq s t) : GatesOn ready type name gateName infos s t := by
  refine ⟨?_, same.2⟩
  rw [← same.1]
  exact refl_of (Gates (ready s.clusters) type name gateName infos) s.nodes

theorem gatesOn_write {s t : State} {info : EnvironmentInfoVo} {data : Properties} (member : info ∈ infos)
    (was : s.nodes info.environmentId type name = some data) (isReady : ready s.clusters info.environmentId data)
    (written : t.clusters = s.clusters ∧ (t.nodes = s.nodes ∨ t.nodes = s.nodes.put info.environmentId type name
      (some (Properties.withGated type info.gatedIps (gateName info) data)))) :
    GatesOn ready type name gateName infos s t := by
  obtain ⟨clusters, same | put⟩ := written
  · exact gatesOn_of_same ⟨same.symm, clusters⟩
  · refine ⟨?_, clusters⟩
    rw [put]
    exact gates_put member was isReady (gatedAs_withGated _ _ _)

theorem gatesOn_updateTopicGateCluster {info : EnvironmentInfoVo} (member : info ∈ infos) :
    Respects (GatesOn (fun clusters env => Configurable (clusters env) .TOPIC) .TOPIC name gateName infos)
      (updateTopicGateCluster info.environmentId name info.gatedIps (gateName info)) := by
  apply respects_of_ends
  intro s
  apply ends_readInfo_bind
  · intro answers
    exact gatesOn_of_same ⟨rfl, rfl⟩
  · intro answers metadata read
    obtain ⟨data, was⟩ := readZkInfo_data read
    rw [was] at read
    unfold Throwing.when
    split
    · unfold writeTopicInfo
      rw [buildTopicData_gated read]
      dsimp only
      rw [(readAs_of_readZkInfo read).name]
      apply (ends_writeInfo _ _ _ _ _).imp
      intro _ t written
      refine gatesOn_write (s := s) member was ⟨(readAs_of_readZkInfo read).readable, fun impossible => ?_⟩ written
      cases impossible
    · exact ends_pure (gatesOn_of_same ⟨rfl, rfl⟩)

theorem gatesOn_updateConsumerGateCluster {info : EnvironmentInfoVo} (member : info ∈ infos) :
    Respects (GatesOn (fun clusters env => Configurable (clusters env) .CONSUMER_GRUOP) .CONSUMER_GRUOP name gateName infos)
      (updateConsumerGateCluster info.environmentId name info.gatedIps (gateName info)) := by
  apply respects_of_ends
  intro s
  apply ends_readInfo_bind
  · intro answers
    exact gatesOn_of_same ⟨rfl, rfl⟩
  · intro answers metadata read
    obtain ⟨data, was⟩ := readZkInfo_data read
    rw [was] at read
    apply ends_ofOption_bind
    · intro _
      exact gatesOn_of_same ⟨rfl, rfl⟩
    · intro cluster isGated
      unfold Throwing.when
      split
      · unfold writerConsumerInfo
        rw [buildConsumerGroupData_gated read]
        dsimp only
        rw [(readAs_of_readZkInfo read).name]
        apply (ends_writeInfo _ _ _ _ _).imp
        intro _ t written
        refine gatesOn_write (s := s) member was ⟨(readAs_of_readZkInfo read).readable, fun _ => ?_⟩ written
        rw [← gatedCluster_of_readZkInfo read, isGated]
        rfl
      · exact ends_pure (gatesOn_of_same ⟨rfl, rfl⟩)

/-- The call of one argument, as one info for its environment. -/
def groupInfo (env : EnvId) (dto : GatedDTO) : EnvironmentInfoVo := ⟨env, none, dto.gatedIps, none⟩

theorem gatesOn_updateGroupGated (env : EnvId) (dto : GatedDTO) :
    Respects (GatesOn (fun clusters env => Readable (clusters env)) .CONSUMER_GRUOP dto.name (fun _ => dto.gatedCluster)
      [groupInfo env dto]) (updateGroupGated env dto) := by
  apply respects_of_ends
  intro s
  apply ends_readInfo_bind
  · intro answers
    exact gatesOn_of_same ⟨rfl, rfl⟩
  · intro answers metadata read
    obtain ⟨data, was⟩ := readZkInfo_data read
    rw [was] at read
    unfold Throwing.when
    split
    · unfold writerConsumerInfo
      rw [buildConsumerGroupData_gated read]
      dsimp only
      rw [(readAs_of_readZkInfo read).name]
      have gated {t : State} (written : t.clusters = s.clusters ∧ (t.nodes = s.nodes ∨ t.nodes =
          s.nodes.put env .CONSUMER_GRUOP dto.name
            (some (Properties.withGated .CONSUMER_GRUOP dto.gatedIps dto.gatedCluster data)))) :
          GatesOn (fun clusters env => Readable (clusters env)) .CONSUMER_GRUOP dto.name (fun _ => dto.gatedCluster)
            [groupInfo env dto] s t :=
        gatesOn_write (List.mem_cons_self : groupInfo env dto ∈ [groupInfo env dto]) was
          (readAs_of_readZkInfo read).readable written
      apply (ends_writeInfo _ _ _ _ _).bind
      · intro t written
        exact gated written
      · intro _ t written
        exact ⟨gated written⟩
    · exact ends_pure (gatesOn_of_same ⟨rfl, rfl⟩)

/-- The name of the node that a request gates. -/
def gatedName (type : ZmsType) (db : Database) (dto : GatedDTO) : Option String :=
  match type with
  | .TOPIC => (db.topics.get dto.id).map (·.name)
  | .CONSUMER_GRUOP => some dto.name

/-- What `updateGated` does to the nodes, whichever way it ends. -/
def GatedFrom (type : ZmsType) (dto : GatedDTO) (s t : State) : Prop :=
  t.clusters = s.clusters ∧ (t.nodes = s.nodes ∨ Checked type s.db dto ∧ ∃ name, gatedName type s.db dto = some name ∧
    Gates (fun env => Configurable (s.clusters env) type) type name (gateClusterName type s.db dto) dto.environments
      s.nodes t.nodes)

theorem gatedFrom_of_gatesOn {dto : GatedDTO} {s t : State} {answers : Nat → Bool} (checked : Checked type s.db dto)
    (named : gatedName type s.db dto = some name)
    (gates : GatesOn (fun clusters env => Configurable (clusters env) type) type name (gateClusterName type s.db dto)
      dto.environments { s with answers := answers } t) : GatedFrom type dto s t :=
  ⟨gates.2, .inr ⟨checked, name, named, gates.1⟩⟩

theorem ends_updateTopicGated (dto : GatedDTO) (s : State) :
    Ends (updateTopicGated dto) s fun _ t => GatedFrom .TOPIC dto s t := by
  have unchanged (answers : Nat → Bool) : GatedFrom .TOPIC dto s { s with answers := answers } := ⟨rfl, .inl rfl⟩
  unfold updateTopicGated selectByPrimaryKey
  rw [bind_assoc]
  apply ends_query_bind_frame unchanged
  intro answers
  apply ends_ofOption_bind fun _ => unchanged answers
  intro topic found
  apply ends_query_bind_frame unchanged
  intro answers
  apply ends_ofOption_bind fun _ => unchanged answers
  intro clusterType first
  unfold listZmsServiceEntities
  rw [bind_assoc]
  apply ends_query_bind_frame unchanged
  intro answers
  rw [bind_assoc]
  apply ends_ofOption_bind fun _ => unchanged answers
  intro serviceList listed
  rw [bind_assoc]
  apply ends_ensure_bind fun _ => unchanged answers
  intro lengths
  apply ends_ensure_bind fun _ => unchanged answers
  intro count
  have checked : Checked .TOPIC s.db dto := (checked_topic_iff listed first).mpr ⟨lengths, count⟩
  have named : gatedName .TOPIC s.db dto = some topic.name := by
    unfold gatedName
    rw [found]
    rfl
  have looked (info : EnvironmentInfoVo) : (serviceOf serviceList info.gatedServiceId).map (·.serverName) =
      gateClusterName .TOPIC s.db dto info := by
    unfold gateClusterName
    change _ = ((s.db.listClustersByServiceIds (dto.environments.map (·.serviceId))).bind _).map _
    rw [listed]
    rfl
  have loops : Respects (GatesOn (fun clusters env => Configurable (clusters env) .TOPIC) .TOPIC topic.name
      (gateClusterName .TOPIC s.db dto) dto.environments)
      (forEach (updateTopicGatedNext topic.name (s.db.listByTopicId [dto.id]) serviceList) dto.environments) := by
    apply Respects.forEach
    intro info member
    apply (respects_ofOption _).bind
    intro ref
    rw [looked]
    exact (gatesOn_updateTopicGateCluster member).bind fun _ =>
      (onNodes_execute _).imp fun _ _ => gatesOn_of_same
  exact (loops.ends _).imp fun _ t gates => gatedFrom_of_gatesOn checked named gates

theorem ends_updateConsumerGated (dto : GatedDTO) (s : State) :
    Ends (updateConsumerGated dto) s fun _ t => GatedFrom .CONSUMER_GRUOP dto s t := by
  have unchanged (answers : Nat → Bool) : GatedFrom .CONSUMER_GRUOP dto s { s with answers := answers } :=
    ⟨rfl, .inl rfl⟩
  unfold updateConsumerGated
  apply ends_query_bind_frame unchanged
  intro answers
  apply ends_query_bind_frame unchanged
  intro answers
  apply ends_ofOption_bind fun _ => unchanged answers
  intro serviceList listed
  have checked : Checked .CONSUMER_GRUOP s.db dto := by
    intro empty
    cases (listed_of_nil (s := s) .CONSUMER_GRUOP empty).symm.trans listed
  have looked (info : EnvironmentInfoVo) : (serviceOf serviceList info.gatedServiceId).map (·.serverName) =
      gateClusterName .CONSUMER_GRUOP s.db dto info := by
    unfold gateClusterName
    change _ = ((s.db.listClustersByServiceIds (dto.environments.map (·.gatedServiceId))).bind _).map _
    rw [listed]
    rfl
  have loops : Respects (GatesOn (fun clusters env => Configurable (clusters env) .CONSUMER_GRUOP) .CONSUMER_GRUOP
      dto.name (gateClusterName .CONSUMER_GRUOP s.db dto) dto.environments)
      (forEach (updateConsumerGatedNext dto.name (s.db.listByConsumerId dto.id) serviceList) dto.environments) := by
    apply Respects.forEach
    intro info member
    apply (respects_ofOption _).bind
    intro ref
    rw [looked]
    exact (gatesOn_updateConsumerGateCluster member).bind fun _ =>
      (onNodes_execute _).imp fun _ _ => gatesOn_of_same
  exact (loops.ends _).imp fun _ t gates => gatedFrom_of_gatesOn checked rfl gates

theorem gatedFrom_updateGated (type : ZmsType) (dto : GatedDTO) (s : State) :
    GatedFrom type dto s (updateGated type dto s).2 := by
  cases type with
  | TOPIC => exact (ends_updateTopicGated dto s).holds
  | CONSUMER_GRUOP => exact (ends_updateConsumerGated dto s).holds

end Writers

end Zms.Portal.Resources
