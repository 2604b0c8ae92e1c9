import Mathlib
import Zms.Portal.ResourceConsumers
import Zms.Portal.ResourceFrames
import Zms.Portal.ResourceTopics

/-! What an approval or a copy leaves of a node: it builds the metadata anew, with
nothing of what a gated launch or the owner has set.
-/

set_option autoImplicit false

namespace Zms.Portal.Resources

open Zms.Transition Zms.Transition.Throwing

/-- The calls of the controllers that register topics and consumers of the database
and do not migrate them. -/
inductive Approval where
  | approveConsumer (dto : ConsumerDTO)
  | approveTopic (id : Int) (dto : TopicDTO)
  | copyConsumers (envIds : List EnvId) (consumerIds : Option (List Int))
  deriving DecidableEq, Repr

/-- The state that the call leaves, whether or not it throws. -/
def Approval.leaves (fold : Char → Char) (s : State) : Approval → State
  | .approveConsumer dto => (ConsumerController.approveConsumer fold dto s).2
  | .approveTopic id dto => (TopicController.approveTopic id dto s).2
  | .copyConsumers envIds consumerIds => (ConsumerController.copyConsumers fold envIds consumerIds s).2

structure Plain (type : ZmsType) (properties : Properties) : Prop where
  gatedIps : properties.gatedIps = some ""
  gatedCluster : properties.gatedCluster = some ""
  statisticsLogger : properties.statisticsLogger = none
  suspend : properties.suspend = if type = .TOPIC then none else some "null"

structure SettingsKept (before after : Properties) : Prop where
  gatedIps : after.gatedIps = before.gatedIps
  gatedCluster : after.gatedCluster = before.gatedCluster
  statisticsLogger : after.statisticsLogger = before.statisticsLogger
  suspend : after.suspend = before.suspend

theorem plain_iff_of_kept {type : ZmsType} {before after : Properties} (kept : SettingsKept before after) :
    Plain type after ↔ Plain type before := by
  constructor
  · intro plain
    exact ⟨kept.gatedIps ▸ plain.gatedIps, kept.gatedCluster ▸ plain.gatedCluster,
      kept.statisticsLogger ▸ plain.statisticsLogger, kept.suspend ▸ plain.suspend⟩
  · intro plain
    exact ⟨kept.gatedIps.trans plain.gatedIps, kept.gatedCluster.trans plain.gatedCluster,
      kept.statisticsLogger.trans plain.statisticsLogger, kept.suspend.trans plain.suspend⟩

theorem kept_of_plain {type : ZmsType} {before after : Properties} (was : Plain type before) (is : Plain type after) :
    SettingsKept before after :=
  ⟨is.gatedIps.trans was.gatedIps.symm, is.gatedCluster.trans was.gatedCluster.symm,
    is.statisticsLogger.trans was.statisticsLogger.symm, is.suspend.trans was.suspend.symm⟩

theorem plain_of_toMetadata {dto : ConsumerMapperService.ConsumerDTO} {brokerType : BrokerType} {data : Properties}
    (built : buildConsumerGroupData (ConsumerMapperService.toMetadata dto brokerType) = some data) :
    Plain .CONSUMER_GRUOP data := by
  obtain rfl := Option.some.inj built
  exact ⟨rfl, rfl, rfl, rfl⟩

section Registrations
variable {N : Nodes → Nodes → Prop} [IsPreorder Nodes N]
  (registers : ∀ (nodes : Nodes) (env : EnvId) (type : ZmsType) (name : String) (data : Properties),
    Plain type data → N nodes (nodes.put env type name (some data)))
include registers

theorem onNodes_registerConsumerToZk (fold : Char → Char) (env : EnvId) (clusterType : Option String)
    (dto : Option ConsumerMapperService.ConsumerDTO) :
    Respects (OnNodes N) (registerConsumerToZk fold env clusterType dto) := by
  unfold registerConsumerToZk
  split
  · exact respects_pure ()
  · apply (respects_ofOption dto).bind
    intro dto
    apply onNodes_writeInfo
    intro data built nodes
    exact registers nodes env .CONSUMER_GRUOP _ data (plain_of_toMetadata built)

theorem onNodes_registerTopicToZk (env : EnvId) (clusterName topicName : String) (brokerType : Option BrokerType) :
    Respects (OnNodes N) (registerTopicToZk env clusterName topicName brokerType) := by
  apply onNodes_writeInfo
  intro data built nodes
  obtain rfl := Option.some.inj built
  exact registers nodes env .TOPIC topicName _ ⟨rfl, rfl, rfl, rfl⟩

theorem onNodes_approveNext (fold : Char → Char) (dto : ConsumerDTO) (orig : Consumer) (ref : JoinedRef) :
    Respects (OnNodes N) (approveNext fold dto orig ref) := by
  have register := onNodes_registerConsumerToZk registers fold ref.environmentId ref.clusterType
  exact (Respects.when fun _ => (register _).bind fun _ => onNodes_request).bind fun _ =>
    (respects_ofOption _).bind fun _ => (respects_ofOption _).bind fun _ =>
    (Respects.when fun _ => register _).bind fun _ => Respects.when fun _ => onNodes_request

theorem onNodes_approveConsumer (fold : Char → Char) (dto : ConsumerDTO) :
    Respects (OnNodes N) (ConsumerController.approveConsumer fold dto) :=
  (respects_ensure _).bind fun _ =>
    (onNodes_query _).bind fun _ => (respects_ensure _).bind fun _ =>
    ((onNodes_query _).bind fun _ => respects_ofOption _).bind fun orig =>
    (Respects.when fun _ => onNodes_execute _).bind fun _ =>
    (Respects.forEach fun ref _ => onNodes_approveNext registers fold dto orig ref).bind fun _ =>
    (Respects.when fun _ => onNodes_execute _).bind fun _ => onNodes_execute _

theorem onNodes_copyNext (fold : Char → Char) (environments : List EnvId) (topicEnvironmentRefs : List JoinedRef)
    (item : EnvId × ConsumerInEnvs) : Respects (OnNodes N) (copyNext fold environments topicEnvironmentRefs item) := by
  unfold copyNext
  apply (respects_ensure _).bind
  intro _
  apply (respects_ensure _).bind
  intro _
  split
  · exact respects_ensure _
  · exact (Respects.attempt ((onNodes_registerConsumerToZk registers fold _ _ _).bind fun _ => onNodes_request)).bind
      fun _ => respects_ensure _

theorem onNodes_copyConsumers (fold : Char → Char) (envIds : List EnvId) (consumerIds : Option (List Int)) :
    Respects (OnNodes N) (ConsumerController.copyConsumers fold envIds consumerIds) :=
  (respects_ensure _).bind fun _ =>
    (onNodes_query _).bind fun environments => (onNodes_query _).bind fun _ => (respects_ofOption _).bind fun _ =>
    (respects_ensure _).bind fun _ => (onNodes_query _).bind fun topicEnvironmentRefs =>
    (Respects.forEach fun item _ => onNodes_copyNext registers fold environments topicEnvironmentRefs item).bind
      fun _ => onNodes_execute _

theorem onNodes_initTopicResource (env : EnvId) (partitions : Option Int) (topic : Topic) (localClusterId : Option Int)
    (service : ZmsService) :
    Respects (OnNodes N) (initTopicResource env partitions topic localClusterId service) := by
  unfold initTopicResource
  split
  · exact onNodes_request.bind fun _ => (onNodes_registerTopicToZk registers _ _ _ _).bind fun _ => respects_pure _
  · apply (respects_ofOption _).bind
    intro current
    split
    · exact onNodes_request.bind fun _ => respects_pure _
    · exact respects_pure _

theorem onNodes_approveEach (topic : Topic) (dto : TopicDTO) (serviceList : List ZmsService)
    (localRefs : List JoinedRef) (infos : List EnvironmentInfoVo) :
    Respects (OnNodes N) (approveEach topic dto serviceList localRefs infos) := by
  induction infos with
  | nil => exact respects_pure _
  | cons info rest ih =>
      apply (respects_ofOption _).bind
      intro ref
      have approves : Respects (OnNodes N) (approveIn topic dto.partitions ref.serviceId
          (serviceOf serviceList info.serviceId) info.environmentId) :=
        (respects_ofOption _).bind fun _ => (onNodes_initTopicResource registers _ _ _ _ _).bind fun _ =>
          Respects.when fun _ => onNodes_execute _
      exact (Respects.attempt approves).bind fun _ => ih.bind fun _ => respects_pure _

theorem onNodes_approveTopic (id : Int) (dto : TopicDTO) :
    Respects (OnNodes N) (TopicController.approveTopic id dto) :=
  (respects_ensure _).bind fun _ =>
    ((onNodes_query _).bind fun _ => respects_ofOption _).bind fun topic => (respects_ofOption _).bind fun _ =>
    ((onNodes_query _).bind fun _ => (respects_ofOption _).bind fun _ => (respects_ensure _).bind fun _ =>
      respects_pure _).bind fun serviceList =>
    (respects_ensure _).bind fun _ => (onNodes_query _).bind fun localRefs => (onNodes_execute _).bind fun _ =>
    (onNodes_approveEach registers topic dto serviceList localRefs _).bind fun _ => (respects_ensure _).bind fun _ =>
    (onNodes_execute _).bind fun _ => respects_pure _

end Registrations

/-- A node stays as it is or is registered anew. -/
def Renews (before after : Nodes) : Prop :=
  ∀ env type name, after env type name = before env type name ∨
    ∃ data, after env type name = some data ∧ Plain type data

instance : IsPreorder Nodes Renews where
  refl _ _ _ _ := .inl rfl
  trans first second third renews renews' env type name := by
    obtain same | renewed := renews' env type name
    · rw [same]
      exact renews env type name
    · exact .inr renewed

theorem renews_put (nodes : Nodes) (env : EnvId) (type : ZmsType) (name : String) (data : Properties)
    (plain : Plain type data) : Renews nodes (nodes.put env type name (some data)) := by
  intro env' type' name'
  by_cases place : env' = env ∧ type' = type ∧ name' = name
  · obtain ⟨rfl, rfl, rfl⟩ := place
    exact .inr ⟨data, put_self _ _ _ _ _, plain⟩
  · exact .inl (put_of_ne nodes _ place)

theorem renews_leaves (fold : Char → Char) (s : State) (call : Approval) :
    Renews s.nodes (call.leaves fold s).nodes := by
  cases call with
  | approveConsumer dto => exact ((onNodes_approveConsumer renews_put fold dto).related s).1
  | approveTopic id dto => exact ((onNodes_approveTopic renews_put id dto).related s).1
  | copyConsumers envIds consumerIds => exact ((onNodes_copyConsumers renews_put fold envIds consumerIds).related s).1

/-- A node is there after the call, and where the call has rewritten it, its settings
are kept exactly if it had none. -/
theorem settings_kept_iff (fold : Char → Char) (s : State) (call : Approval) (env : EnvId) (type : ZmsType)
    (name : String) (before : Properties) (was : s.nodes env type name = some before) :
    ∃ after, (call.leaves fold s).nodes env type name = some after ∧
      (after ≠ before → (SettingsKept before after ↔ Plain type before)) := by
  obtain same | ⟨after, is, plain⟩ := renews_leaves fold s call env type name
  · exact ⟨before, same.trans was, fun rewritten => absurd rfl rewritten⟩
  · refine ⟨after, is, fun _ => ?_⟩
    constructor
    · intro kept
      exact (plain_iff_of_kept kept).mp plain
    · intro unset
      exact kept_of_plain unset plain

def approved : Database where
  environments := [1]
  services := .ofList [⟨⟨10, 1, "main", "ROCKETMQ", false⟩, "ENABLE"⟩]
  topics := .ofList [⟨⟨1, "orders", CREATE_APPROVED⟩, "owner", some 4⟩]
  consumers := .ofList [⟨⟨1, "billing", 1, CREATE_APPROVED, false, false, 0, 0⟩, "owner"⟩]
  refs _ := .ofList [.plain 1 1 (some 10)]

def gatedData : Properties :=
  ⟨"main", some "10.0.0.1", some "gated", none, some "orders", some "false", some "latest", some "null"⟩

def gatedState : State where
  db := approved
  nodes := Nodes.put (fun _ _ _ => none) 1 .CONSUMER_GRUOP "billing" (some gatedData)
  clusters _ name := some ⟨name, none, some .ROCKETMQ, none⟩
  answers _ := true

def approveBroadcast : Approval := .approveConsumer
  ⟨some 1, some "billing", some 1, some "domain", some "memo", some 1, none, some true, some false, none, 0, 0⟩

theorem gated_before : gatedState.nodes 1 .CONSUMER_GRUOP "billing" = some gatedData := by decide

theorem leaves_approveBroadcast :
    (approveBroadcast.leaves Char.toLower gatedState).nodes 1 .CONSUMER_GRUOP "billing" =
      some { gatedData with gatedIps := some "", gatedCluster := some "", broadcast := some "true" } := by
  decide

theorem settings_not_kept :
    ∃ after, (approveBroadcast.leaves Char.toLower gatedState).nodes 1 .CONSUMER_GRUOP "billing" =
      some after ∧ after ≠ gatedData ∧ ¬SettingsKept gatedData after := by
  refine ⟨_, leaves_approveBroadcast, by decide, ?_⟩
  intro kept
  exact absurd kept.gatedIps (by decide)

/-- The settings of the gated group are not kept, as the theorem has it. -/
theorem settings_kept_iff_gated : ∃ after,
    (approveBroadcast.leaves Char.toLower gatedState).nodes 1 .CONSUMER_GRUOP "billing" = some after ∧
      (after ≠ gatedData → (SettingsKept gatedData after ↔ Plain .CONSUMER_GRUOP gatedData)) :=
  settings_kept_iff Char.toLower gatedState approveBroadcast 1 .CONSUMER_GRUOP "billing" gatedData gated_before

end Zms.Portal.Resources
