import Mathlib
import Zms.Portal.ApprovalFrame
import Zms.Portal.LifeCycle

/-! What the calls of the life cycle do to the nodes: they register some anew, delete
some and leave the others.
-/

set_option autoImplicit false

namespace Zms.Portal.Resources

open Zms.Transition Zms.Transition.Throwing

section Writers
variable {N : Nodes → Nodes → Prop} [IsPreorder Nodes N] (fold : Char → Char) (lower : String → String)

theorem onNodes_getConsumer (id : Option Int) : Respects (OnNodes N) (getConsumer id) :=
  (onNodes_query _).bind fun _ => respects_ofOption _

theorem onNodes_selectByPrimaryKey (id : Int) : Respects (OnNodes N) (selectByPrimaryKey id) :=
  (onNodes_query _).bind fun _ => respects_ofOption _

theorem onNodes_checkBroadcast (dto : ConsumerDTO) (ref : JoinedRef) :
    Respects (OnNodes N) (checkBroadcast fold dto ref) := Respects.when fun _ => respects_ensure _

theorem onNodes_addConsumer (dto : ConsumerDTO) : Respects (OnNodes N) (ConsumerController.addConsumer fold dto) :=
  (respects_ensure _).bind fun _ => onNodes_transactional <|
    (onNodes_query _).bind fun _ => (onNodes_query _).bind fun _ => (respects_ofOption _).bind fun _ =>
    (onNodes_execute _).bind fun _ => Respects.forEach fun _ _ =>
      (onNodes_checkBroadcast fold _ _).bind fun _ => onNodes_execute _

theorem onNodes_updateConsumer (dto : ConsumerDTO) (ldapUser : LdapUser) :
    Respects (OnNodes N) (ConsumerController.updateConsumer fold dto ldapUser) :=
  (respects_ensure _).bind fun _ => onNodes_transactional <|
    (onNodes_getConsumer _).bind fun _ => (respects_ensure _).bind fun _ => (onNodes_query _).bind fun _ =>
    (Respects.when fun _ => onNodes_execute _).bind fun _ => (respects_ofOption _).bind fun _ =>
    (Respects.forEach fun _ _ => onNodes_checkBroadcast fold _ _).bind fun _ =>
    (Respects.when fun _ => onNodes_execute _).bind fun _ => onNodes_execute _

theorem onNodes_addTopic (dto : TopicDTO) : Respects (OnNodes N) (TopicController.addTopic lower dto) :=
  (respects_ensure _).bind fun _ => onNodes_transactional <|
    (onNodes_query _).bind fun _ => (respects_ensure _).bind fun _ => (onNodes_query _).bind fun _ =>
    (respects_ofOption _).bind fun _ => (onNodes_execute _).bind fun _ => (respects_ofOption _).bind fun _ =>
    Respects.forEach fun _ _ => onNodes_execute _

theorem onNodes_updateEnvironments (topic : Topic) (dto : TopicDTO) :
    Respects (OnNodes N) (updateEnvironments topic dto) := by
  unfold updateEnvironments
  split
  · exact (onNodes_execute _).bind fun _ => (respects_ofOption _).bind fun _ =>
      Respects.forEach fun _ _ => onNodes_execute _
  · exact respects_ensure _

theorem onNodes_updateTopic (id : Int) (dto : TopicDTO) (ldapUser : LdapUser) :
    Respects (OnNodes N) (updateTopic id dto ldapUser) :=
  (onNodes_selectByPrimaryKey _).bind fun _ => (respects_ensure _).bind fun _ => (onNodes_query _).bind fun _ =>
    (respects_ensure _).bind fun _ => (onNodes_updateEnvironments _ _).bind fun _ => onNodes_execute _

section Deletes
variable (deletes : ∀ (nodes : Nodes) (env : EnvId) (type : ZmsType) (name : String), N nodes (nodes.put env type name none))
include deletes

theorem onNodes_deleteConsumer (id : Option Int) : Respects (OnNodes N) (deleteConsumer id) :=
  (onNodes_getConsumer _).bind fun _ => (onNodes_query _).bind fun _ =>
    (Respects.forEach fun _ _ => (onNodes_checkPath _ _ _).bind fun _ =>
      (Respects.when fun _ => (onNodes_readInfo _ _ _).bind fun _ => (respects_ofOption _).bind fun _ =>
        (respects_ofOption _).bind fun _ => Respects.when fun _ => onNodes_request).bind fun _ =>
      onNodes_deleteInfo fun nodes => deletes nodes _ _ _).bind fun _ =>
    onNodes_request.bind fun _ => (onNodes_execute _).bind fun _ => onNodes_execute _

theorem onNodes_deleteTopic (id : Int) : Respects (OnNodes N) (deleteTopic id) :=
  (onNodes_selectByPrimaryKey _).bind fun _ => (onNodes_query _).bind fun _ => (onNodes_query _).bind fun _ =>
    (Respects.forEach fun _ _ => (onNodes_checkPath _ _ _).bind fun _ => Respects.when fun _ =>
      (onNodes_deleteInfo fun nodes => deletes nodes _ _ _).bind fun _ => onNodes_request).bind fun _ =>
    onNodes_request.bind fun _ => onNodes_execute _

end Deletes

section Registers
variable (registers : ∀ (nodes : Nodes) (env : EnvId) (type : ZmsType) (name : String) (data : Properties),
  Plain type data → N nodes (nodes.put env type name (some data)))
include registers

theorem onNodes_syncTopic (topicId : Int) (environments : List EnvironmentInfoVo) :
    Respects (OnNodes N) (syncTopic topicId environments) :=
  (onNodes_selectByPrimaryKey _).bind fun _ => (onNodes_query _).bind fun _ => (respects_ensure _).bind fun _ =>
    (onNodes_query _).bind fun _ => (respects_ofOption _).bind fun _ =>
    (Respects.forEach fun _ _ => onNodes_execute _).bind fun _ => Respects.forEach fun _ _ =>
      (respects_ofOption _).bind fun _ => onNodes_request.bind fun _ =>
      (onNodes_registerTopicToZk registers _ _ _ _).bind fun _ => onNodes_execute _

theorem onNodes_backupTopicMetadata (dto : BackupTopicMetadataDTO) :
    Respects (OnNodes N) (backupTopicMetadata dto) :=
  (onNodes_query _).bind fun _ => (respects_ofOption _).bind fun _ => (onNodes_query _).bind fun _ =>
    (respects_ofOption _).bind fun _ => (onNodes_query _).bind fun _ =>
    Respects.when fun _ => onNodes_syncTopic registers _ _

theorem onNodes_backupConsumerMetadata (dto : BackupConsumerMetadataDTO) :
    Respects (OnNodes N) (backupConsumerMetadata fold dto) :=
  onNodes_transactional <|
    (onNodes_query _).bind fun _ => (respects_ofOption _).bind fun _ => (onNodes_query _).bind fun _ =>
    Respects.when fun _ => (onNodes_query _).bind fun _ => (respects_ofOption _).bind fun _ =>
      (onNodes_execute _).bind fun _ => (onNodes_registerConsumerToZk registers fold _ _ _).bind fun _ => onNodes_request

variable (deletes : ∀ (nodes : Nodes) (env : EnvId) (type : ZmsType) (name : String), N nodes (nodes.put env type name none))
include deletes

theorem onNodes_leaves (s : State) (request : Request) : OnNodes N s (request.leaves fold lower s) := by
  cases request with
  | addConsumer dto => exact (onNodes_addConsumer fold dto).related s
  | updateConsumer dto ldapUser => exact (onNodes_updateConsumer fold dto ldapUser).related s
  | approveConsumer dto => exact (onNodes_approveConsumer registers fold dto).related s
  | deleteConsumer id => exact (onNodes_deleteConsumer deletes (some id)).related s
  | copyConsumers envIds consumerIds => exact (onNodes_copyConsumers registers fold envIds consumerIds).related s
  | backupConsumerMetadata dto => exact (onNodes_backupConsumerMetadata fold registers dto).related s
  | addTopic dto => exact (onNodes_addTopic lower dto).related s
  | updateTopic id dto ldapUser => exact (onNodes_updateTopic id dto ldapUser).related s
  | approveTopic id dto => exact (onNodes_approveTopic registers id dto).related s
  | deleteTopic id => exact (onNodes_deleteTopic deletes id).related s
  | syncTopic topicId environments =>
      exact ((respects_ensure _).bind fun _ => onNodes_syncTopic registers topicId environments).related s
  | backupTopicMetadata dto => exact (onNodes_backupTopicMetadata registers dto).related s

end Registers

end Writers

end Zms.Portal.Resources
