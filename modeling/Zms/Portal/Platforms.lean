import Zms.Portal.NodeWriters
import Zms.Portal.TopicSyncs

/-! Runs of the portal over the brokers and the alert rules: they show runs of the portal alone, and
the nodes of the topics and the topics of the clusters keep together in them.
-/

set_option autoImplicit false

namespace Zms.Portal.Brokers

open Zms.Registry Zms.Transition Zms.Transition.Throwing Zms.Portal.Resources

namespace TopicController

def approveTopic (id : Int) (dto : TopicDTO) (replication : Option Int) : PlatformCall (List EnvId) := do
  ensure (isEmpty dto.name = false ∧ (dto.partitions.any fun partitions => 0 < partitions ∧ partitions ≤ 64) = true)
  Brokers.approveTopic id dto replication

def syncTopic (topicId : Int) (environments : List EnvironmentInfoVo) : PlatformCall Unit := do
  ensure (environments ≠ [])
  Brokers.syncTopic topicId environments

end TopicController

theorem id_deletedConsumer (row : Consumer) : { row with status := SOFT_DELETED }.id = row.id := rfl

section System
variable (sameText : String → String → Bool)
  (byModifyDate : List Alert.AlertRuleConfig → List Alert.AlertRuleConfig)

/-- The rules of topics are found too; without a name there is no condition. -/
def queryAlertRules (rules : AlertService.Rules) (name : String) : List Alert.AlertRuleConfig :=
  byModifyDate (rules.rows.filter fun row => name.isEmpty || sameText row.name name)

def deleteConsumerRules (name : String) : PlatformCall Unit := do
  onPortal request
  let p ← get
  forEach deleteRule (queryAlertRules sameText byModifyDate p.rules name)

def deleteConsumer (id : Option Int) : PlatformCall Unit := do
  let origConsumer ← onPortal (getConsumer id)
  let envs ← onPortal (query fun db => (db.listByConsumerId origConsumer.id).map (·.environmentId))
  forEach (fun env => onPortal (deleteConsumerIn origConsumer.name env)) envs
  deleteConsumerRules sameText byModifyDate origConsumer.name
  onPortal (execute fun db =>
    db.changeConsumer origConsumer.id (fun row => { row with status := SOFT_DELETED }) id_deletedConsumer)
  onPortal (execute fun db => some (db.deleteRefs .CONSUMER_GRUOP origConsumer.id))

variable (fold : Char → Char) (lower : String → String)

/-- The platform that a request leaves, whether or not it throws; `replication` is in the body of an
approval. -/
def leaves (p : Platform) (replication : Option Int) : Request → Platform
  | .addConsumer dto => (onPortal (ConsumerController.addConsumer fold dto) p).2
  | .updateConsumer dto ldapUser => (onPortal (ConsumerController.updateConsumer fold dto ldapUser) p).2
  | .approveConsumer dto => (onPortal (ConsumerController.approveConsumer fold dto) p).2
  | .deleteConsumer id => (deleteConsumer sameText byModifyDate (some id) p).2
  | .copyConsumers envIds consumerIds => (onPortal (ConsumerController.copyConsumers fold envIds consumerIds) p).2
  | .backupConsumerMetadata dto => (onPortal (Resources.backupConsumerMetadata fold dto) p).2
  | .addTopic dto => (onPortal (Resources.TopicController.addTopic lower dto) p).2
  | .updateTopic id dto ldapUser => (onPortal (Resources.updateTopic id dto ldapUser) p).2
  | .approveTopic id dto => (TopicController.approveTopic id dto replication p).2
  | .deleteTopic id => (deleteTopic sameText id p).2
  | .syncTopic topicId environments => (TopicController.syncTopic topicId environments p).2
  | .backupTopicMetadata dto => (backupTopicMetadata dto p).2

structure PlatformAction extends Action where
  replication : Option Int

/-- Topics still to come have the default of the column. -/
def platform : Guarded Platform PlatformAction where
  init p := ∀ id, p.db.topics.get id = none → p.replication id = 3
  guard _ _ := True
  effect p action := leaves sameText byModifyDate fold lower { p with answers := action.answers } action.replication
    action.request

end System

/-! ### The portal alone -/

/-- The portal has the rows, the nodes and the clusters of the platform. -/
def Shows (p : Platform) (s : State) : Prop := s = answering p.toState s.answers

section Refinement
variable (sameText : String → String → Bool)
  (byModifyDate : List Alert.AlertRuleConfig → List Alert.AlertRuleConfig) (fold : Char → Char)
  (lower : String → String)

theorem forgets_readInfo (env : EnvId) (type : ZmsType) (name : String) :
    Forgets (onPortal (readInfo env type name)) (readInfo env type name) :=
  forgets_onPortal fun _ _ => rfl

theorem forgets_getConsumer (id : Option Int) : Forgets (onPortal (getConsumer id)) (getConsumer id) :=
  forgets_query.onPortal_bind fun _ => ⟨fun _ => ⟨[], fun _ => rfl⟩⟩

theorem forgets_deleteConsumerIn (name : String) (env : EnvId) :
    Forgets (onPortal (deleteConsumerIn name env)) (deleteConsumerIn name env) := by
  refine (forgets_checkPath ..).onPortal_bind fun present => ?_
  refine Forgets.onPortal_bind ?_ fun _ => forgets_deleteInfo ..
  have nothing : Forgets (onPortal (pure ())) (pure () : Call Unit) := ⟨fun _ => ⟨[], fun _ => rfl⟩⟩
  by_cases there : present = true
  · rw [when_of there]
    refine (forgets_readInfo ..).onPortal_bind fun metadata => ?_
    unfold deleteSubGroup
    refine Forgets.onPortal_bind ⟨fun _ => ⟨[], fun _ => rfl⟩⟩ fun cluster => ?_
    refine Forgets.onPortal_bind ⟨fun _ => ⟨[], fun _ => rfl⟩⟩ fun brokerType => ?_
    by_cases rocketmq : brokerType = .ROCKETMQ
    · rw [when_of rocketmq]
      exact forgets_request keeps_request
    · rw [when_of_not rocketmq]
      exact nothing
  · rw [when_of_not there]
    exact nothing

theorem keeps_deleteConsumerRules (name : String) : Respects Keeps (deleteConsumerRules sameText byModifyDate name) :=
  keeps_request.bind fun _ => respects_get.bind fun _ => Respects.forEach fun rule _ => keeps_deleteRule rule

theorem forgets_deleteConsumer (id : Option Int) :
    Forgets (deleteConsumer sameText byModifyDate id) (Resources.deleteConsumer id) :=
  (forgets_getConsumer id).bind fun origConsumer => forgets_query.bind fun _ =>
    (forgets_forEach (forgets_deleteConsumerIn origConsumer.name) _).bind fun _ =>
    (forgets_request (keeps_deleteConsumerRules sameText byModifyDate origConsumer.name)).bind fun _ =>
    forgets_execute.bind fun _ => forgets_execute

variable {sameText byModifyDate fold lower}

/-- A call that forgets the platform is a step of the portal with the answers it used. -/
theorem step_of_forgets (request : Request) {α : Type} {program : PlatformCall α} {call : Call α}
    (forgets : Forgets program call) (same : ∀ s : State, request.leaves fold lower s = (call s).2) {p : Platform}
    {s : State} (shows : Shows p s) (answers : Nat → Bool) :
    ∃ t, (portal fold lower).Steps s t ∧ Shows (program { p with answers }).2 t := by
  obtain ⟨used, follows⟩ := forgets.follows { p with answers }
  refine ⟨_, .one (a := ⟨request, ahead used answers⟩) trivial, ?_⟩
  change Shows _ (request.leaves fold lower { s with answers := ahead used answers })
  rw [same]
  have before : { s with answers := ahead used answers } =
      answering ({ p with answers } : Platform).toState (ahead used answers) := by
    rw [shows]
    rfl
  rw [before, follows answers]
  rfl

theorem step_of_onPortal (request : Request) {α : Type} {call : Call α}
    (same : ∀ s : State, request.leaves fold lower s = (call s).2) {p : Platform} {s : State} (shows : Shows p s)
    (answers : Nat → Bool) :
    ∃ t, (portal fold lower).Steps s t ∧ Shows (onPortal call { p with answers }).2 t := by
  refine ⟨_, .one (a := ⟨request, answers⟩) trivial, ?_⟩
  change Shows _ (request.leaves fold lower { s with answers })
  have before : { s with answers } = ({ p with answers } : Platform).toState := by
    rw [shows]
    rfl
  rw [same, before]
  rfl

theorem simulates : Guarded.Simulation (platform sameText byModifyDate fold lower) (portal fold lower) Shows := by
  constructor
  · intro p _
    exact ⟨p.toState, trivial, rfl⟩
  · rintro p s ⟨⟨request, answers⟩, replication⟩ shows -
    cases request with
    | addConsumer dto => exact step_of_onPortal (.addConsumer dto) (fun _ => rfl) shows answers
    | updateConsumer dto ldapUser => exact step_of_onPortal (.updateConsumer dto ldapUser) (fun _ => rfl) shows answers
    | approveConsumer dto => exact step_of_onPortal (.approveConsumer dto) (fun _ => rfl) shows answers
    | deleteConsumer id =>
      exact step_of_forgets (.deleteConsumer id) (forgets_deleteConsumer sameText byModifyDate (some id))
        (fun _ => rfl) shows answers
    | copyConsumers envIds consumerIds =>
      exact step_of_onPortal (.copyConsumers envIds consumerIds) (fun _ => rfl) shows answers
    | backupConsumerMetadata dto => exact step_of_onPortal (.backupConsumerMetadata dto) (fun _ => rfl) shows answers
    | addTopic dto => exact step_of_onPortal (.addTopic dto) (fun _ => rfl) shows answers
    | updateTopic id dto ldapUser => exact step_of_onPortal (.updateTopic id dto ldapUser) (fun _ => rfl) shows answers
    | approveTopic id dto =>
      exact step_of_forgets (.approveTopic id dto)
        ((forgets_ensure _).bind fun _ => forgets_approveTopic id dto replication) (fun _ => rfl) shows answers
    | deleteTopic id =>
      exact step_of_forgets (.deleteTopic id) (forgets_deleteTopic sameText id) (fun _ => rfl) shows answers
    | syncTopic topicId environments =>
      exact step_of_forgets (.syncTopic topicId environments)
        ((forgets_ensure _).bind fun _ => forgets_syncTopic topicId environments) (fun _ => rfl) shows answers
    | backupTopicMetadata dto =>
      exact step_of_forgets (.backupTopicMetadata dto) (forgets_backupTopicMetadata dto) (fun _ => rfl) shows answers

/-- In every run of the platform, whatever fails in it, the rows and the nodes are those of a run of the portal
alone: neither the brokers nor the alert rules add to what the requests do to them. -/
theorem shown_by_portal {p q : Platform} (steps : (platform sameText byModifyDate fold lower).Steps p q) :
    ∃ t, (portal fold lower).Steps p.toState t ∧ Shows q t := simulates.steps rfl steps

end Refinement

/-! ### What the requests do to the topics of the clusters -/

def TopicsStay (nodes nodes' : Nodes) : Prop := ∀ env name, nodes' env .TOPIC name = nodes env .TOPIC name

instance : IsPreorder Nodes TopicsStay where
  refl _ _ _ := rfl
  trans _ _ _ first second env name := (second env name).trans (first env name)

/-- Only rows, rules and the nodes of consumers change. -/
structure Quiet (p q : Platform) : Prop where
  clusters : q.clusters = p.clusters
  brokers : q.brokers = p.brokers
  nodes : TopicsStay p.nodes q.nodes

instance : IsPreorder Platform Quiet where
  refl p := ⟨rfl, rfl, refl_of TopicsStay p.nodes⟩
  trans _ _ _ first second :=
    ⟨second.clusters.trans first.clusters, second.brokers.trans first.brokers, trans_of TopicsStay first.nodes second.nodes⟩

/-- A relation that the requests keep as far as they do not delete a topic. -/
structure Allows (R : Platform → Platform → Prop) : Prop where
  quiet : ∀ p q, Quiet p q → R p q
  creates : ∀ env clusterName topicName partitions replication brokerType,
    Respects R (TopicService.createTopic env clusterName topicName partitions replication >>= fun _ =>
      onPortal (registerTopicToZk env clusterName topicName brokerType))
  updates : ∀ env clusterName topicName partitions replication,
    Respects R (TopicService.updateTopic env clusterName topicName partitions replication)

section Consumers
variable (fold : Char → Char)

theorem topicsStay_put (nodes : Nodes) (env : EnvId) (name : String) (data : Option Properties) :
    TopicsStay nodes (nodes.put env .CONSUMER_GRUOP name data) := by
  intro env' name'
  apply put_of_ne
  rintro ⟨-, impossible, -⟩
  cases impossible

theorem topicsStay_registerConsumerToZk (env : EnvId) (clusterType : Option String)
    (dto : Option ConsumerMapperService.ConsumerDTO) :
    Respects (OnNodes TopicsStay) (registerConsumerToZk fold env clusterType dto) := by
  unfold registerConsumerToZk
  split
  · exact respects_pure ()
  · exact (respects_ofOption dto).bind fun _ => onNodes_writeInfo fun _ _ nodes => topicsStay_put nodes _ _ _

theorem topicsStay_approveConsumer (dto : ConsumerDTO) :
    Respects (OnNodes TopicsStay) (ConsumerController.approveConsumer fold dto) := by
  have approves : ∀ orig ref, Respects (OnNodes TopicsStay) (approveNext fold dto orig ref) := fun _ _ =>
    (Respects.when fun _ => (topicsStay_registerConsumerToZk fold _ _ _).bind fun _ => onNodes_request).bind fun _ =>
      (respects_ofOption _).bind fun _ => (respects_ofOption _).bind fun _ =>
      (Respects.when fun _ => topicsStay_registerConsumerToZk fold _ _ _).bind fun _ =>
      Respects.when fun _ => onNodes_request
  exact (respects_ensure _).bind fun _ => (onNodes_query _).bind fun _ => (respects_ensure _).bind fun _ =>
    (onNodes_getConsumer _).bind fun orig => (Respects.when fun _ => onNodes_execute _).bind fun _ =>
    (Respects.forEach fun ref _ => approves orig ref).bind fun _ =>
    (Respects.when fun _ => onNodes_execute _).bind fun _ => onNodes_execute _

theorem topicsStay_copyNext (environments : List EnvId) (topicEnvironmentRefs : List JoinedRef)
    (item : EnvId × ConsumerInEnvs) :
    Respects (OnNodes TopicsStay) (copyNext fold environments topicEnvironmentRefs item) := by
  unfold copyNext
  apply (respects_ensure _).bind
  intro _
  apply (respects_ensure _).bind
  intro _
  split
  · exact respects_ensure _
  · exact (Respects.attempt ((topicsStay_registerConsumerToZk fold _ _ _).bind fun _ => onNodes_request)).bind
      fun _ => respects_ensure _

theorem topicsStay_copyConsumers (envIds : List EnvId) (consumerIds : Option (List Int)) :
    Respects (OnNodes TopicsStay) (ConsumerController.copyConsumers fold envIds consumerIds) :=
  (respects_ensure _).bind fun _ =>
    (onNodes_query _).bind fun _ => (onNodes_query _).bind fun _ => (respects_ofOption _).bind fun _ =>
    (respects_ensure _).bind fun _ => (onNodes_query _).bind fun _ =>
    (Respects.forEach fun _ _ => topicsStay_copyNext fold _ _ _).bind fun _ => onNodes_execute _

theorem topicsStay_backupConsumerMetadata (dto : BackupConsumerMetadataDTO) :
    Respects (OnNodes TopicsStay) (Resources.backupConsumerMetadata fold dto) :=
  onNodes_transactional <|
    (onNodes_query _).bind fun _ => (respects_ofOption _).bind fun _ => (onNodes_query _).bind fun _ =>
    Respects.when fun _ => (onNodes_query _).bind fun _ => (respects_ofOption _).bind fun _ =>
      (onNodes_execute _).bind fun _ => (topicsStay_registerConsumerToZk fold _ _ _).bind fun _ => onNodes_request

theorem topicsStay_deleteConsumerIn (name : String) (env : EnvId) :
    Respects (OnNodes TopicsStay) (deleteConsumerIn name env) :=
  (onNodes_checkPath _ _ _).bind fun _ =>
    (Respects.when fun _ => (onNodes_readInfo _ _ _).bind fun _ => (respects_ofOption _).bind fun _ =>
      (respects_ofOption _).bind fun _ => Respects.when fun _ => onNodes_request).bind fun _ =>
    onNodes_deleteInfo fun nodes => topicsStay_put nodes _ _ _

end Consumers

theorem found_of_select {p q : Platform} {id : Int} {topic : Topic}
    (read : onPortal (selectByPrimaryKey id) p = (some topic, q)) : p.db.topics.get id = some topic := by
  have answer : (selectByPrimaryKey id p.toState).1 = some topic := congrArg Prod.fst read
  unfold selectByPrimaryKey at answer
  cases asked : p.answers 0 with
  | false =>
    rw [bind_of_throws (query_of_refused asked)] at answer
    cases answer
  | true =>
    rw [bind_of_returns (query_of_answered asked)] at answer
    exact answer

section Portal
variable {R : Platform → Platform → Prop} (allows : Allows R)
include allows

theorem Allows.of_onPortal {α : Type} {call : Call α} (stay : Respects (OnNodes TopicsStay) call) :
    Respects R (onPortal call) :=
  ⟨fun p => allows.quiet _ _ ⟨(stay.related p.toState).2, rfl, (stay.related p.toState).1⟩⟩

theorem Allows.of_query {α : Type} (select : Database → α) : Respects R (onPortal (query select)) :=
  allows.of_onPortal (onNodes_query _)

theorem Allows.of_execute (statement : Database → Option Database) : Respects R (onPortal (execute statement)) :=
  allows.of_onPortal (onNodes_execute _)

theorem Allows.of_selectByPrimaryKey (id : Int) : Respects R (onPortal (selectByPrimaryKey id)) :=
  allows.of_onPortal (onNodes_selectByPrimaryKey id)

end Portal

section Calls
variable {R : Platform → Platform → Prop} [IsPreorder Platform R] (allows : Allows R)
  (sameText : String → String → Bool)
  (byModifyDate : List Alert.AlertRuleConfig → List Alert.AlertRuleConfig) (fold : Char → Char)
  (lower : String → String)
include allows

theorem Allows.of_deleteRule (rule : Alert.AlertRuleConfig) : Respects R (deleteRule rule) :=
  (allows.of_onPortal onNodes_request).bind fun _ => respects_get.bind fun _ => (respects_ofOption _).bind fun _ =>
    ⟨fun p => allows.quiet _ _ ⟨rfl, rfl, refl_of TopicsStay p.nodes⟩⟩

theorem Allows.of_deleteRules (topicName : String) : Respects R (deleteRules sameText topicName) :=
  (allows.of_onPortal onNodes_request).bind fun _ => respects_get.bind fun _ =>
    Respects.forEach fun rule _ => allows.of_deleteRule rule

theorem Allows.of_deleteConsumer (id : Option Int) : Respects R (deleteConsumer sameText byModifyDate id) :=
  (allows.of_onPortal (onNodes_getConsumer id)).bind fun _ => (allows.of_query _).bind fun _ =>
    (Respects.forEach fun _ _ => allows.of_onPortal (topicsStay_deleteConsumerIn _ _)).bind fun _ =>
    ((allows.of_onPortal onNodes_request).bind fun _ => respects_get.bind fun _ =>
      Respects.forEach fun rule _ => allows.of_deleteRule rule).bind fun _ =>
    (allows.of_execute _).bind fun _ => allows.of_execute _

theorem Allows.of_initTopicResource (env : EnvId) (partitions replication : Option Int) (topic : Topic)
    (localClusterId : Option Int) (service : ZmsService) :
    Respects R (initTopicResource env partitions replication topic localClusterId service) := by
  unfold initTopicResource
  split
  · rw [← bind_assoc]
    exact (allows.creates ..).bind fun _ => respects_pure true
  · apply (respects_ofOption _).bind
    intro current
    split
    · exact (allows.updates ..).bind fun _ => respects_pure true
    · exact respects_pure false

theorem Allows.of_approveEach (topic : Topic) (partitions replication : Option Int) (serviceList : List ZmsService)
    (localRefs : List JoinedRef) (infos : List EnvironmentInfoVo) :
    Respects R (approveEach topic partitions replication serviceList localRefs infos) := by
  induction infos with
  | nil => exact respects_pure []
  | cons info rest ih =>
    apply (respects_ofOption _).bind
    intro ref
    refine Respects.bind (Respects.attempt ?_) fun _ => ih.bind fun _ => respects_pure _
    exact (respects_ofOption _).bind fun _ => (allows.of_initTopicResource ..).bind fun _ =>
      Respects.when fun _ => allows.of_execute _

theorem Allows.of_updateById (id : Int) (partitions replication : Option Int) :
    Respects R (updateById id partitions replication) :=
  (respects_ensure _).bind fun _ => (allows.of_execute _).bind fun _ =>
    ⟨fun p => allows.quiet _ _ ⟨rfl, rfl, refl_of TopicsStay p.nodes⟩⟩

theorem Allows.of_approveTopic (id : Int) (dto : TopicDTO) (replication : Option Int) :
    Respects R (TopicController.approveTopic id dto replication) := by
  have lists : ∀ serviceIds, Respects (OnNodes TopicsStay) (listZmsServiceEntities serviceIds) := fun _ =>
    (onNodes_query _).bind fun _ => (respects_ofOption _).bind fun _ => (respects_ensure _).bind fun _ =>
      respects_pure _
  exact (respects_ensure _).bind fun _ => (allows.of_selectByPrimaryKey id).bind fun _ =>
    (respects_ofOption _).bind fun _ => (allows.of_onPortal (lists _)).bind fun _ => (respects_ensure _).bind fun _ =>
    (allows.of_query _).bind fun _ => (allows.of_updateById ..).bind fun _ => (allows.of_approveEach ..).bind fun _ =>
    (respects_ensure _).bind fun _ => (allows.of_execute _).bind fun _ => respects_pure _

theorem Allows.of_syncTopic (topicId : Int) (environments : List EnvironmentInfoVo) :
    Respects R (syncTopic topicId environments) := by
  have syncs : ∀ topic clusters info, Respects R (syncNext topic clusters info) := by
    intro topic clusters info
    apply (respects_ofOption _).bind
    intro clusterService
    apply respects_get.bind
    intro p
    rw [← bind_assoc]
    exact (allows.creates ..).bind fun _ => allows.of_execute _
  exact (allows.of_selectByPrimaryKey topicId).bind fun topic => (allows.of_query _).bind fun _ =>
    (respects_ensure _).bind fun _ => (allows.of_query _).bind fun _ => (respects_ofOption _).bind fun clusters =>
    (Respects.forEach fun _ _ => allows.of_execute _).bind fun _ => Respects.forEach fun _ _ => syncs topic clusters _

theorem Allows.of_backupTopicMetadata (dto : BackupTopicMetadataDTO) : Respects R (backupTopicMetadata dto) :=
  (allows.of_query _).bind fun _ => (respects_ofOption _).bind fun _ => (allows.of_query _).bind fun _ =>
    (respects_ofOption _).bind fun _ => (allows.of_query _).bind fun _ => Respects.when fun _ => allows.of_syncTopic ..

theorem Allows.of_deleteTopic {p : Platform} {id : Int}
    (deletes : ∀ topic, p.db.topics.get id = some topic → ∀ service, Respects R (deleteTopicIn topic.name service)) :
    R p (deleteTopic sameText id p).2 := by
  have rest : ∀ (topic : Topic), (∀ service, Respects R (deleteTopicIn topic.name service)) → Respects R (do
      let serviceIds ← onPortal (query fun db =>
        (db.listByTopicId [topic.id]).filterMap (·.serviceId))
      when (serviceIds ≠ []) do
        let services ← onPortal (query fun db => db.listByIds serviceIds)
        forEach (deleteTopicIn topic.name) services
      deleteRules sameText topic.name
      onPortal (execute fun db =>
        db.changeTopic topic.id (fun row => { row with status := SOFT_DELETED }) id_softDeleted)) :=
    fun topic deletes => (allows.of_query _).bind fun _ =>
      (Respects.when fun _ => (allows.of_query _).bind fun _ => Respects.forEach fun service _ => deletes service).bind
        fun _ => (allows.of_deleteRules sameText topic.name).bind fun _ => allows.of_execute _
  cases read : onPortal (selectByPrimaryKey id) p with
  | mk answer q =>
    have related : R p q := by
      have respects := (allows.of_selectByPrimaryKey id).related p
      rwa [read] at respects
    cases answer with
    | none =>
      rw [show deleteTopic sameText id p = (none, q) from bind_of_throws read]
      exact related
    | some topic =>
      rw [show deleteTopic sameText id p = _ from bind_of_returns read]
      exact trans_of R related ((rest topic (deletes topic (found_of_select read))).related q)

theorem Allows.of_leaves {p : Platform} {replication : Option Int} {request : Request}
    (deletes : ∀ id topic, request = .deleteTopic id → p.db.topics.get id = some topic →
      ∀ service, Respects R (deleteTopicIn topic.name service)) :
    R p (leaves sameText byModifyDate fold lower p replication request) := by
  cases request with
  | addConsumer dto => exact (allows.of_onPortal (onNodes_addConsumer fold dto)).related p
  | updateConsumer dto ldapUser => exact (allows.of_onPortal (onNodes_updateConsumer fold dto ldapUser)).related p
  | approveConsumer dto => exact (allows.of_onPortal (topicsStay_approveConsumer fold dto)).related p
  | deleteConsumer id => exact (allows.of_deleteConsumer sameText byModifyDate (some id)).related p
  | copyConsumers envIds consumerIds =>
    exact (allows.of_onPortal (topicsStay_copyConsumers fold envIds consumerIds)).related p
  | backupConsumerMetadata dto => exact (allows.of_onPortal (topicsStay_backupConsumerMetadata fold dto)).related p
  | addTopic dto => exact (allows.of_onPortal (onNodes_addTopic lower dto)).related p
  | updateTopic id dto ldapUser => exact (allows.of_onPortal (onNodes_updateTopic id dto ldapUser)).related p
  | approveTopic id dto => exact (allows.of_approveTopic id dto replication).related p
  | deleteTopic id => exact allows.of_deleteTopic sameText fun topic found => deletes id topic rfl found
  | syncTopic topicId environments =>
    exact ((respects_ensure _).bind fun _ => allows.of_syncTopic topicId environments).related p
  | backupTopicMetadata dto => exact (allows.of_backupTopicMetadata dto).related p

end Calls

/-! ### Nodes name topics that are there -/

/-- What creates or updates a topic leaves one, and on Kafka with no fewer partitions. -/
structure Increases (change : BrokerType → Option Int → Option (Option Int)) : Prop where
  there : ∀ brokerType present partitions, change brokerType present = some partitions → partitions ≠ none
  grows : ∀ current partitions, change .KAFKA (some current) = some partitions →
    ∃ more, partitions = some more ∧ current ≤ more

theorem increases_created (partitions replication : Option Int) : Increases fun brokerType present => do
    let _ ← replication
    let partitions ← partitions
    return some (← created brokerType present partitions) := by
  constructor
  · intro brokerType present result changed
    obtain ⟨_, -, rest⟩ := Option.bind_eq_some_iff.mp changed
    obtain ⟨_, -, rest⟩ := Option.bind_eq_some_iff.mp rest
    obtain ⟨count, -, same⟩ := Option.bind_eq_some_iff.mp rest
    cases same
    exact Option.some_ne_none count
  · intro current result changed
    obtain ⟨_, -, rest⟩ := Option.bind_eq_some_iff.mp changed
    obtain ⟨_, -, rest⟩ := Option.bind_eq_some_iff.mp rest
    obtain ⟨count, left, same⟩ := Option.bind_eq_some_iff.mp rest
    cases same
    cases left
    exact ⟨current, rfl, le_refl current⟩

theorem increases_updated (partitions replication : Option Int) : Increases fun brokerType present => do
    let partitions ← partitions
    let _ ← replication
    return some (← updated brokerType present partitions) := by
  constructor
  · intro brokerType present result changed
    obtain ⟨_, -, rest⟩ := Option.bind_eq_some_iff.mp changed
    obtain ⟨_, -, rest⟩ := Option.bind_eq_some_iff.mp rest
    obtain ⟨count, -, same⟩ := Option.bind_eq_some_iff.mp rest
    cases same
    exact Option.some_ne_none count
  · intro current result changed
    obtain ⟨wanted, -, rest⟩ := Option.bind_eq_some_iff.mp changed
    obtain ⟨_, -, rest⟩ := Option.bind_eq_some_iff.mp rest
    obtain ⟨count, left, same⟩ := Option.bind_eq_some_iff.mp rest
    cases same
    obtain ⟨enough, same⟩ := Option.ite_none_right_eq_some.mp left
    cases same
    exact ⟨wanted, rfl, enough⟩

section Requested
variable {p q : Platform}

theorem clusters_of_keeps (kept : Keeps p q) : q.clusters = p.clusters :=
  (congrArg State.clusters kept).trans rfl

theorem nodes_of_keeps (kept : Keeps p q) : q.nodes = p.nodes :=
  (congrArg State.nodes kept).trans rfl

theorem ends_brokerRequest (p : Platform) (env : EnvId) (clusterName topicName : String)
    (change : BrokerType → Option Int → Option (Option Int)) :
    Ends (brokerRequest env clusterName topicName change) p fun answer q => Keeps p q ∧
      (answer = none ∧ q.brokers = p.brokers ∨
        ∃ brokerType partitions, p.brokerTypes env clusterName = some brokerType ∧
          change brokerType (p.brokers (env, clusterName, topicName)) = some partitions ∧
          q.brokers = Function.update p.brokers (env, clusterName, topicName) partitions) := by
  apply Ends.bind (P := fun _ q => Keeps p q ∧ q.brokers = p.brokers) ⟨keeps_request.related p, rfl⟩
  · intro q same
    exact ⟨same.1, .inl ⟨rfl, same.2⟩⟩
  · rintro _ q ⟨kept, same⟩
    apply ends_get_bind
    apply ends_ofOption_bind
    · intro _
      exact ⟨kept, .inl ⟨rfl, same⟩⟩
    · intro brokerType typed
      apply ends_ofOption_bind
      · intro _
        exact ⟨kept, .inl ⟨rfl, same⟩⟩
      · intro partitions changed
        rw [clusters_of_keeps kept] at typed
        rw [same] at changed
        refine ⟨⟨kept, .inr ⟨brokerType, partitions, typed, changed, ?_⟩⟩⟩
        rw [← same]
        rfl

/-- The cluster that the node of a topic names has the topic. -/
def Backed (p : Platform) : Prop :=
  ∀ env name data, p.nodes env .TOPIC name = some data → p.brokers (env, data.clusterName, name) ≠ none

def StaysBacked (p q : Platform) : Prop := Backed p → Backed q

instance : IsPreorder Platform StaysBacked where
  refl _ := id
  trans _ _ _ first second backed := second (first backed)

theorem backed_of_brokers (backed : Backed p) (nodes : TopicsStay p.nodes q.nodes)
    (there : ∀ env name data, p.nodes env .TOPIC name = some data → p.brokers (env, data.clusterName, name) ≠ none →
      q.brokers (env, data.clusterName, name) ≠ none) : Backed q := by
  intro env name data held
  rw [nodes] at held
  exact there env name data held (backed env name data held)

theorem backed_of_update {key : EnvId × String × String} {partitions : Option Int} (backed : Backed p)
    (kept : Keeps p q) (changed : q.brokers = Function.update p.brokers key partitions)
    (left : ∀ data, p.nodes key.1 .TOPIC key.2.2 = some data → partitions ≠ none) : Backed q := by
  apply backed_of_brokers backed
  · rw [nodes_of_keeps kept]
    exact refl_of TopicsStay p.nodes
  · intro env name data held there
    rw [changed]
    by_cases hit : (env, data.clusterName, name) = key
    · rw [hit, Function.update_self]
      subst hit
      exact left data held
    · rwa [Function.update_of_ne hit]

theorem backed_of_same (backed : Backed p) (kept : Keeps p q) (same : q.brokers = p.brokers) : Backed q := by
  apply backed_of_brokers backed
  · rw [nodes_of_keeps kept]
    exact refl_of TopicsStay p.nodes
  · intro _ _ _ _ there
    rwa [same]

theorem backed_of_increase (backed : Backed p) (env : EnvId) (clusterName topicName : String)
    {change : BrokerType → Option Int → Option (Option Int)} (increases : Increases change) :
    Ends (brokerRequest env clusterName topicName change) p fun answer q =>
      Backed q ∧ (answer ≠ none → q.brokers (env, clusterName, topicName) ≠ none) := by
  apply (ends_brokerRequest p env clusterName topicName change).imp
  rintro answer q ⟨kept, ⟨refused, same⟩ | ⟨brokerType, partitions, -, changed, after⟩⟩
  · exact ⟨backed_of_same backed kept same, fun returned => absurd refused returned⟩
  · have left := increases.there _ _ _ changed
    refine ⟨backed_of_update backed kept after fun _ _ => left, fun _ => ?_⟩
    rw [after, Function.update_self]
    exact left

theorem backed_of_register (backed : Backed p) {env : EnvId} {clusterName topicName : String}
    (there : p.brokers (env, clusterName, topicName) ≠ none) (brokerType : Option BrokerType) :
    Ends (onPortal (registerTopicToZk env clusterName topicName brokerType)) p fun _ q => Backed q := by
  constructor
  intro env' name data held
  obtain ⟨-, same | put⟩ := (ends_writeInfo env .TOPIC topicName (topicData clusterName) p.toState).holds
  · exact backed env' name data ((congrFun (congrFun (congrFun same env') .TOPIC) name).symm.trans held)
  · have held : p.nodes.put env .TOPIC topicName (some (topicData clusterName)) env' .TOPIC name = some data :=
      (congrFun (congrFun (congrFun put env') .TOPIC) name).symm.trans held
    by_cases hit : env' = env ∧ name = topicName
    · obtain ⟨rfl, rfl⟩ := hit
      rw [put_self] at held
      cases held
      exact there
    · rw [put_of_ne _ _ fun same => hit ⟨same.1, same.2.2⟩] at held
      exact backed env' name data held

theorem allows_staysBacked : Allows StaysBacked := by
  constructor
  · intro p q quiet backed
    apply backed_of_brokers backed quiet.nodes
    intro _ _ _ _ there
    rwa [quiet.brokers]
  · intro env clusterName topicName partitions replication brokerType
    refine ⟨fun p backed => ?_⟩
    have creates := backed_of_increase backed env clusterName topicName (increases_created partitions replication)
    refine (creates.bind (Q := fun _ q => Backed q) (fun _ made => made.1) fun _ q made => ?_).holds
    exact backed_of_register made.1 (made.2 (Option.some_ne_none ())) brokerType
  · intro env clusterName topicName partitions replication
    refine ⟨fun p backed => ?_⟩
    exact (backed_of_increase backed env clusterName topicName (increases_updated partitions replication)).holds.1

end Requested

section Deletion
variable {p : Platform} {env : EnvId} {topicName : String}

theorem ends_deleteInfo (p : Platform) (env : EnvId) (type : ZmsType) (name : String) :
    Ends (onPortal (deleteInfo env type name)) p fun answer q => q.clusters = p.clusters ∧ q.brokers = p.brokers ∧
      (answer = none ∧ q.nodes = p.nodes ∨ q.nodes = p.nodes.put env type name none) := by
  have ends : Ends (deleteInfo env type name) p.toState fun answer t => t.clusters = p.clusters ∧
      (answer = none ∧ t.nodes = p.nodes ∨ t.nodes = p.nodes.put env type name none) := by
    apply Ends.bind (P := fun _ t => t.clusters = p.clusters ∧ t.nodes = p.nodes) ⟨rfl, rfl⟩
    · intro t same
      exact ⟨same.1, .inl ⟨rfl, same.2⟩⟩
    · intro _ t same
      exact ⟨same.1, .inr (congrArg (fun nodes : Nodes => nodes.put env type name none) same.2)⟩
  exact ⟨ends.holds.1, rfl, ends.holds.2⟩

theorem backed_of_put_none {q : Platform} (backed : Backed p) (brokers : q.brokers = p.brokers)
    (put : q.nodes = p.nodes.put env .TOPIC topicName none) : Backed q ∧ q.nodes env .TOPIC topicName = none := by
  refine ⟨fun env' name data held => ?_, by rw [put, put_self]⟩
  rw [put] at held
  rw [brokers]
  by_cases hit : env' = env ∧ name = topicName
  · obtain ⟨rfl, rfl⟩ := hit
    rw [put_self] at held
    cases held
  · rw [put_of_ne _ _ fun same => hit ⟨same.1, same.2.2⟩] at held
    exact backed env' name data held

theorem staysBacked_deleteTopicIn (topicName : String) (service : ZmsService) :
    Respects StaysBacked (deleteTopicIn topicName service) := by
  apply (allows_staysBacked.of_onPortal (onNodes_checkPath ..)).bind
  intro present
  apply Respects.when
  intro _
  refine ⟨fun p backed => ?_⟩
  refine ((ends_deleteInfo p service.environmentId .TOPIC topicName).bind (Q := fun _ q => Backed q) ?_ ?_).holds
  · rintro q ⟨-, brokers, ⟨-, same⟩ | put⟩
    · apply backed_of_brokers backed
      · rw [same]
        exact refl_of TopicsStay p.nodes
      · intro _ _ _ _ there
        rwa [brokers]
    · exact (backed_of_put_none backed brokers put).1
  · rintro _ q ⟨-, brokers, ⟨impossible, -⟩ | put⟩
    · cases impossible
    · obtain ⟨backed, gone⟩ := backed_of_put_none backed brokers put
      apply (ends_brokerRequest q service.environmentId service.serverName topicName deleted).imp
      rintro answer r ⟨kept, ⟨-, same⟩ | ⟨brokerType, partitions, -, -, changed⟩⟩
      · exact backed_of_same backed kept same
      · apply backed_of_update backed kept changed
        intro data held
        cases gone.symm.trans held

end Deletion

/-- In every run of the platform, whatever fails in it, the cluster that the node of a topic names has the
topic: a topic is made before its node, and deleted after it. -/
theorem backed_of_steps {sameText : String → String → Bool}
    {byModifyDate : List Alert.AlertRuleConfig → List Alert.AlertRuleConfig} {fold : Char → Char}
    {lower : String → String} {p q : Platform} (backed : Backed p)
    (steps : (platform sameText byModifyDate fold lower).Steps p q) : Backed q := by
  refine steps.invariant Backed ?_ backed
  rintro p ⟨⟨request, answers⟩, replication⟩ backed -
  exact allows_staysBacked.of_leaves sameText byModifyDate fold lower
    (fun _ topic _ _ => staysBacked_deleteTopicIn topic.name) backed

/-! ### Kafka topics only grow -/

/-- What a Kafka cluster has of a topic stays or grows. -/
structure GrowsAt (key : EnvId × String × String) (p q : Platform) : Prop where
  clusters : q.clusters = p.clusters
  grows : p.brokerTypes key.1 key.2.1 = some .KAFKA → ∀ current, p.brokers key = some current →
    ∃ more, q.brokers key = some more ∧ current ≤ more

section Growth
variable {key : EnvId × String × String} {p q : Platform}

theorem growsAt_of_same (clusters : q.clusters = p.clusters) (brokers : q.brokers = p.brokers) : GrowsAt key p q :=
  ⟨clusters, fun _ current held => ⟨current, brokers ▸ held, le_refl current⟩⟩

instance : IsPreorder Platform (GrowsAt key) where
  refl _ := growsAt_of_same rfl rfl
  trans p q r first second := by
    refine ⟨second.clusters.trans first.clusters, fun kafka current held => ?_⟩
    have types : q.brokerTypes = p.brokerTypes := by
      unfold Platform.brokerTypes
      rw [first.clusters]
    obtain ⟨more, later, grown⟩ := first.grows kafka current held
    obtain ⟨most, last, grownAgain⟩ := second.grows (types ▸ kafka) more later
    exact ⟨most, last, grown.trans grownAgain⟩

theorem growsAt_brokerRequest {env : EnvId} {clusterName topicName : String}
    {change : BrokerType → Option Int → Option (Option Int)}
    (grows : (env, clusterName, topicName) = key → ∀ current partitions,
      change .KAFKA (some current) = some partitions → ∃ more, partitions = some more ∧ current ≤ more) :
    Respects (GrowsAt key) (brokerRequest env clusterName topicName change) := by
  constructor
  intro p
  obtain ⟨kept, ⟨-, same⟩ | ⟨brokerType, partitions, typed, changed, after⟩⟩ :=
    (ends_brokerRequest p env clusterName topicName change).holds
  · exact growsAt_of_same (clusters_of_keeps kept) same
  · refine ⟨clusters_of_keeps kept, fun kafka current held => ?_⟩
    rw [after]
    by_cases hit : (env, clusterName, topicName) = key
    · subst hit
      cases typed.symm.trans kafka
      rw [held] at changed
      rw [Function.update_self]
      exact grows rfl current partitions changed
    · rw [Function.update_of_ne (Ne.symm hit)]
      exact ⟨current, held, le_refl current⟩

theorem allows_growsAt (key : EnvId × String × String) : Allows (GrowsAt key) where
  quiet _ _ quiet := growsAt_of_same quiet.clusters quiet.brokers
  creates env clusterName topicName partitions replication _ :=
    (growsAt_brokerRequest fun _ => (increases_created partitions replication).grows).bind fun _ =>
      ⟨fun p => growsAt_of_same (ends_writeInfo env .TOPIC topicName (topicData clusterName) p.toState).holds.1 rfl⟩
  updates _ _ _ partitions replication :=
    growsAt_brokerRequest fun _ => (increases_updated partitions replication).grows

theorem growsAt_deleteTopicIn {topicName : String} (other : topicName ≠ key.2.2) (service : ZmsService) :
    Respects (GrowsAt key) (deleteTopicIn topicName service) := by
  apply ((allows_growsAt key).of_onPortal (onNodes_checkPath ..)).bind
  intro present
  apply Respects.when
  intro _
  apply Respects.bind
  · constructor
    intro p
    obtain ⟨clusters, brokers, -⟩ := (ends_deleteInfo p service.environmentId .TOPIC topicName).holds
    exact growsAt_of_same clusters brokers
  · intro _
    apply growsAt_brokerRequest
    intro same
    exact absurd (congrArg (fun key => key.2.2) same) other

end Growth

def SparesTopic (topicName : String) (p : Platform) (action : PlatformAction) : Prop :=
  ∀ id topic, action.request = .deleteTopic id → p.db.topics.get id = some topic → topic.name ≠ topicName

/-- While a topic is not deleted, whatever else is asked and whatever fails, a Kafka cluster that has it keeps it
with no fewer partitions, whichever cluster its rows and nodes name. -/
theorem grows_of_steps {sameText : String → String → Bool}
    {byModifyDate : List Alert.AlertRuleConfig → List Alert.AlertRuleConfig} {fold : Char → Char}
    {lower : String → String} {env : EnvId} {clusterName topicName : String} {p q : Platform}
    (kafka : p.brokerTypes env clusterName = some .KAFKA) {current : Int}
    (held : p.brokers (env, clusterName, topicName) = some current)
    (steps : ((platform sameText byModifyDate fold lower).restrict (SparesTopic topicName)).Steps p q) :
    ∃ more, q.brokers (env, clusterName, topicName) = some more ∧ current ≤ more := by
  have grown : GrowsAt (env, clusterName, topicName) p q := by
    refine steps.invariant (GrowsAt (env, clusterName, topicName) p) ?_ (refl_of (GrowsAt _) p)
    rintro p' ⟨⟨request, answers⟩, replication⟩ grown ⟨-, spares⟩
    apply trans_of (GrowsAt _) grown
    have answered : GrowsAt (env, clusterName, topicName) p' { p' with answers } := growsAt_of_same rfl rfl
    apply trans_of (GrowsAt _) answered
    apply (allows_growsAt _).of_leaves sameText byModifyDate fold lower
    intro id topic same found
    exact growsAt_deleteTopicIn (spares id topic same found)
  exact grown.grows kafka current held

/-! ### Runs -/

/-- The clusters have a topic that is to come to both environments. -/
def servedAlready : Platform := { twoEnvironments 0 with brokers := fun _ => some 4 }

/-- Everything is done but the node of the second environment. -/
def syncsBoth : PlatformAction := ⟨⟨.syncTopic 1 bothEnvironments, (· ≠ 9)⟩, none⟩

def approvesMore : PlatformAction :=
  ⟨⟨.approveTopic 1 ⟨some "orders", none, none, none, none, some 8, none, some bothEnvironments⟩, (· ≠ 6)⟩, some 1⟩

abbrev plainPlatform : Guarded Platform PlatformAction := platform (· == ·) id Char.toLower String.toLower

def approvedInPart : Platform := plainPlatform.effect (plainPlatform.effect servedAlready syncsBoth) approvesMore

theorem sparesTopic_of_ne {p : Platform} {action : PlatformAction} {topicName : String}
    (other : ∀ id, action.request ≠ .deleteTopic id) : SparesTopic topicName p action :=
  fun id _ same => absurd same (other id)

theorem steps_approvedInPart : (plainPlatform.restrict (SparesTopic "orders")).Steps servedAlready approvedInPart := by
  have syncs : (plainPlatform.restrict (SparesTopic "orders")).guard servedAlready syncsBoth :=
    ⟨trivial, sparesTopic_of_ne fun _ => by rintro ⟨⟩⟩
  have approves : ∀ p, (plainPlatform.restrict (SparesTopic "orders")).guard p approvesMore :=
    fun _ => ⟨trivial, sparesTopic_of_ne fun _ => by rintro ⟨⟩⟩
  exact (Guarded.Steps.one syncs).trans (.one (approves _))

theorem shown_by_portal_of_part : ∃ t, (portal Char.toLower String.toLower).Steps servedAlready.toState t ∧
    Shows approvedInPart t := shown_by_portal steps_approvedInPart.of_restrict

theorem backed_of_part : Backed approvedInPart ∧
    approvedInPart.nodes 1 .TOPIC "orders" ≠ none ∧ approvedInPart.nodes 2 .TOPIC "orders" = none := by
  have empty : Backed servedAlready := by
    intro env name data held
    cases held
  exact ⟨backed_of_steps empty steps_approvedInPart.of_restrict, by decide +kernel, by decide +kernel⟩

theorem grows_of_part : approvedInPart.brokers (1, "main", "orders") = some 8 ∧
    ∃ more, approvedInPart.brokers (1, "main", "orders") = some more ∧ 4 ≤ more :=
  ⟨by decide +kernel, grows_of_steps rfl rfl steps_approvedInPart⟩

end Zms.Portal.Brokers
