import Zms.Portal.AlertService
import Zms.Portal.ResourceTopics
import Zms.Portal.ResourceSteps

/-! The portal together with the brokers and the alert rules: what creates, changes and
deletes the topics of the clusters.

A request to a manager that fails changes nothing in its cluster.
-/

set_option autoImplicit false

namespace Zms.Portal.Brokers

open Zms.Registry Zms.Transition Zms.Transition.Throwing Zms.Portal.Resources

/-- The partitions of the topics, by environment, cluster and name. -/
abbrev BrokerTopics := EnvId × String × String → Option Int

/-- `replication` is a column of `topic`, which cannot be null. -/
structure Platform extends State where
  brokers : BrokerTopics
  replication : Int → Int
  rules : AlertService.Rules

abbrev PlatformCall (α : Type) := Throwing Platform α

/-- What leaves brokers and rules as they are. -/
def onPortal {α : Type} (call : Call α) : PlatformCall α := fun p =>
  ((call p.toState).1, { p with toState := (call p.toState).2 })

/-- A request to the manager of a cluster, which `change`s the partitions of a topic there. -/
def brokerRequest (env : EnvId) (clusterName topicName : String)
    (change : BrokerType → Option Int → Option (Option Int)) : PlatformCall Unit := do
  onPortal request
  let p ← get
  let brokerType ← ofOption ((p.clusters env clusterName).bind (·.brokerType))
  let partitions ← ofOption (change brokerType (p.brokers (env, clusterName, topicName)))
  modify fun p => { p with brokers := Function.update p.brokers (env, clusterName, topicName) partitions }

/-- The managers' `createTopic`: Kafka leaves a topic that is there, and none is without partitions. -/
def created (brokerType : BrokerType) (present : Option Int) (partitions : Int) : Option Int :=
  match brokerType, present with
  | .KAFKA, some current => some current
  | .KAFKA, none => if 0 < partitions then some partitions else none
  | .ROCKETMQ, _ => some partitions

/-- `TopicService.updateTopic`: a topic that is not there is created; Kafka can only increase. -/
def updated (brokerType : BrokerType) (present : Option Int) (partitions : Int) : Option Int :=
  match brokerType, present with
  | .KAFKA, some current => if current ≤ partitions then some partitions else none
  | _, _ => created brokerType present partitions

/-- The managers' `deleteTopic`: Kafka has to have the topic. -/
def deleted (brokerType : BrokerType) (present : Option Int) : Option (Option Int) :=
  if brokerType = .KAFKA ∧ present = none then none else some none

namespace TopicService

def createTopic (env : EnvId) (clusterName topicName : String) (partitions replication : Option Int) :
    PlatformCall Unit :=
  brokerRequest env clusterName topicName fun brokerType present => do
    let _ ← replication
    let partitions ← partitions
    return some (← created brokerType present partitions)

def updateTopic (env : EnvId) (clusterName topicName : String) (partitions replication : Option Int) :
    PlatformCall Unit :=
  brokerRequest env clusterName topicName fun brokerType present => do
    let partitions ← partitions
    let _ ← replication
    return some (← updated brokerType present partitions)

def deleteTopic (env : EnvId) (clusterName topicName : String) : PlatformCall Unit :=
  brokerRequest env clusterName topicName deleted

end TopicService

/-! ### Deletion -/

theorem id_softDeleted (row : Topic) : { row with status := SOFT_DELETED }.id = row.id := rfl

section Deletion
variable (sameText : String → String → Bool)

def listByTopic (rules : AlertService.Rules) (topicName : String) : List Alert.AlertRuleConfig :=
  rules.rows.filter fun row => sameText row.type "topic" && sameText row.name topicName

/-- `AlertService.delete`, which is `@Transactional`. -/
def deleteRule (rule : Alert.AlertRuleConfig) : PlatformCall Unit := do
  onPortal request
  let p ← get
  let sending ← ofOption (AlertService.delete p.rules rule)
  modify fun p => { p with rules := sending.rules }

def deleteRules (topicName : String) : PlatformCall Unit := do
  onPortal request
  let p ← get
  forEach deleteRule (listByTopic sameText p.rules topicName)

def deleteTopicIn (topicName : String) (service : ZmsService) : PlatformCall Unit := do
  let present ← onPortal (checkPath service.environmentId .TOPIC topicName)
  when (present = true) do
    onPortal (deleteInfo service.environmentId .TOPIC topicName)
    TopicService.deleteTopic service.environmentId service.serverName topicName

def deleteTopic (id : Int) : PlatformCall Unit := do
  let topic ← onPortal (selectByPrimaryKey id)
  let serviceIds ← onPortal (query fun db => (db.listByTopicId [topic.id]).filterMap (·.serviceId))
  when (serviceIds ≠ []) do
    let services ← onPortal (query fun db => db.listByIds serviceIds)
    forEach (deleteTopicIn topic.name) services
  deleteRules sameText topic.name
  onPortal (execute fun db =>
    db.changeTopic topic.id (fun row => { row with status := SOFT_DELETED }) id_softDeleted)

end Deletion

/-! ### Approval -/

def initTopicResource (env : EnvId) (partitions replication : Option Int) (topic : Topic) (localClusterId : Option Int)
    (service : ZmsService) : PlatformCall Bool :=
  if topic.status = CREATE_NEW ∨ some service.id ≠ localClusterId then do
    TopicService.createTopic env service.serverName topic.name partitions replication
    onPortal (registerTopicToZk env service.serverName topic.name (Database.brokerTypeOf service.serverType))
    return true
  else do
    let current ← ofOption topic.partitions
    if some current ≠ partitions then do
      TopicService.updateTopic env service.serverName topic.name partitions replication
      return true
    else return false

/-- One environment of an approval, in its own `try`. -/
def approveIn (topic : Topic) (partitions replication : Option Int) (localClusterId : Option Int)
    (service : Option ZmsService) (env : EnvId) : PlatformCall Unit := do
  let service ← ofOption service
  let updated ← initTopicResource env partitions replication topic localClusterId service
  when (updated = true) (onPortal (execute fun db => some (db.updateCluster topic.id env service.id)))

/-- Answers the environments that failed. -/
def approveEach (topic : Topic) (partitions replication : Option Int) (serviceList : List ZmsService)
    (localRefs : List JoinedRef) : List EnvironmentInfoVo → PlatformCall (List EnvId)
  | [] => return []
  | info :: rest => do
      let ref ← ofOption (localRefs.find? fun ref => ref.environmentId = info.environmentId)
      let approved ← attempt (approveIn topic partitions replication ref.serviceId
        (serviceOf serviceList info.serviceId) info.environmentId)
      let failEnv ← approveEach topic partitions replication serviceList localRefs rest
      return if approved = none then info.environmentId :: failEnv else failEnv

theorem id_partitioned (partitions : Option Int) (row : Topic) :
    { row with partitions := partitions.or row.partitions }.id = row.id := rfl

theorem id_approved (row : Topic) : { row with status := CREATE_APPROVED }.id = row.id := rfl

/-- `TopicMapper.updateById`: what is not null, and no statement without a column. -/
def updateById (id : Int) (partitions replication : Option Int) : PlatformCall Unit := do
  ensure (partitions.isSome = true ∨ replication.isSome = true)
  onPortal (execute fun db =>
    db.changeTopic id (fun row => { row with partitions := partitions.or row.partitions }) (id_partitioned partitions))
  modify fun p => { p with replication := Function.update p.replication id (replication.getD (p.replication id)) }

def approveTopic (id : Int) (dto : TopicDTO) (replication : Option Int) : PlatformCall (List EnvId) := do
  let topic ← onPortal (selectByPrimaryKey id)
  let environmentInfoVos ← ofOption dto.environments
  let serviceList ← onPortal (listZmsServiceEntities (environmentInfoVos.map (·.serviceId)))
  ensure ((serviceList.map (·.serverType)).dedup.length = 1)
  let localRefs ← onPortal (query fun db => db.listByTopicId [id])
  updateById id dto.partitions replication
  let failEnv ← approveEach topic dto.partitions replication serviceList localRefs environmentInfoVos
  ensure (failEnv.length < environmentInfoVos.length)
  onPortal (execute fun db => db.changeTopic id (fun row => { row with status := CREATE_APPROVED }) id_approved)
  return failEnv

/-! ### Synchronisation -/

def syncNext (topic : Topic) (clusters : List ZmsService) (info : EnvironmentInfoVo) : PlatformCall Unit := do
  let clusterService ← ofOption (serviceOf clusters info.serviceId)
  let p ← get
  TopicService.createTopic info.environmentId clusterService.serverName topic.name topic.partitions
    (some (p.replication topic.id))
  onPortal (registerTopicToZk info.environmentId clusterService.serverName topic.name
    (Database.brokerTypeOf clusterService.serverType))
  onPortal (execute fun db => some (db.updateCluster topic.id info.environmentId clusterService.id))

def syncTopic (topicId : Int) (environments : List EnvironmentInfoVo) : PlatformCall Unit := do
  let topic ← onPortal (selectByPrimaryKey topicId)
  let localEnvIds ← onPortal (query fun db => (db.listByTopicId [topicId]).map (·.environmentId))
  let addEnvList := environments.filter fun item => !localEnvIds.contains item.environmentId
  ensure (addEnvList ≠ [])
  let listed ← onPortal (query fun db => db.listClustersByServiceIds (addEnvList.map (·.serviceId)))
  let clusters ← ofOption listed
  forEach (fun item => onPortal (installTopicEnvRef topic.id item.environmentId)) addEnvList
  forEach (syncNext topic clusters) addEnvList

def backupTopicMetadata (dto : BackupTopicMetadataDTO) : PlatformCall Unit := do
  let found ← onPortal (query fun db => db.getByTopicName dto.topic)
  let topic ← ofOption found
  let cluster ← onPortal (query fun db => db.getByEnvIdAndName dto.currentEnvId dto.clusterName)
  let clusterServiceEntity ← ofOption cluster
  let envs ← onPortal (query fun db => (db.listByTopicId [topic.id]).map (·.environmentId))
  when (dto.currentEnvId ∉ envs)
    (syncTopic topic.id [⟨dto.currentEnvId, some clusterServiceEntity.id, none, none⟩])

/-! ### Without the brokers -/

/-- Answers, and then the `rest`. -/
def ahead : List Bool → (Nat → Bool) → Nat → Bool
  | [], rest => rest
  | answer :: used, rest => fun
    | 0 => answer
    | n + 1 => ahead used rest n

theorem ahead_append (first second : List Bool) (rest : Nat → Bool) :
    ahead (first ++ second) rest = ahead first (ahead second rest) := by
  induction first with
  | nil => rfl
  | cons answer used ih =>
    funext n
    cases n with
    | zero => rfl
    | succ n => exact congrFun ih n

def answering (s : State) (answers : Nat → Bool) : State := { s with answers }

/-- What the program does to the portal, the call does when it is given some answers. -/
structure Forgets {α : Type} (program : PlatformCall α) (call : Call α) : Prop where
  follows : ∀ p, ∃ used, ∀ rest, call (answering p.toState (ahead used rest)) =
    ((program p).1, answering (program p).2.toState rest)

def Keeps (p q : Platform) : Prop := q.toState = answering p.toState q.answers

instance : IsPreorder Platform Keeps where
  refl _ := rfl
  trans p q r first second := by
    unfold Keeps at first second ⊢
    rw [second, first]
    rfl

section Forgets
variable {α β : Type} {program : PlatformCall α} {call : Call α}

theorem forgets_pure (a : α) : Forgets (pure a) (pure a) := ⟨fun _ => ⟨[], fun _ => rfl⟩⟩

theorem forgets_ofOption (a : Option α) : Forgets (ofOption a) (ofOption a) := ⟨fun _ => ⟨[], fun _ => rfl⟩⟩

theorem forgets_ensure (condition : Prop) [Decidable condition] : Forgets (ensure condition) (ensure condition) :=
  ⟨fun _ => ⟨[], fun _ => rfl⟩⟩

theorem Forgets.bind {next : α → PlatformCall β} {next' : α → Call β} (first : Forgets program call)
    (rest : ∀ a, Forgets (next a) (next' a)) : Forgets (program >>= next) (call >>= next') := by
  constructor
  intro p
  obtain ⟨used, same⟩ := first.follows p
  cases ends : program p with
  | mk answer q =>
    rw [ends] at same
    cases answer with
    | none =>
      refine ⟨used, fun later => ?_⟩
      rw [bind_of_throws (same later), bind_of_throws ends]
    | some a =>
      obtain ⟨used', same'⟩ := (rest a).follows q
      refine ⟨used ++ used', fun later => ?_⟩
      rw [ahead_append, bind_of_returns (same _), bind_of_returns ends]
      exact same' later

theorem forgets_get_bind {next : Platform → PlatformCall α} (rest : ∀ p, Forgets (next p) call) :
    Forgets (get >>= next) call := ⟨fun p => (rest p).follows p⟩

theorem Forgets.when {condition : Prop} [Decidable condition] {program : PlatformCall Unit} {call : Call Unit}
    (forgets : Forgets program call) : Forgets (when condition program) (when condition call) := by
  unfold Throwing.when
  split
  · exact forgets
  · exact forgets_pure ()

theorem Forgets.attempt (forgets : Forgets program call) : Forgets (attempt program) (attempt call) := by
  constructor
  intro p
  obtain ⟨used, same⟩ := forgets.follows p
  refine ⟨used, fun later => ?_⟩
  unfold Throwing.attempt
  rw [same later]

theorem forgets_forEach {body : α → PlatformCall Unit} {body' : α → Call Unit}
    (forgets : ∀ a, Forgets (body a) (body' a)) (items : List α) :
    Forgets (forEach body items) (forEach body' items) := by
  induction items with
  | nil => exact forgets_pure ()
  | cons a rest ih => exact (forgets a).bind fun _ => ih

theorem forgets_request {program : PlatformCall Unit} (keeps : Respects Keeps program) :
    Forgets program request := by
  constructor
  intro p
  refine ⟨[(program p).1.isSome], fun later => ?_⟩
  rw [keeps.related p]
  cases (program p).1 <;> rfl

theorem forgets_onPortal {next : Unit → Call α}
    (follows : ∀ s answers, next () (answering s answers) = ((next () s).1, answering (next () s).2 answers)) :
    Forgets (onPortal (request >>= next)) (request >>= next) := by
  constructor
  intro p
  refine ⟨[p.answers 0], fun later => ?_⟩
  unfold onPortal
  cases answered : p.answers 0 with
  | false =>
    rw [bind_of_throws (request_of_refused answered)]
    exact bind_of_throws (request_of_refused rfl)
  | true =>
    rw [bind_of_returns (request_of_answered answered)]
    change _ = ((next () (answering p.toState _)).1, answering (next () (answering p.toState _)).2 later)
    rw [follows]
    exact (bind_of_returns (request_of_answered rfl)).trans (follows p.toState later)

theorem forgets_query {select : Database → α} : Forgets (onPortal (query select)) (query select) :=
  forgets_onPortal fun _ _ => rfl

theorem forgets_execute {statement : Database → Option Database} :
    Forgets (onPortal (execute statement)) (execute statement) := by
  apply forgets_onPortal
  intro s answers
  change (ofOption (statement s.db) >>= _) _ =
    (((ofOption (statement s.db) >>= _) _).1, answering ((ofOption _ >>= _) _).2 _)
  cases statement s.db <;> rfl

theorem forgets_checkPath (env : EnvId) (type : ZmsType) (name : String) :
    Forgets (onPortal (checkPath env type name)) (checkPath env type name) := forgets_onPortal fun _ _ => rfl

theorem forgets_deleteInfo (env : EnvId) (type : ZmsType) (name : String) :
    Forgets (onPortal (deleteInfo env type name)) (deleteInfo env type name) := forgets_onPortal fun _ _ => rfl

theorem forgets_writeInfo (env : EnvId) (type : ZmsType) (name : String) (data : Option Properties) :
    Forgets (onPortal (writeInfo env type name data)) (writeInfo env type name data) := by
  cases data with
  | none => exact ⟨fun p => ⟨[], fun _ => rfl⟩⟩
  | some data =>
    change Forgets (onPortal (request >>= fun _ => modify _)) (request >>= fun _ => modify _)
    exact forgets_onPortal fun _ _ => rfl

theorem onPortal_eq {p : Platform} {answer : Option α} {t : State} (ends : call p.toState = (answer, t)) :
    onPortal call p = (answer, { p with toState := t }) := by
  unfold onPortal
  rw [ends]

theorem onPortal_bind (first : Call α) (next : α → Call β) :
    onPortal (first >>= next) = onPortal first >>= fun a => onPortal (next a) := by
  funext p
  cases ends : first p.toState with
  | mk answer t =>
    cases answer with
    | none => exact (onPortal_eq (bind_of_throws ends)).trans (bind_of_throws (onPortal_eq ends)).symm
    | some a =>
      rw [bind_of_returns (onPortal_eq ends)]
      cases later : next a t with
      | mk answer' u =>
        have later' : next a ({ p with toState := t } : Platform).toState = (answer', u) := later
        rw [onPortal_eq ((bind_of_returns ends).trans later), onPortal_eq later']

theorem Forgets.onPortal_bind {next : α → Call β} (first : Forgets (onPortal call) call)
    (rest : ∀ a, Forgets (onPortal (next a)) (next a)) : Forgets (onPortal (call >>= next)) (call >>= next) := by
  rw [Brokers.onPortal_bind]
  exact first.bind rest

theorem forgets_selectByPrimaryKey (id : Int) : Forgets (onPortal (selectByPrimaryKey id)) (selectByPrimaryKey id) :=
  forgets_query.onPortal_bind fun _ => ⟨fun _ => ⟨[], fun _ => rfl⟩⟩

theorem forgets_listZmsServiceEntities (serviceIds : List (Option Int)) :
    Forgets (onPortal (listZmsServiceEntities serviceIds)) (listZmsServiceEntities serviceIds) :=
  forgets_query.onPortal_bind fun listed => by
    rw [Brokers.onPortal_bind]
    refine Forgets.bind ⟨fun _ => ⟨[], fun _ => rfl⟩⟩ fun serviceList => ?_
    rw [Brokers.onPortal_bind]
    exact Forgets.bind ⟨fun _ => ⟨[], fun _ => rfl⟩⟩ fun _ => ⟨fun _ => ⟨[], fun _ => rfl⟩⟩

theorem keeps_request : Respects Keeps (onPortal request) := ⟨fun _ => rfl⟩

theorem keeps_brokerRequest (env : EnvId) (clusterName topicName : String)
    (change : BrokerType → Option Int → Option (Option Int)) :
    Respects Keeps (brokerRequest env clusterName topicName change) :=
  keeps_request.bind fun _ => respects_get.bind fun _ => (respects_ofOption _).bind fun _ =>
    (respects_ofOption _).bind fun _ => ⟨fun _ => rfl⟩

theorem keeps_deleteRule (rule : Alert.AlertRuleConfig) : Respects Keeps (deleteRule rule) :=
  keeps_request.bind fun _ => respects_get.bind fun _ => (respects_ofOption _).bind fun _ => ⟨fun _ => rfl⟩

theorem keeps_deleteRules (sameText : String → String → Bool) (topicName : String) :
    Respects Keeps (deleteRules sameText topicName) :=
  keeps_request.bind fun _ => respects_get.bind fun _ => Respects.forEach fun rule _ => keeps_deleteRule rule

theorem forgets_brokerRequest (env : EnvId) (clusterName topicName : String)
    (change : BrokerType → Option Int → Option (Option Int)) :
    Forgets (brokerRequest env clusterName topicName change) topicService := forgets_request (keeps_brokerRequest ..)

theorem forgets_createTopic (env : EnvId) (clusterName topicName : String) (partitions replication : Option Int) :
    Forgets (TopicService.createTopic env clusterName topicName partitions replication) topicService :=
  forgets_brokerRequest ..

theorem forgets_registerTopicToZk (env : EnvId) (clusterName topicName : String) (brokerType : Option BrokerType) :
    Forgets (onPortal (registerTopicToZk env clusterName topicName brokerType))
      (registerTopicToZk env clusterName topicName brokerType) := forgets_writeInfo ..

/-! ### The calls -/

theorem forgets_deleteTopicIn (topicName : String) (service : ZmsService) :
    Forgets (deleteTopicIn topicName service) (Resources.deleteTopicIn topicName service) :=
  (forgets_checkPath ..).bind fun _ => Forgets.when ((forgets_deleteInfo ..).bind fun _ => forgets_brokerRequest ..)

theorem forgets_deleteServices (topicName : String) (serviceIds : List Int) :
    Forgets (when (serviceIds ≠ []) do
      let services ← onPortal (query fun db => db.listByIds serviceIds)
      forEach (deleteTopicIn topicName) services) (do
      let services ← query fun db => db.listByIds serviceIds
      forEach (Resources.deleteTopicIn topicName) services) := by
  by_cases listed : serviceIds ≠ []
  · unfold Throwing.when
    rw [if_pos listed]
    exact forgets_query.bind fun _ => forgets_forEach (forgets_deleteTopicIn topicName) _
  · obtain rfl : serviceIds = [] := not_not.mp listed
    refine ⟨fun p => ⟨[true], fun later => ?_⟩⟩
    rw [bind_of_returns (query_of_answered rfl)]
    have none_listed : p.db.listByIds [] = [] := List.filter_eq_nil_iff.mpr fun _ _ => by simp
    change forEach _ (p.db.listByIds []) _ = _
    rw [none_listed]
    rfl

theorem forgets_deleteTopic (sameText : String → String → Bool) (id : Int) :
    Forgets (deleteTopic sameText id) (Resources.deleteTopic id) := by
  unfold Resources.deleteTopic
  refine (forgets_selectByPrimaryKey id).bind fun topic => forgets_query.bind fun serviceIds => ?_
  rw [← bind_assoc (query fun db => db.listByIds serviceIds)]
  exact (forgets_deleteServices topic.name serviceIds).bind fun _ =>
    (forgets_request (keeps_deleteRules sameText topic.name)).bind fun _ => forgets_execute

theorem forgets_updateById (id : Int) (partitions replication : Option Int) :
    Forgets (updateById id partitions replication) (execute fun db =>
      db.changeTopic id (fun row => { row with partitions := partitions.or row.partitions }) fun _ => rfl) := by
  constructor
  intro p
  unfold updateById
  by_cases columns : partitions.isSome = true ∨ replication.isSome = true
  · rw [ensure_bind columns]
    obtain ⟨used, same⟩ := forgets_execute.follows p
    refine ⟨used, fun later => (same later).trans ?_⟩
    cases ends : onPortal (execute _) p with
    | mk answer q =>
      cases answer with
      | none => rw [bind_of_throws ends]
      | some _ =>
        rw [bind_of_returns ends]
        rfl
  · rw [ensure_bind_of_not columns]
    exact ⟨[false], fun later => execute_of_refused rfl⟩

theorem forgets_initTopicResource (env : EnvId) (partitions replication : Option Int) (topic : Topic)
    (localClusterId : Option Int) (service : ZmsService) :
    Forgets (initTopicResource env partitions replication topic localClusterId service)
      (Resources.initTopicResource env partitions topic localClusterId service) := by
  unfold initTopicResource Resources.initTopicResource
  split
  · exact (forgets_createTopic ..).bind fun _ => (forgets_registerTopicToZk ..).bind fun _ => forgets_pure true
  · refine (forgets_ofOption _).bind fun current => ?_
    split
    · exact (forgets_brokerRequest ..).bind fun _ => forgets_pure true
    · exact forgets_pure false

theorem forgets_approveEach (topic : Topic) (dto : TopicDTO) (replication : Option Int) (serviceList : List ZmsService)
    (localRefs : List JoinedRef) (infos : List EnvironmentInfoVo) :
    Forgets (approveEach topic dto.partitions replication serviceList localRefs infos)
      (Resources.approveEach topic dto serviceList localRefs infos) := by
  induction infos with
  | nil => exact forgets_pure []
  | cons info rest ih =>
    refine (forgets_ofOption _).bind fun ref => Forgets.bind (Forgets.attempt ?_) fun approved =>
      ih.bind fun failEnv => forgets_pure _
    exact (forgets_ofOption _).bind fun service => (forgets_initTopicResource ..).bind fun _ =>
      Forgets.when forgets_execute

theorem forgets_approveTopic (id : Int) (dto : TopicDTO) (replication : Option Int) :
    Forgets (approveTopic id dto replication) (Resources.approveTopic id dto) :=
  (forgets_selectByPrimaryKey id).bind fun _ => (forgets_ofOption _).bind fun _ =>
    (forgets_listZmsServiceEntities _).bind fun _ => (forgets_ensure _).bind fun _ =>
      forgets_query.bind fun _ => (forgets_updateById ..).bind fun _ =>
        (forgets_approveEach ..).bind fun failEnv => (forgets_ensure _).bind fun _ =>
          forgets_execute.bind fun _ => forgets_pure failEnv

theorem forgets_syncTopic (topicId : Int) (environments : List EnvironmentInfoVo) :
    Forgets (syncTopic topicId environments) (Resources.syncTopic topicId environments) := by
  refine (forgets_selectByPrimaryKey topicId).bind fun topic => forgets_query.bind fun localEnvIds =>
    (forgets_ensure _).bind fun _ => forgets_query.bind fun listed => (forgets_ofOption listed).bind fun clusters =>
      (forgets_forEach (fun _ => forgets_execute) _).bind fun _ => forgets_forEach (fun info => ?_) _
  exact (forgets_ofOption _).bind fun clusterService => forgets_get_bind fun p =>
    (forgets_createTopic ..).bind fun _ => (forgets_registerTopicToZk ..).bind fun _ => forgets_execute

theorem forgets_backupTopicMetadata (dto : BackupTopicMetadataDTO) :
    Forgets (backupTopicMetadata dto) (Resources.backupTopicMetadata dto) :=
  forgets_query.bind fun found => (forgets_ofOption found).bind fun _ => forgets_query.bind fun cluster =>
    (forgets_ofOption cluster).bind fun _ => forgets_query.bind fun _ => Forgets.when (forgets_syncTopic ..)

end Forgets

/-! ### The requests as steps -/

structure PlatformRows where
  db : Database
  nodes : Nodes
  brokers : BrokerTopics
  rules : AlertService.Rules

def Platform.rows (p : Platform) : PlatformRows := ⟨p.db, p.nodes, p.brokers, p.rules⟩

def asking : Asking Platform PlatformRows where
  rows := Platform.rows
  put p r := { p with db := r.db, nodes := r.nodes, brokers := r.brokers, rules := r.rules }
  answers p := p.answers
  next p := { p with answers := fun n => p.answers (n + 1) }
  rows_put _ _ := rfl
  answers_put _ _ := rfl
  rows_next _ := rfl
  answers_next _ _ := rfl

def Platform.brokerTypes (p : Platform) (env : EnvId) (clusterName : String) : Option BrokerType :=
  (p.clusters env clusterName).bind (·.brokerType)

def brokerStep (types : EnvId → String → Option BrokerType) (env : EnvId) (clusterName topicName : String)
    (change : BrokerType → Option Int → Option (Option Int)) (r : PlatformRows) : Option PlatformRows :=
  (types env clusterName).bind fun brokerType =>
    (change brokerType (r.brokers (env, clusterName, topicName))).map fun partitions =>
      { r with brokers := Function.update r.brokers (env, clusterName, topicName) partitions }

def nodeStep (env : EnvId) (topicName : String) (data : Properties) (r : PlatformRows) : Option PlatformRows :=
  some { r with nodes := r.nodes.put env .TOPIC topicName (some data) }

def statementStep (statement : Database → Option Database) (r : PlatformRows) : Option PlatformRows :=
  (statement r.db).map fun db => { r with db }

section Requests
variable {p : Platform}

theorem brokerRequest_eq_perform (p : Platform) (env : EnvId) (clusterName topicName : String)
    (change : BrokerType → Option Int → Option (Option Int)) :
    brokerRequest env clusterName topicName change p =
      asking.perform [some (brokerStep p.brokerTypes env clusterName topicName change)] p := by
  have answers (answered : p.answers 0 = true) : brokerRequest env clusterName topicName change p =
      (ofOption (p.brokerTypes env clusterName) >>= fun type =>
        ofOption (change type (p.brokers (env, clusterName, topicName))) >>= fun partitions => modify fun p =>
          { p with brokers := Function.update p.brokers (env, clusterName, topicName) partitions })
        (asking.next p) := bind_of_returns (onPortal_eq (request_of_answered answered))
  apply Asking.eq_perform_one
  · intro refused
    exact bind_of_throws (onPortal_eq (request_of_refused refused))
  · intro answered fails
    rw [answers answered]
    cases typed : p.brokerTypes env clusterName with
    | none => rfl
    | some type =>
      have fails : ((p.brokerTypes env clusterName).bind fun type =>
          (change type (p.brokers (env, clusterName, topicName))).map _) = none := fails
      rw [typed, Option.bind_some, Option.map_eq_none_iff] at fails
      rw [ofOption_bind, fails]
      rfl
  · intro answered r takes
    rw [answers answered]
    obtain ⟨type, typed, taken⟩ := Option.bind_eq_some_iff.mp takes
    obtain ⟨partitions, changed, rfl⟩ := Option.map_eq_some_iff.mp taken
    have changed : change type (p.brokers (env, clusterName, topicName)) = some partitions := changed
    rw [typed, ofOption_bind, changed]
    rfl

theorem writeTopicInfo_eq_perform (p : Platform) (env : EnvId) (topicName : String) (data : Properties) :
    onPortal (writeInfo env .TOPIC topicName (some data)) p =
      asking.perform [some (nodeStep env topicName data)] p := by
  apply Asking.eq_perform_one
  · intro refused
    exact onPortal_eq (writeInfo_of_refused refused)
  · intro _ impossible
    cases impossible
  · intro answered r taken
    cases taken
    exact onPortal_eq (writeInfo_of_answered answered)

theorem execute_eq_perform (p : Platform) (statement : Database → Option Database) :
    onPortal (execute statement) p = asking.perform [some (statementStep statement)] p := by
  apply Asking.eq_perform_one
  · intro refused
    exact onPortal_eq (execute_of_refused refused)
  · intro answered fails
    have fails : statement p.db = none := Option.map_eq_none_iff.mp fails
    unfold onPortal
    rw [execute_of_answered answered, fails]
    rfl
  · intro answered r takes
    obtain ⟨db, changed, rfl⟩ := Option.map_eq_some_iff.mp takes
    have changed : statement p.db = some db := changed
    unfold onPortal
    rw [execute_of_answered answered, changed]
    rfl

/-- What reads first, and then goes on by steps. -/
theorem read_bind_eq_perform {α : Type} {read : Call α} {a : α} {next : α → PlatformCall Unit}
    {steps : List (Step PlatformRows)}
    (refused : p.answers 0 = false → read p.toState = (none, (asking.next p).toState))
    (answered : p.answers 0 = true → read p.toState = (some a, (asking.next p).toState))
    (rest : next a (asking.next p) = asking.perform steps (asking.next p)) :
    (onPortal read >>= next) p = asking.perform ((some some : Step PlatformRows) :: steps) p := by
  cases asked : p.answers 0 with
  | false =>
    rw [bind_of_throws (onPortal_eq (refused asked)), Asking.perform_cons_of_refused (A := asking) asked]
    rfl
  | true =>
    rw [bind_of_returns (onPortal_eq (answered asked)), Asking.perform_cons_of_answered (A := asking) asked]
    exact rest

theorem keeps_perform {α : Type} {f : Platform → α} (next : ∀ p, f (asking.next p) = f p)
    (put : ∀ p r, f (asking.put p r) = f p) (steps : List (Step PlatformRows)) :
    f (asking.perform steps p).2 = f p :=
  haveI : IsPreorder Platform fun s t => f t = f s :=
    { refl := fun _ => rfl, trans := fun _ _ _ first second => second.trans first }
  (Asking.respects_perform (fun s t => f t = f s) next put steps).related p

theorem brokerTypes_perform (steps : List (Step PlatformRows)) :
    (asking.perform steps p).2.brokerTypes = p.brokerTypes := keeps_perform (fun _ => rfl) (fun _ _ => rfl) steps

end Requests

end Zms.Portal.Brokers
