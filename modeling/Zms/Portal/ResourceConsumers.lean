import Mathlib
import Zms.Portal.Resources

/-! `ConsumerController` and `ConsumerMapperService`: what can be done to a
consumer, from its request to its deletion.
-/

set_option autoImplicit false

namespace Zms.Portal.Resources

open Zms.Registry Zms.Transition Zms.Transition.Throwing

structure ConsumerDTO where
  id : Option Int
  name : Option String
  topicId : Option Int
  domain : Option String
  memo : Option String
  delayThreadhold : Option Int
  applicant : Option String
  broadcast : Option Bool
  consumerFrom : Option Bool
  status : Option Int
  needUpdateServer : Int
  needUpdateZk : Int
  deriving DecidableEq, Repr

structure BackupConsumerMetadataDTO where
  name : String
  currentEnvId : EnvId
  clusterName : String
  bindingTopic : Option String
  deriving DecidableEq, Repr

/-- A consumer in the result of `selectConsumerInEnvIds`. -/
structure ConsumerInEnvs extends toRow : Consumer where
  topicName : Option String
  envs : List EnvId
  deriving DecidableEq, Repr

namespace Database
variable (db : Database)

/-- Without ids all consumers; no statement has an empty list. -/
def selectConsumerInEnvIds (consumerIds : Option (List Int)) : Option (List ConsumerInEnvs) :=
  if consumerIds = some [] then none
  else
    some ((db.consumers.rows.filter fun consumer => consumerIds.all fun ids => ids.contains consumer.id).map
      fun consumer =>
        { consumer with
          topicName := (db.topics.get consumer.topicId).map (·.name)
          envs := (db.listByConsumerId consumer.id).map (·.environmentId) })

def getConsumerByName (name : String) : Option Consumer :=
  db.consumers.rows.find? fun consumer => consumer.name = name && 0 ≤ consumer.status

def insertConsumer (consumer : Consumer) : Option Database :=
  (db.consumers.insert consumer).map fun consumers => { db with consumers }

end Database

/-- What a registration takes over of a request. -/
def ConsumerDTO.registration (dto : ConsumerDTO) (topicName clusterName : Option String) :
    Option ConsumerMapperService.ConsumerDTO := do
  let consumerFrom ← dto.consumerFrom
  let broadcast ← dto.broadcast
  return ⟨dto.id.getD 0, valueOf dto.name, dto.topicId.getD 0, topicName, 0, clusterName, broadcast, consumerFrom⟩

/-- The fields that are not null replace those of the row. -/
def ConsumerDTO.copyProperties (dto : ConsumerDTO) (status : Option Int) (needUpdateServer needUpdateZk : Int)
    (row : Consumer) : Consumer :=
  { row with
    name := dto.name.getD row.name
    topicId := dto.topicId.getD row.topicId
    applicant := dto.applicant.getD row.applicant
    broadcast := dto.broadcast.getD row.broadcast
    consumerFrom := dto.consumerFrom.getD row.consumerFrom
    status := status.getD row.status
    needUpdateServer, needUpdateZk }

section Model
variable (fold : Char → Char)

def getConsumer (id : Option Int) : Call Consumer := do
  let found ← query fun db => id.bind db.consumers.get
  ofOption found

def registerConsumerToZk (env : EnvId) (clusterType : Option String)
    (dto : Option ConsumerMapperService.ConsumerDTO) : Call Unit :=
  match ConsumerMapperService.brokerType fold clusterType with
  | none => pure ()
  | some brokerType => do
      let dto ← ofOption dto
      writerConsumerInfo env (ConsumerMapperService.toMetadata dto brokerType)

/-- The cluster's manager creates the group. -/
def registerConsumerToServer : Call Unit := request

/-- The rows for the environments of the topic. -/
def consumerEnvs (consumerId : Int) (refs : List JoinedRef) : List EnvironmentRef :=
  refs.map fun ref => .plain consumerId ref.environmentId ref.serviceId

/-- No broadcast on a Kafka cluster. -/
def checkBroadcast (dto : ConsumerDTO) (ref : JoinedRef) : Call Unit :=
  when (ref.clusterType.any (equalsIgnoreCase fold (ConsumerMapperService.getName .KAFKA)) = true)
    (ensure (dto.broadcast = some false))

/-- The row of a new consumer; columns that cannot be null. -/
def newConsumer (id : Int) (dto : ConsumerDTO) : Option Consumer := do
  let name ← dto.name
  let topicId ← dto.topicId
  let broadcast ← dto.broadcast
  let consumerFrom ← dto.consumerFrom
  let applicant ← dto.applicant
  return ⟨⟨id, name, topicId, CREATE_NEW, broadcast, consumerFrom, dto.needUpdateServer, dto.needUpdateZk⟩, applicant⟩

def addConsumer (dto : ConsumerDTO) : Call Unit := transactional do
  let topicEnvironmentRefs ← query fun db => (dto.topicId.map db.selectTopicAndCluster).getD []
  let id ← query fun db => nextId (db.consumers.rows.map fun consumer => consumer.id)
  let consumer ← ofOption (newConsumer id dto)
  execute fun db => db.insertConsumer consumer
  forEach (fun ref => do
    checkBroadcast fold dto ref
    execute fun db => db.insertRefs .CONSUMER_GRUOP (consumerEnvs id [ref])) topicEnvironmentRefs

/-- What an update after the approval may change, with the status it leads to. -/
def updateStatus (dto : ConsumerDTO) (consumer : Consumer) (isTopicChanged : Bool) : Option (Option Int × Int) :=
  if consumer.status = CREATE_NEW then some (dto.status, dto.needUpdateZk)
  else do
    if dto.name ≠ some consumer.name then none
    else
      let broadcast ← dto.broadcast
      let consumerFrom ← dto.consumerFrom
      if broadcast ≠ consumer.broadcast ∨ consumerFrom ≠ consumer.consumerFrom ∨ isTopicChanged then
        return (some UPDATE_NEW, 1)
      else return (dto.status, dto.needUpdateZk)

def updateConsumer (dto : ConsumerDTO) (ldapUser : LdapUser) : Call Unit := transactional do
  let consumer ← getConsumer dto.id
  ensure (ldapUser.isAdmin = true ∨ consumer.applicant = ldapUser.realName)
  let topicEnvironmentRefs ← query fun db => (dto.topicId.map db.selectTopicAndCluster).getD []
  when (dto.topicId ≠ some consumer.topicId) (execute fun db => db.deleteRefs .CONSUMER_GRUOP consumer.id)
  let change ← ofOption (updateStatus dto consumer (dto.topicId ≠ some consumer.topicId))
  forEach (checkBroadcast fold dto) topicEnvironmentRefs
  when (dto.topicId ≠ some consumer.topicId)
    (execute fun db => db.insertRefs .CONSUMER_GRUOP (consumerEnvs consumer.id topicEnvironmentRefs))
  execute fun db => db.changeConsumer consumer.id
    (dto.copyProperties change.1 dto.needUpdateServer change.2) fun _ => rfl

/-- The loop's body; `orig` is the row before the call. -/
def approveNext (dto : ConsumerDTO) (orig : Consumer) (ref : JoinedRef) : Call Unit := do
  let registration := dto.registration ref.topicName ref.clusterName
  when (orig.status = CREATE_NEW) do
    registerConsumerToZk fold ref.environmentId ref.clusterType registration
    registerConsumerToServer
  let broadcast ← ofOption dto.broadcast
  let consumerFrom ← ofOption dto.consumerFrom
  when (0 < orig.needUpdateZk ∨ dto.topicId ≠ some orig.topicId ∨ broadcast ≠ orig.broadcast ∨
      consumerFrom ≠ orig.consumerFrom)
    (registerConsumerToZk fold ref.environmentId ref.clusterType registration)
  when (0 < orig.needUpdateServer) registerConsumerToServer

def approveConsumer (dto : ConsumerDTO) : Call Unit := do
  let topicEnvironmentRefs ← query fun db => (dto.topicId.map db.selectTopicAndCluster).getD []
  ensure (topicEnvironmentRefs ≠ [])
  let origConsumer ← getConsumer dto.id
  when (dto.topicId ≠ some origConsumer.topicId) (execute fun db => db.deleteRefs .CONSUMER_GRUOP origConsumer.id)
  forEach (approveNext fold dto origConsumer) topicEnvironmentRefs
  when (dto.topicId ≠ some origConsumer.topicId)
    (execute fun db => db.insertRefs .CONSUMER_GRUOP (consumerEnvs origConsumer.id topicEnvironmentRefs))
  let status := if origConsumer.status = CREATE_NEW then CREATE_APPROVED else UPDATE_APPROVED
  execute fun db => db.changeConsumer origConsumer.id (dto.copyProperties (some status) 0 0) fun _ => rfl

/-- What is registered of a consumer that is copied. -/
def ConsumerInEnvs.registration (consumer : ConsumerInEnvs) (clusterName : Option String) :
    ConsumerMapperService.ConsumerDTO :=
  ⟨consumer.id, consumer.name, consumer.topicId, consumer.topicName, 0, clusterName, consumer.broadcast,
    consumer.consumerFrom⟩

/-- The reference of the topic in the environment, if it has a cluster there. -/
def topicCluster (topicEnvs : List JoinedRef) (envId : EnvId) : Option JoinedRef :=
  topicEnvs.find? fun ref => ref.environmentId = envId && ref.serviceId.isSome

/-- The references that a copy adds for a consumer in an environment. -/
def copiedRef (topicEnvs : List JoinedRef) (envId : EnvId) (consumer : ConsumerInEnvs) : List EnvironmentRef :=
  match topicCluster topicEnvs envId with
  | none => []
  | some ref => if consumer.envs.contains envId then [] else [.plain consumer.id envId ref.serviceId]

/-- One environment and consumer of a copy. Where the topic is missing, or its
cluster, or the registration fails, the result has a message that names the
environment. -/
def copyNext (environments : List EnvId) (topicEnvironmentRefs : List JoinedRef) (item : EnvId × ConsumerInEnvs) :
    Call Unit := do
  ensure (item.2.status = UPDATE_APPROVED ∨ item.2.status = CREATE_APPROVED)
  let topicEnvs := topicEnvironmentRefs.filter fun ref => ref.resourceId = item.2.topicId
  ensure (topicEnvs ≠ [])
  match topicCluster topicEnvs item.1 with
  | none => ensure (item.1 ∈ environments)
  | some ref => do
      let registered ← attempt do
        registerConsumerToZk fold item.1 ref.clusterType (some (item.2.registration ref.clusterName))
        registerConsumerToServer
      ensure (registered = some () ∨ item.1 ∈ environments)

def copyConsumers (envIds : List EnvId) (consumerIds : Option (List Int)) : Call Unit := do
  let environments ← query fun db => db.environments.filter fun env => envIds.contains env
  let selected ← query fun db => db.selectConsumerInEnvIds consumerIds
  let consumers ← ofOption selected
  ensure (consumers ≠ [])
  let topicEnvironmentRefs ← query fun db => db.listByTopicId (consumers.map fun consumer => consumer.topicId)
  let items := envIds.flatMap fun envId => consumers.map fun consumer => (envId, consumer)
  forEach (copyNext fold environments topicEnvironmentRefs) items
  execute fun db => db.insertRefs .CONSUMER_GRUOP (items.flatMap fun item =>
    copiedRef (topicEnvironmentRefs.filter fun ref => ref.resourceId = item.2.topicId) item.1 item.2)

/-- The group of a RocketMQ cluster is deleted there. -/
def deleteSubGroup (metadata : ConsumerGroupMetadata) : Call Unit := do
  let cluster ← ofOption metadata.clusterMetadata
  let brokerType ← ofOption cluster.brokerType
  when (brokerType = .ROCKETMQ) request

def deleteConsumerIn (name : String) (env : EnvId) : Call Unit := do
  let present ← checkPath env .CONSUMER_GRUOP name
  when (present = true) do
    let metadata ← readInfo env .CONSUMER_GRUOP name
    deleteSubGroup metadata
  deleteInfo env .CONSUMER_GRUOP name

/-- The request before the last two statements deletes the alert rules. -/
def deleteConsumer (id : Option Int) : Call Unit := do
  let origConsumer ← getConsumer id
  let envs ← query fun db => (db.listByConsumerId origConsumer.id).map (·.environmentId)
  forEach (deleteConsumerIn origConsumer.name) envs
  request
  execute fun db => db.changeConsumer origConsumer.id (fun row => { row with status := SOFT_DELETED }) fun _ => rfl
  execute fun db => some (db.deleteRefs .CONSUMER_GRUOP origConsumer.id)

def backupConsumerMetadata (dto : BackupConsumerMetadataDTO) : Call Unit := transactional do
  let found ← query fun db => db.getConsumerByName dto.name
  let consumer ← ofOption found
  let environmentRefList ← query fun db => db.listByConsumerId consumer.id
  when (dto.currentEnvId ∉ environmentRefList.map (·.environmentId)) do
    let service ← query fun db => db.getByEnvIdAndName dto.currentEnvId dto.clusterName
    let zmsServiceEntity ← ofOption service
    execute fun db => db.insertRefs .CONSUMER_GRUOP [.plain consumer.id dto.currentEnvId (some zmsServiceEntity.id)]
    registerConsumerToZk fold dto.currentEnvId (some zmsServiceEntity.serverType)
      (some ⟨0, dto.name, 0, dto.bindingTopic, 0, some dto.clusterName, consumer.broadcast, consumer.consumerFrom⟩)
    registerConsumerToServer

end Model

namespace ConsumerController

def addConsumer (fold : Char → Char) (dto : ConsumerDTO) : Call Unit := do
  ensure (isEmpty dto.name = false ∧ isEmpty dto.domain = false ∧ isEmpty dto.memo = false ∧
    dto.delayThreadhold.isSome = true)
  Resources.addConsumer fold dto

def updateConsumer (fold : Char → Char) (dto : ConsumerDTO) (ldapUser : LdapUser) : Call Unit := do
  ensure (dto.id.isSome = true ∧ isEmpty dto.name = false ∧ dto.topicId.isSome = true ∧ isEmpty dto.domain = false ∧
    isEmpty dto.memo = false ∧ dto.delayThreadhold.isSome = true)
  Resources.updateConsumer fold dto ldapUser

def approveConsumer (fold : Char → Char) (dto : ConsumerDTO) : Call Unit := do
  ensure (dto.id.isSome = true ∧ isEmpty dto.name = false ∧ isEmpty dto.domain = false ∧ isEmpty dto.memo = false ∧
    dto.delayThreadhold.isSome = true)
  Resources.approveConsumer fold dto

def copyConsumers (fold : Char → Char) (envIds : List EnvId) (consumerIds : Option (List Int)) : Call Unit := do
  ensure (envIds ≠ [])
  Resources.copyConsumers fold envIds consumerIds

end ConsumerController

end Zms.Portal.Resources
