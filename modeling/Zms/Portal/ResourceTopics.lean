import Mathlib
import Zms.Portal.Resources

/-! `TopicController` and `TopicMapperService`: what can be done to a topic, from its
request to its deletion.
-/

set_option autoImplicit false

namespace Zms.Portal.Resources

open Zms.Registry Zms.Transition Zms.Transition.Throwing

structure TopicDTO where
  name : Option String
  applicant : Option String
  domain : Option String
  tps : Option Int
  msgszie : Option Int
  partitions : Option Int
  status : Option Int
  environments : Option (List EnvironmentInfoVo)
  deriving DecidableEq, Repr

structure BackupTopicMetadataDTO where
  topic : String
  currentEnvId : EnvId
  clusterName : String
  deriving DecidableEq, Repr

namespace Database
variable (db : Database)

/-- `lower` is the database's `lower`. -/
def uniqueTopicCheck (lower : String → String) (topicName : String) : Bool :=
  !(db.topics.rows.any fun topic => lower topic.name = topicName)

def getByTopicName (name : String) : Option Topic :=
  db.topics.rows.find? fun topic => topic.name = name && 0 ≤ topic.status

/-- `serviceIds` are those of a topic's references; deleted services are listed too. -/
def listByIds (serviceIds : List Int) : List ZmsService :=
  db.services.rows.filter fun service => serviceIds.contains service.id

def insertTopic (topic : Topic) : Option Database :=
  (db.topics.insert topic).map fun topics => { db with topics }

end Database

/-- The fields that are not null replace those of the row. -/
def TopicDTO.copyProperties (dto : TopicDTO) (row : Topic) : Topic :=
  { row with
    name := dto.name.getD row.name
    applicant := dto.applicant.getD row.applicant
    partitions := dto.partitions.or row.partitions
    status := dto.status.getD row.status }

/-- The row of a new topic; columns that cannot be null. -/
def newTopic (id : Int) (dto : TopicDTO) : Option Topic := do
  let name ← dto.name
  let applicant ← dto.applicant
  return ⟨⟨id, name, CREATE_NEW⟩, applicant, dto.partitions⟩

def selectByPrimaryKey (id : Int) : Call Topic := do
  let found ← query fun db => db.topics.get id
  ofOption found

/-- A request to the broker cluster: `createTopic`, `updateTopic` or `deleteTopic` of
`TopicService`. -/
def topicService : Call Unit := request

def registerTopicToZk (env : EnvId) (clusterName topicName : String) (brokerType : Option BrokerType) : Call Unit :=
  writeTopicInfo env
    { type := ZmsType.TOPIC.getName, name := topicName
      clusterMetadata := some ⟨clusterName, none, brokerType, none⟩
      domain := none, gatedIps := none, gatedCluster := none, statisticsLogger := none }

def installTopicEnvRef (topicId : Int) (envId : EnvId) : Call Unit :=
  execute fun db => db.insertRefs .TOPIC [.plain topicId envId none]

/-- The enabled clusters that `serviceIds` name, all of them different. -/
def listZmsServiceEntities (serviceIds : List (Option Int)) : Call (List ZmsService) := do
  let listed ← query fun db => db.listClustersByServiceIds serviceIds
  let serviceList ← ofOption listed
  ensure (serviceList.length = serviceIds.length)
  return serviceList

/-- `serviceIdNameMap.get`. -/
def serviceOf (serviceList : List ZmsService) (serviceId : Option Int) : Option ZmsService :=
  serviceList.find? fun service => some service.id = serviceId

def addTopic (lower : String → String) (dto : TopicDTO) : Call Unit := transactional do
  let isUnique ← query fun db => dto.name.any fun name => db.uniqueTopicCheck lower name
  ensure (isUnique = true)
  let id ← query fun db => nextId (db.topics.rows.map fun topic => topic.id)
  let topic ← ofOption (newTopic id dto)
  execute fun db => db.insertTopic topic
  let environments ← ofOption dto.environments
  forEach (fun item => installTopicEnvRef id item.environmentId) environments

/-- Before the approval the environments can be chosen again, later the name stays. -/
def updateEnvironments (topic : Topic) (dto : TopicDTO) : Call Unit :=
  if topic.status = CREATE_NEW then do
    execute fun db => some (db.deleteRefs .TOPIC topic.id)
    let environments ← ofOption dto.environments
    forEach (fun item => installTopicEnvRef topic.id item.environmentId) environments
  else ensure (dto.name = some topic.name)

def updateTopic (id : Int) (dto : TopicDTO) (ldapUser : LdapUser) : Call Unit := do
  let topic ← selectByPrimaryKey id
  ensure (ldapUser.isAdmin = true ∨ topic.applicant = ldapUser.realName)
  let topicList ← query fun db => db.topics.rows.filter fun topic => some topic.name = dto.name
  ensure (topicList.head?.all (fun other => other.id = id) = true)
  updateEnvironments topic dto
  execute fun db => db.changeTopic id dto.copyProperties fun _ => rfl

/-- The node goes before the topic of the cluster. -/
def deleteTopicIn (topicName : String) (service : ZmsService) : Call Unit := do
  let present ← checkPath service.environmentId .TOPIC topicName
  when (present = true) do
    deleteInfo service.environmentId .TOPIC topicName
    topicService

/-- The request before the last statement deletes the alert rules. -/
def deleteTopic (id : Int) : Call Unit := do
  let topic ← selectByPrimaryKey id
  let serviceIds ← query fun db => (db.listByTopicId [topic.id]).filterMap (·.serviceId)
  let services ← query fun db => db.listByIds serviceIds
  forEach (deleteTopicIn topic.name) services
  request
  execute fun db => db.changeTopic topic.id (fun row => { row with status := SOFT_DELETED }) fun _ => rfl

/-- Whether something was created or updated. -/
def initTopicResource (env : EnvId) (partitions : Option Int) (topic : Topic) (localClusterId : Option Int)
    (service : ZmsService) : Call Bool :=
  if topic.status = CREATE_NEW ∨ some service.id ≠ localClusterId then do
    topicService
    registerTopicToZk env service.serverName topic.name (Database.brokerTypeOf service.serverType)
    return true
  else do
    let current ← ofOption topic.partitions
    if some current ≠ partitions then do
      topicService
      return true
    else return false

/-- One environment of an approval, in its own `try`. -/
def approveIn (topic : Topic) (partitions : Option Int) (localClusterId : Option Int) (service : Option ZmsService)
    (env : EnvId) : Call Unit := do
  let service ← ofOption service
  let updated ← initTopicResource env partitions topic localClusterId service
  when (updated = true) (execute fun db => some (db.updateCluster topic.id env service.id))

/-- Answers the environments that failed. -/
def approveEach (topic : Topic) (dto : TopicDTO) (serviceList : List ZmsService) (localRefs : List JoinedRef) :
    List EnvironmentInfoVo → Call (List EnvId)
  | [] => return []
  | info :: rest => do
      let ref ← ofOption (localRefs.find? fun ref => ref.environmentId = info.environmentId)
      let approved ← attempt
        (approveIn topic dto.partitions ref.serviceId (serviceOf serviceList info.serviceId) info.environmentId)
      let failEnv ← approveEach topic dto serviceList localRefs rest
      return if approved = none then info.environmentId :: failEnv else failEnv

def approveTopic (id : Int) (dto : TopicDTO) : Call (List EnvId) := do
  let topic ← selectByPrimaryKey id
  let environmentInfoVos ← ofOption dto.environments
  let serviceList ← listZmsServiceEntities (environmentInfoVos.map (·.serviceId))
  ensure ((serviceList.map (·.serverType)).dedup.length = 1)
  let localRefs ← query fun db => db.listByTopicId [id]
  execute fun db => db.changeTopic id (fun row => { row with partitions := dto.partitions.or row.partitions }) fun _ => rfl
  let failEnv ← approveEach topic dto serviceList localRefs environmentInfoVos
  ensure (failEnv.length < environmentInfoVos.length)
  execute fun db => db.changeTopic id (fun row => { row with status := CREATE_APPROVED }) fun _ => rfl
  return failEnv

def syncNext (topic : Topic) (clusters : List ZmsService) (info : EnvironmentInfoVo) : Call Unit := do
  let clusterService ← ofOption (serviceOf clusters info.serviceId)
  topicService
  registerTopicToZk info.environmentId clusterService.serverName topic.name
    (Database.brokerTypeOf clusterService.serverType)
  execute fun db => some (db.updateCluster topic.id info.environmentId clusterService.id)

def syncTopic (topicId : Int) (environments : List EnvironmentInfoVo) : Call Unit := do
  let topic ← selectByPrimaryKey topicId
  let localEnvIds ← query fun db => (db.listByTopicId [topicId]).map (·.environmentId)
  let addEnvList := environments.filter fun item => !localEnvIds.contains item.environmentId
  ensure (addEnvList ≠ [])
  let listed ← query fun db => db.listClustersByServiceIds (addEnvList.map (·.serviceId))
  let clusters ← ofOption listed
  forEach (fun item => installTopicEnvRef topic.id item.environmentId) addEnvList
  forEach (syncNext topic clusters) addEnvList

def backupTopicMetadata (dto : BackupTopicMetadataDTO) : Call Unit := do
  let found ← query fun db => db.getByTopicName dto.topic
  let topic ← ofOption found
  let cluster ← query fun db => db.getByEnvIdAndName dto.currentEnvId dto.clusterName
  let clusterServiceEntity ← ofOption cluster
  let envs ← query fun db => (db.listByTopicId [topic.id]).map (·.environmentId)
  when (dto.currentEnvId ∉ envs) (syncTopic topic.id [⟨dto.currentEnvId, some clusterServiceEntity.id, none, none⟩])

namespace TopicController

def addTopic (lower : String → String) (dto : TopicDTO) : Call Unit := do
  ensure (isEmpty dto.name = false ∧ isEmpty dto.applicant = false ∧ isEmpty dto.domain = false ∧
    dto.tps.isSome = true ∧ dto.msgszie.isSome = true ∧ dto.environments.getD [] ≠ [])
  Resources.addTopic lower dto

def approveTopic (id : Int) (dto : TopicDTO) : Call (List EnvId) := do
  ensure (isEmpty dto.name = false ∧ (dto.partitions.any fun partitions => 0 < partitions ∧ partitions ≤ 64) = true)
  Resources.approveTopic id dto

def syncTopic (topicId : Int) (environments : List EnvironmentInfoVo) : Call Unit := do
  ensure (environments ≠ [])
  Resources.syncTopic topicId environments

end TopicController

end Zms.Portal.Resources
