import Mathlib
import Zms.Portal.Tables
import Zms.Zookeeper

/-! `MigrationService`: topics and consumers change their cluster, first in
ZooKeeper, one after the other, and then in the database.
-/

set_option autoImplicit false

namespace Zms.Portal.MigrationService

open Zms.Registry

structure Database where
  services : Table ZmsServiceEntity.id
  /-- The ids of `zms_environment`. -/
  environments : List EnvId
  resources : ZmsType → ResourceTable
  refs : ZmsType → Table ResourceEnvironmentRef.key

/-- The database, the nodes of topics and consumers and the clusters of each
environment's ZooKeeper. -/
structure State where
  db : Database
  nodes : EnvId → ZmsType → String → Option Properties
  clusters : EnvId → String → Option ClusterMetadata

/-- The ids of the topics and of the consumers are parsed. -/
structure MigrationDTO where
  topics : List Int
  consumers : List Int
  srcClusterId : Option Int
  targetClusterId : Int
  consumePosition : Option String
  srcCluster : Option String
  targetCluster : Option String
  envId : Option EnvId
  deriving DecidableEq, Repr

/-- What the mappers return of a topic or consumer. -/
structure Selected where
  id : Int
  name : String
  clusterId : Option Int
  deriving DecidableEq, Repr

/-- Which requests to brokers, ZooKeeper and database succeed. -/
structure Outcomes where
  createTopic : Bool
  /-- Those of the attempt with this number. -/
  attempt : Nat → Bool
  /-- The one statement that updates all references. -/
  updateAll : Bool
  /-- The statement for one topic or consumer. -/
  update : Int → Bool

/-- What a call returns, with the nodes it leaves and what it hands to the
asynchronous step. -/
structure Response where
  type : ZmsType
  /-- What `setEnv` got. -/
  context : Option EnvId
  failed : List String
  success : List Selected
  nodes : EnvId → ZmsType → String → Option Properties

namespace Database
variable (db : Database)

def getServiceAndEnvById (id : Int) : Option ZmsServiceEntity :=
  (getById db.services.rows id).filter fun service =>
    !service.isDeleted && db.environments.contains service.environmentId

/-- A topic is returned once for each of its references to the service. -/
def selectTopicsByServiceId (serviceId : Int) : List Selected :=
  ((db.resources .TOPIC).rows.filter fun topic => 0 < topic.status).flatMap fun topic =>
    ((db.refs .TOPIC).rows.filter fun ref => ref.resourceId = topic.id && ref.serviceId = some serviceId).map
      fun _ => ⟨topic.id, topic.name, none⟩

/-- The result map has a collection, which joins the rows of a consumer. -/
def selectConsumersByServiceId (serviceId : Int) : List Selected :=
  ((db.resources .CONSUMER_GRUOP).rows.filter fun consumer =>
    0 < consumer.status &&
      (db.refs .CONSUMER_GRUOP).rows.any fun ref =>
        ref.resourceId = consumer.id && ref.serviceId = some serviceId).map
    fun consumer => ⟨consumer.id, consumer.name, none⟩

/-- `selectMigratedTopicsById` and `selectMigratedConsumersById`. -/
def selectMigratedById (type : ZmsType) (ids : List Int) (envId : EnvId) : List Selected :=
  ((db.resources type).rows.filter fun row => 0 < row.status && ids.contains row.id).filterMap fun row =>
    ((db.refs type).get (row.id, envId)).map fun ref => ⟨row.id, row.name, ref.serviceId⟩

end Database

/-- `updateMigrateTopics` and `updateMigrateConsumers`. -/
def updateMigrate (refs : Table ResourceEnvironmentRef.key) (srcClusterId targetClusterId : Int) (ids : List Int) :
    Table ResourceEnvironmentRef.key :=
  refs.update
    (fun ref =>
      if ref.serviceId = some srcClusterId ∧ ref.resourceId ∈ ids then { ref with serviceId := some targetClusterId }
      else ref)
    (by intro ref; split <;> rfl)

/-- `dto.setTargetCluster` on the cluster that was read. -/
def setClusterName (metadata : ConsumerGroupMetadata) (targetCluster : String) : ConsumerGroupMetadata :=
  { metadata with
    clusterMetadata := metadata.clusterMetadata.map fun cluster => { cluster with clusterName := targetCluster } }

section Model
variable (configured : EnvId → Bool) (fold : Char → Char) (outcomes : Outcomes)

/-- `ConsumeFromWhere`; from the beginning unless the request wants the end. -/
def consumeFrom (consumePosition : Option String) : String :=
  if (consumePosition.any fun position => equalsIgnoreCase fold "latest" position) then "latest" else "earliest"

/-- The data that replaces a node's data; `none` when the node cannot be read. -/
def rewrite (clusters : String → Option ClusterMetadata) (type : ZmsType) (targetCluster : String)
    (consumePosition : Option String) (name : String) (data : Option Properties) : Option Properties := do
  let metadata ← readZkInfo clusters type name data
  let metadata := setClusterName metadata targetCluster
  match type with
  | .TOPIC => buildTopicData metadata.toZmsMetadata
  | .CONSUMER_GRUOP => buildConsumerGroupData { metadata with consumeFrom := some (consumeFrom fold consumePosition) }

/-- The nodes of one kind in one environment, and how the attempts so far ended. -/
structure Progress where
  nodes : String → Option Properties
  success : List Selected
  failed : List String

/-- One attempt, with its own exceptions caught. -/
def migrateNext (rewrite : String → Option Properties → Option Properties) (succeeds : Bool) (item : Selected)
    (progress : Progress) : Progress :=
  match if succeeds then rewrite item.name (progress.nodes item.name) else none with
  | some properties =>
      { progress with
        nodes := Function.update progress.nodes item.name (some properties)
        success := progress.success ++ [item] }
  | none => { progress with failed := progress.failed ++ [item.name] }

/-- The attempts from the `i`-th on. -/
def migrateFrom (rewrite : String → Option Properties → Option Properties) (attempt : Nat → Bool) :
    Nat → List Selected → Progress → Progress
  | _, [], progress => progress
  | i, item :: rest, progress =>
      migrateFrom rewrite attempt (i + 1) rest (migrateNext rewrite (attempt i) item progress)

/-- The loop of `migrateTopics` and `migrationConsumers`. Without a client every
attempt fails. -/
def migrateEach (s : State) (dto : MigrationDTO) (type : ZmsType) (context : Option EnvId) (targetCluster : String)
    (items : List Selected) : Response :=
  match currentZkClient configured context with
  | none => { type, context, failed := items.map (·.name), success := [], nodes := s.nodes }
  | some env =>
      let progress := migrateFrom (rewrite fold (s.clusters env) type targetCluster dto.consumePosition)
        outcomes.attempt 0 items ⟨s.nodes env type, [], []⟩
      { type, context, failed := progress.failed, success := progress.success
        nodes := Function.update s.nodes env (Function.update (s.nodes env) type progress.nodes) }

def migrateTopics (s : State) (dto : MigrationDTO) (context : Option EnvId) (topics : List Selected) :
    Option Response := do
  let targetCluster ← dto.targetCluster
  if outcomes.createTopic then
    return migrateEach configured fold outcomes s dto .TOPIC context targetCluster topics
  else none

def migrationConsumers (s : State) (dto : MigrationDTO) (context : Option EnvId) (consumers : List Selected) :
    Option Response := do
  let targetCluster ← dto.targetCluster
  return migrateEach configured fold outcomes s dto .CONSUMER_GRUOP context targetCluster consumers

def checkCluster (db : Database) (dto : MigrationDTO) : Option MigrationDTO := do
  let targetCluster ← db.getServiceAndEnvById dto.targetClusterId
  let srcCluster ← db.getServiceAndEnvById (← dto.srcClusterId)
  if targetCluster.environmentId ≠ srcCluster.environmentId then none
  else if !equalsIgnoreCase fold targetCluster.serverType srcCluster.serverType then none
  else
    return { dto with
      targetCluster := some targetCluster.serverName, srcCluster := some srcCluster.serverName
      envId := some targetCluster.environmentId }

def migrateClusterTopicZk (s : State) (dto : MigrationDTO) : Option Response := do
  let dto ← checkCluster fold s.db dto
  migrateTopics configured fold outcomes s dto dto.envId (s.db.selectTopicsByServiceId (← dto.srcClusterId))

def migrateClusterConsumerZk (s : State) (dto : MigrationDTO) : Option Response := do
  let srcClusterId ← dto.srcClusterId
  let srcServiceEntity ← getById s.db.services.rows srcClusterId
  let targetServiceEntity ← getById s.db.services.rows dto.targetClusterId
  if srcServiceEntity.serverType ≠ targetServiceEntity.serverType then none
  else
    migrationConsumers configured fold outcomes s { dto with targetCluster := some targetServiceEntity.serverName }
      dto.envId (s.db.selectConsumersByServiceId srcClusterId)

def noneInDb (s : State) (type : ZmsType) (context : Option EnvId) : Response :=
  { type, context, failed := [], success := [], nodes := s.nodes }

def migrateZk (s : State) (dto : MigrationDTO) : Option Response := do
  let targetCluster ← getById s.db.services.rows dto.targetClusterId
  let context := some targetCluster.environmentId
  let dto := { dto with targetCluster := some targetCluster.serverName }
  if dto.topics ≠ [] then
    let topics := s.db.selectMigratedById .TOPIC dto.topics targetCluster.environmentId
    if topics = [] then return noneInDb s .TOPIC context
    else migrateTopics configured fold outcomes s dto context topics
  else
    let consumers := s.db.selectMigratedById .CONSUMER_GRUOP dto.consumers targetCluster.environmentId
    if consumers = [] then return noneInDb s .CONSUMER_GRUOP context
    else migrationConsumers configured fold outcomes s dto context consumers

/-- The statements for one after the other; the first exception ends them. -/
def updateEach (targetClusterId : Int) : List Selected → Table ResourceEnvironmentRef.key →
    Table ResourceEnvironmentRef.key
  | [], refs => refs
  | item :: rest, refs =>
      match item.clusterId with
      | none => refs
      | some clusterId =>
          if outcomes.update item.id then
            updateEach targetClusterId rest (updateMigrate refs clusterId targetClusterId [item.id])
          else refs

/-- The asynchronous step, `asyncMigrateTopicsInDb` or `asyncMigrateConsumersInDb`. -/
def asyncMigrateInDb (refs : Table ResourceEnvironmentRef.key) (dto : MigrationDTO) (success : List Selected) :
    Table ResourceEnvironmentRef.key :=
  match dto.srcClusterId with
  | some srcClusterId =>
      if outcomes.updateAll then updateMigrate refs srcClusterId dto.targetClusterId (success.map (·.id)) else refs
  | none => updateEach outcomes dto.targetClusterId success refs

/-- The requests of the controller. -/
inductive Call where
  | migrateClusterTopicZk | migrateClusterConsumerZk | migrateZk
  deriving DecidableEq, Repr

/-- `none` when the call throws, which it does before the first attempt. -/
def call (s : State) (dto : MigrationDTO) : Call → Option Response
  | .migrateClusterTopicZk => migrateClusterTopicZk configured fold outcomes s dto
  | .migrateClusterConsumerZk => migrateClusterConsumerZk configured fold outcomes s dto
  | .migrateZk => migrateZk configured fold outcomes s dto

/-- After the call and its asynchronous step. -/
def finish (s : State) (dto : MigrationDTO) (response : Response) : State :=
  { s with
    nodes := response.nodes
    db := { s.db with
      refs := Function.update s.db.refs response.type
        (asyncMigrateInDb outcomes (s.db.refs response.type) dto response.success) } }

end Model

end Zms.Portal.MigrationService
