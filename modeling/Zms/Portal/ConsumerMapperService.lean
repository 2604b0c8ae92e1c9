import Mathlib
import Zms.Portal.Tables
import Zms.Zookeeper

/-! `ConsumerMapperService`: the approval of a consumer, which writes its node in
every environment of the topic and then its rows in the database.
-/

set_option autoImplicit false

namespace Zms.Portal.ConsumerMapperService

open Zms.Registry

structure Consumer where
  id : Int
  name : String
  topicId : Int
  status : Int
  broadcast : Bool
  consumerFrom : Bool
  needUpdateServer : Int
  needUpdateZk : Int
  deriving DecidableEq, Repr

/-- The ids of the consumers and their names are keys. -/
structure ConsumerTable extends Table Consumer.id where
  names : (rows.map (·.name)).Nodup

/-- Topics are never removed from their table. -/
structure Database where
  services : Table ZmsServiceEntity.id
  topics : ResourceTable
  topicRefs : Table ResourceEnvironmentRef.key
  consumers : ConsumerTable
  consumerRefs : Table ResourceEnvironmentRef.key
  known : ∀ ref ∈ topicRefs.rows, ∃ topic ∈ topics.rows, topic.id = ref.resourceId

/-- The nodes of the consumer groups in each environment's ZooKeeper. -/
abbrev Nodes := EnvId → String → Option Properties

structure State where
  db : Database
  nodes : Nodes

structure ConsumerDTO where
  id : Int
  name : String
  topicId : Int
  topicName : Option String
  clusterId : Int
  clusterName : Option String
  broadcast : Bool
  consumerFrom : Bool
  deriving DecidableEq, Repr

/-- A reference of a topic, joined with its cluster and its topic. -/
structure TopicEnvironmentRef where
  environmentId : EnvId
  serviceId : Option Int
  clusterId : Int
  clusterName : Option String
  clusterType : Option String
  topicName : Option String
  deriving DecidableEq, Repr

/-- The statuses of `ResourceStatus` that the approval compares and sets. -/
def CREATE_NEW : Int := 0
def CREATE_APPROVED : Int := 1
def UPDATE_APPROVED : Int := 3

namespace Database
variable (db : Database)

/-- The cluster of a reference; a deleted cluster is not joined. -/
def cluster (serviceId : Option Int) : Option ZmsServiceEntity :=
  (serviceId.bind (getById db.services.rows)).filter fun service => !service.isDeleted

def selectTopicAndCluster (topicId : Int) : List TopicEnvironmentRef :=
  (db.topicRefs.rows.filter fun ref => ref.resourceId = topicId).map fun ref =>
    { environmentId := ref.environmentId
      serviceId := ref.serviceId
      clusterId := ((db.cluster ref.serviceId).map (·.id)).getD 0
      clusterName := (db.cluster ref.serviceId).map (·.serverName)
      clusterType := (db.cluster ref.serviceId).map (·.serverType)
      topicName := (db.topics.get topicId).map (·.name) }

def deleteByConsumerId (consumerId : Int) : Table ResourceEnvironmentRef.key :=
  db.consumerRefs.filter fun ref => ref.resourceId ≠ consumerId

/-- `none` where another consumer has the name. -/
def updateByPrimaryKeySelective (consumer : Consumer) : Option ConsumerTable :=
  let table := db.consumers.toTable.update (fun row => if row.id = consumer.id then consumer else row)
    (by intro row; split <;> simp_all)
  if names : (table.rows.map (·.name)).Nodup then some ⟨table, names⟩ else none

end Database

def getName : BrokerType → String
  | .KAFKA => "kafka"
  | .ROCKETMQ => "rocketmq"

section Model
variable (fold : Char → Char) (writes registers : EnvId → Bool)

/-- The broker type that a node is written with, if one is. -/
def brokerType (clusterType : Option String) : Option BrokerType :=
  if clusterType.any (equalsIgnoreCase fold (getName .KAFKA)) then some .KAFKA
  else if clusterType.any (equalsIgnoreCase fold (getName .ROCKETMQ)) then some .ROCKETMQ
  else none

/-- The metadata that `ZkRegister` makes of a request. -/
def toMetadata (consumerDto : ConsumerDTO) (brokerType : BrokerType) : ConsumerGroupMetadata where
  type := getName brokerType
  name := consumerDto.name
  clusterMetadata := some ⟨valueOf consumerDto.clusterName, none, some brokerType, none⟩
  domain := none
  gatedIps := none
  gatedCluster := none
  statisticsLogger := none
  bindingTopic := consumerDto.topicName
  consumeFrom := some (if consumerDto.consumerFrom then "earliest" else "latest")
  broadcast := some (if consumerDto.broadcast then "true" else "false")
  suspend := none

/-- `writes` tells whether the requests to an environment's ZooKeeper succeed. -/
def registerConsumerToZk (nodes : Nodes) (envId : EnvId) (clusterType : Option String) (dto : ConsumerDTO) :
    Option Nodes :=
  match brokerType fold clusterType with
  | none => some nodes
  | some type =>
      if writes envId then
        some (Function.update nodes envId
          (Function.update (nodes envId) dto.name (buildConsumerGroupData (toMetadata dto type))))
      else none

/-- `registers` tells whether the requests to an environment's brokers succeed. -/
def registerConsumerToServer (envId : EnvId) : Option Unit := if registers envId then some () else none

/-- The request with what the loop sets in it. -/
def ConsumerDTO.inEnvironment (dto : ConsumerDTO) (ref : TopicEnvironmentRef) : ConsumerDTO :=
  { dto with topicName := ref.topicName, clusterName := ref.clusterName, clusterId := ref.clusterId }

section Loop
variable (dto : ConsumerDTO) (origConsumer : Consumer) (nodes : Nodes) (ref : TopicEnvironmentRef)

/-- A consumer that is new. -/
def approveNew : Option Nodes :=
  if origConsumer.status = CREATE_NEW then do
    let nodes ← registerConsumerToZk fold writes nodes ref.environmentId ref.clusterType (dto.inEnvironment ref)
    registerConsumerToServer registers ref.environmentId
    return nodes
  else some nodes

/-- What its owner or the approval has changed. -/
def approveChanged : Option Nodes :=
  let isTopicChanged := origConsumer.topicId ≠ dto.topicId
  let isBroadCastChanged := dto.broadcast ≠ origConsumer.broadcast
  let isConsumerFromChanged := dto.consumerFrom ≠ origConsumer.consumerFrom
  if 0 < origConsumer.needUpdateZk ∨ isTopicChanged ∨ isBroadCastChanged ∨ isConsumerFromChanged then
    registerConsumerToZk fold writes nodes ref.environmentId ref.clusterType (dto.inEnvironment ref)
  else some nodes

def approveServer : Option Unit :=
  if 0 < origConsumer.needUpdateServer then registerConsumerToServer registers ref.environmentId else some ()

/-- The loop's body, after `setEnv`. -/
def approveNext : Option Nodes := do
  let nodes ← approveNew fold writes registers dto origConsumer nodes ref
  let nodes ← approveChanged fold writes dto origConsumer nodes ref
  approveServer registers origConsumer ref
  return nodes

end Loop

/-- The rows for the environments of the topic. -/
def consumerEnvs (consumerId : Int) (refs : List TopicEnvironmentRef) : List ResourceEnvironmentRef :=
  refs.map fun ref => ⟨consumerId, ref.environmentId, ref.serviceId⟩

/-- With another topic the references are deleted and inserted anew. -/
def replaceRefs (db : Database) (dto : ConsumerDTO) (origConsumer : Consumer) (refs : List TopicEnvironmentRef) :
    Option (Table ResourceEnvironmentRef.key) :=
  if origConsumer.topicId ≠ dto.topicId then
    (db.deleteByConsumerId dto.id).insertList (consumerEnvs origConsumer.id refs)
  else some db.consumerRefs

/-- `none` when the call throws; it is no transaction, and what it leaves then is
not described. -/
def approveConsumer (s : State) (dto : ConsumerDTO) : Option State := do
  let topicEnvironmentRefs := s.db.selectTopicAndCluster dto.topicId
  if topicEnvironmentRefs = [] then none
  else
    let origConsumer ← s.db.consumers.get dto.id
    let nodes ← topicEnvironmentRefs.foldlM (approveNext fold writes registers dto origConsumer) s.nodes
    let consumerRefs ← replaceRefs s.db dto origConsumer topicEnvironmentRefs
    let status := if origConsumer.status = CREATE_NEW then CREATE_APPROVED else UPDATE_APPROVED
    let consumers ← s.db.updateByPrimaryKeySelective
      ⟨dto.id, dto.name, dto.topicId, status, dto.broadcast, dto.consumerFrom, 0, 0⟩
    return ⟨{ s.db with consumers, consumerRefs }, nodes⟩

end Model

end Zms.Portal.ConsumerMapperService
