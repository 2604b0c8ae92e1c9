import Mathlib
import Zms.Portal.ConsumerMapperService
import Zms.Transition.Throwing

/-! The rows of topics and consumers with all that the portal does to them, and
their nodes: what a call can ask of the database, of ZooKeeper and of the brokers.

Any request can fail. The calls are programs over the rows and the nodes, which
throw.
-/

set_option autoImplicit false

namespace Zms.Portal.Resources

open Zms.Registry Zms.Transition Zms.Transition.Throwing

structure ZmsService extends ZmsServiceEntity where
  serverStatus : String
  deriving DecidableEq, Repr

structure Topic extends Resource where
  applicant : String
  partitions : Option Int
  deriving DecidableEq, Repr

structure Consumer extends ConsumerMapperService.Consumer where
  applicant : String
  deriving DecidableEq, Repr

/-- A row of `topic_environment_ref` or `consumer_environment_ref`. Their ids are
left out: the services find a row by the unique index before they update it. -/
structure EnvironmentRef extends ResourceEnvironmentRef where
  gatedServiceId : Option Int
  gatedIps : Option String
  deriving DecidableEq, Repr

def EnvironmentRef.key (ref : EnvironmentRef) : Int × EnvId := ref.toResourceEnvironmentRef.key

/-- A reference without a gated cluster. -/
def EnvironmentRef.plain (resourceId : Int) (environmentId : EnvId) (serviceId : Option Int) : EnvironmentRef :=
  ⟨⟨resourceId, environmentId, serviceId⟩, none, none⟩

/-- `environments` are the ids of `zms_environment` in their `order_num`. -/
structure Database where
  environments : List EnvId
  services : Table (fun service : ZmsService => service.id)
  topics : NamedTable (fun topic : Topic => topic.id) (fun topic => topic.name)
  consumers : NamedTable (fun consumer : Consumer => consumer.id) (fun consumer => consumer.name)
  refs : ZmsType → Table EnvironmentRef.key

abbrev Nodes := EnvId → ZmsType → String → Option Properties

/-- The nodes with other data in one place; `none` deletes the node. -/
def Nodes.put (nodes : Nodes) (env : EnvId) (type : ZmsType) (name : String) (data : Option Properties) : Nodes :=
  Function.update nodes env (Function.update (nodes env) type (Function.update (nodes env type) name data))

/-- `answers` tells which of the requests to come succeed. -/
structure State where
  db : Database
  nodes : Nodes
  clusters : EnvId → String → Option ClusterMetadata
  answers : Nat → Bool

abbrev Call (α : Type) := Throwing State α

/-- The statuses of `ResourceStatus`. -/
def SOFT_DELETED : Int := -2
def CREATE_NEW : Int := 0
def CREATE_APPROVED : Int := 1
def UPDATE_NEW : Int := 2
def UPDATE_APPROVED : Int := 3

structure LdapUser where
  isAdmin : Bool
  realName : String
  deriving DecidableEq, Repr

/-- A reference, joined with its cluster and its topic. -/
structure JoinedRef extends EnvironmentRef where
  clusterName : Option String
  clusterType : Option String
  topicName : Option String
  deriving DecidableEq, Repr

/-- `TopicEnvironmentInfoVo` or `ConsumerEnvironmentRefVO`. -/
structure EnvironmentInfoVo where
  environmentId : EnvId
  serviceId : Option Int
  gatedIps : Option String
  gatedServiceId : Option Int
  deriving DecidableEq, Repr

structure GatedDTO where
  id : Int
  name : String
  gatedIps : Option String
  gatedClusterId : Option Int
  gatedCluster : Option String
  environments : List EnvironmentInfoVo
  deriving DecidableEq, Repr

def isEmpty (text : Option String) : Bool := text.all fun text => text.isEmpty

namespace Database
variable (db : Database)

/-- The cluster of a reference; a deleted cluster is not joined. -/
def cluster (serviceId : Option Int) : Option ZmsService :=
  (serviceId.bind db.services.get).filter fun service => !service.isDeleted

/-- A reference of a topic with what is joined to it. -/
def join (ref : EnvironmentRef) : JoinedRef :=
  { ref with
    clusterName := (db.cluster ref.serviceId).map (·.serverName)
    clusterType := (db.cluster ref.serviceId).map (·.serverType)
    topicName := (db.topics.get ref.resourceId).map (·.name) }

def selectTopicAndCluster (topicId : Int) : List JoinedRef :=
  ((db.refs .TOPIC).rows.filter fun ref => ref.resourceId = topicId).map db.join

/-- In the order of the environments. -/
def listByTopicId (topicIds : List Int) : List JoinedRef :=
  (((db.refs .TOPIC).rows.filter fun ref => topicIds.contains ref.resourceId).map db.join).insertionSort
    fun ref other => db.environments.idxOf ref.environmentId ≤ db.environments.idxOf other.environmentId

def listByConsumerId (consumerId : Int) : List EnvironmentRef :=
  (db.refs .CONSUMER_GRUOP).rows.filter fun ref => ref.resourceId = consumerId

/-- The broker type that is named so. -/
def brokerTypeOf (serverType : String) : Option BrokerType :=
  if serverType = "KAFKA" then some .KAFKA else if serverType = "ROCKETMQ" then some .ROCKETMQ else none

/-- The enabled clusters among the services, the deleted ones too; no statement has an
empty list. -/
def listClustersByServiceIds (serviceIds : List (Option Int)) : Option (List ZmsService) :=
  if serviceIds = [] then none
  else
    some (db.services.rows.filter fun service =>
      serviceIds.contains (some service.id) && service.serverStatus = "ENABLE" &&
        (brokerTypeOf service.serverType).isSome)

/-- The service of the environment with the name. -/
def getByEnvIdAndName (envId : EnvId) (serverName : String) : Option ZmsService :=
  db.services.rows.find? fun service =>
    service.environmentId = envId && service.serverName = serverName && !service.isDeleted

def setRefs (type : ZmsType) (refs : Table EnvironmentRef.key) : Database :=
  { db with refs := Function.update db.refs type refs }

/-- `none` where a reference for the environment is there already. -/
def insertRefs (type : ZmsType) (rows : List EnvironmentRef) : Option Database :=
  ((db.refs type).insertList rows).map (db.setRefs type)

def deleteRefs (type : ZmsType) (resourceId : Int) : Database :=
  db.setRefs type ((db.refs type).filter fun ref => ref.resourceId ≠ resourceId)

/-- Changes the references with the key. -/
def updateRef (type : ZmsType) (key : Int × EnvId) (change : EnvironmentRef → EnvironmentRef)
    (keeps : ∀ ref, (change ref).key = ref.key) : Database :=
  db.setRefs type ((db.refs type).update (fun ref => if ref.key = key then change ref else ref)
    (by intro ref; split <;> simp only [keeps]))

def updateCluster (topicId : Int) (environmentId : EnvId) (serviceId : Int) : Database :=
  db.updateRef .TOPIC (topicId, environmentId) (fun ref => { ref with serviceId := some serviceId }) fun _ => rfl

def updateGateCluster (type : ZmsType) (resourceId : Int) (info : EnvironmentInfoVo) : Database :=
  db.updateRef type (resourceId, info.environmentId)
    (fun ref => { ref with gatedServiceId := info.gatedServiceId, gatedIps := info.gatedIps }) fun _ => rfl

def changeTopic (id : Int) (change : Topic → Topic) (keeps : ∀ topic, (change topic).id = topic.id) : Option Database :=
  (db.topics.change id change keeps).map fun topics => { db with topics }

def changeConsumer (id : Int) (change : Consumer → Consumer) (keeps : ∀ consumer, (change consumer).id = consumer.id) :
    Option Database :=
  (db.consumers.change id change keeps).map fun consumers => { db with consumers }

end Database

/-- The next value of an id that the database generates. -/
def nextId (ids : List Int) : Int := ids.foldl max 0 + 1

/-- A request to the database, to ZooKeeper or to a broker. -/
def request : Call Unit := fun s =>
  (if s.answers 0 then some () else none, { s with answers := fun n => s.answers (n + 1) })

def query {α : Type} (select : Database → α) : Call α := do
  request
  let s ← get
  return select s.db

def execute (statement : Database → Option Database) : Call Unit := do
  request
  let s ← get
  let db ← ofOption (statement s.db)
  modify fun s => { s with db }

/-- `@Transactional`, which takes back what is in the database. -/
def transactional {α : Type} (body : Call α) : Call α := transaction (fun s t => { t with db := s.db }) body

/-- `none` as data: the metadata has no cluster. -/
def writeInfo (env : EnvId) (type : ZmsType) (name : String) (data : Option Properties) : Call Unit := do
  let properties ← ofOption data
  request
  modify fun s => { s with nodes := s.nodes.put env type name (some properties) }

def writeTopicInfo (env : EnvId) (metadata : TopicMetadata) : Call Unit :=
  writeInfo env .TOPIC metadata.name (buildTopicData metadata)

def writerConsumerInfo (env : EnvId) (metadata : ConsumerGroupMetadata) : Call Unit :=
  writeInfo env .CONSUMER_GRUOP metadata.name (buildConsumerGroupData metadata)

/-- A node that is not there reads as `null`, which its callers do not survive: either
way the call ends. -/
def readInfo (env : EnvId) (type : ZmsType) (name : String) : Call ConsumerGroupMetadata := do
  request
  let s ← get
  ofOption (readZkInfo (s.clusters env) type name (s.nodes env type name))

def deleteInfo (env : EnvId) (type : ZmsType) (name : String) : Call Unit := do
  request
  modify fun s => { s with nodes := s.nodes.put env type name none }

def checkPath (env : EnvId) (type : ZmsType) (name : String) : Call Bool := do
  request
  let s ← get
  return (s.nodes env type name).isSome

end Zms.Portal.Resources
