import Zms.Portal.Assemble
import Zms.Portal.Processes.Programs
import Zms.Transition.Guarded
import Zms.Zookeeper

/-! The cluster nodes of the Kafka services: `KafkaServiceInstanceListenerImpl` writes them some time
after an instance was started, and when one is deleted; `ServeService` renames and deletes the
services.

The services of RocketMQ, whose nodes another listener writes, are left out, and the hosts do not change.
-/

set_option autoImplicit false

namespace Zms.Portal.Clusters

open Zms.Registry Zms.Transition Zms.Portal.Processes
open Serve (printed parseInt)

abbrev Services := Table (fun service : ZmsServiceEntity => service.id)

/-- A listener that waits for its thread and its five seconds. -/
structure Waiting where
  serviceId : Int
  processId : Int
  deriving DecidableEq, Repr

abbrev Nodes := EnvId → String → Option ClusterMetadata

structure State where
  db : Database
  services : Services
  nodes : Nodes
  waiting : List Waiting

/-! ### What is written -/

/-- What is read of an instance and of its host, which may be missing. -/
structure HostServiceInstanceDTO where
  id : Int
  hostIp : Option String
  deriving DecidableEq, Repr

section Queries
variable (hosts : Table ZmsHost.id) (db : Database)

def queryHostServiceInstance (serviceId : Int) : List HostServiceInstanceDTO :=
  (db.instances.rows.filter fun row => row.serviceId = serviceId && !row.isDeleted).map fun row =>
    ⟨row.id, (hosts.get row.hostId).map (·.hostIp)⟩

/-- The last process of an instance whose status is one of these. -/
def lastProcess (counts : ProcessStatus → Bool) (instanceId : Int) : Option Int :=
  ((db.processes.rows.filter fun row => row.instanceId = instanceId && counts row.status).map (·.id)).max?

/-- `status in ('SUCCESS','INIT')`. -/
def listLastSuccessProcessByInstance : Int → Option Int := lastProcess db (· ≠ .FAILURE)

/-- No process has the id `null`. -/
def listByProcessIdName (processId : Option Int) (propertyName : String) : List ProcessPropertyValueRef :=
  db.refs.filter fun ref => some ref.serviceProcessId = processId && ref.propertyName = propertyName

/-- The address of an instance that was started with the process `last` tells. -/
def brokerAddr (last : Int → Option Int) (instance_ : HostServiceInstanceDTO) : Option String := do
  let listenersProperValue ← (listByProcessIdName db (last instance_.id) "listeners").head?
  if listenersProperValue.currentValue = "" then none
  else return printed instance_.hostIp ++ ":" ++ listenersProperValue.currentValue

def brokerAddrList (last : Int → Option Int) (serviceId : Int) : Option (List String) :=
  (queryHostServiceInstance hosts db serviceId).mapM (brokerAddr db last)

/-- The last processes that were started, one for each instance. -/
def listLastSuccessProcess (serviceId : Int) : List Int :=
  (db.instances.rows.filter fun row => !row.isDeleted).filterMap fun row =>
    ((db.processes.rows.filter fun process =>
      process.serviceId = serviceId && process.instanceId = row.id && process.status = .SUCCESS).map (·.id)).max?

/-- Two refs of one instance: the first counts. -/
def listZookeeperAddr (services : Services) (zkServiceId : Int) : Option (List String) := do
  let started := (db.instances.rows.filter fun row =>
    row.serviceId = zkServiceId && row.instanceStatus = .START && !row.isDeleted).mergeSort fun x y => x.id ≤ y.id
  let _ ← services.get zkServiceId
  let processIds := listLastSuccessProcess db zkServiceId
  if processIds = [] then none
  else
    let refs := db.refs.filter fun ref => processIds.contains ref.serviceProcessId && ref.propertyName = "clientPort"
    started.mapM fun row => do
      let ref ← refs.find? fun ref => ref.instanceId = some row.id
      return printed ((hosts.get row.hostId).map (·.hostIp)) ++ ":" ++ ref.currentValue

def zookeeperAddr (services : Services) (processId : Int) : Option (List String) := do
  let zkProcessPropertyValue ← (listByProcessIdName db (some processId) "ZOOKEEPER").head?
  let zkServiceId ← parseInt zkProcessPropertyValue.currentValue
  listZookeeperAddr hosts db services zkServiceId

def assembleClusterDto (services : Services) (zmsService : ZmsServiceEntity) (processId : Int) :
    Option ClusterMetadata := do
  let zookeeperAddr ← zookeeperAddr hosts db services processId
  let brokerAddrList ← brokerAddrList hosts db (listLastSuccessProcessByInstance db) zmsService.id
  return ⟨zmsService.serverName, some (",".intercalate brokerAddrList), some .KAFKA,
    some (",".intercalate zookeeperAddr)⟩

end Queries

def Nodes.put (nodes : Nodes) (env : EnvId) (clusterName : String) (data : Option ClusterMetadata) : Nodes :=
  Function.update nodes env (Function.update (nodes env) clusterName data)

def writeClusterInfo (nodes : Nodes) (env : EnvId) (metadata : ClusterMetadata) : Nodes :=
  nodes.put env metadata.clusterName (some metadata)

def writeClusterInfoNecessary (nodes : Nodes) (env : EnvId) (metadata : ClusterMetadata) : Nodes :=
  if readClusterMetadata (nodes env) metadata.clusterName = some metadata then nodes
  else writeClusterInfo nodes env metadata

section Listener
variable (hosts : Table ZmsHost.id)

/-- `start` of the listener: `none` where it throws. The other types write no such node. -/
def start (s : State) (serviceId processId : Int) : Option Nodes := do
  let zmsService ← s.services.get serviceId
  if zmsService.serverType = "KAFKA" then
    let metadata ← assembleClusterDto hosts s.db s.services zmsService processId
    return writeClusterInfoNecessary s.nodes zmsService.environmentId metadata
  else return s.nodes

/-- `remove` of the listener, with the rows that are left; `answers` tells whether it is written. -/
def remove (db : Database) (services : Services) (answers : Int → Bool) (serviceInstance : ServiceInstance) :
    Throwing Nodes Unit := do
  let zmsService ← Throwing.ofOption (services.get serviceInstance.serviceId)
  Throwing.when (zmsService.serverType = "KAFKA") do
    let process ← Throwing.ofOption (db.listRunningProcessByInstance serviceInstance.id)
    let metadata ← Throwing.ofOption (assembleClusterDto hosts db services zmsService process.id)
    Throwing.ensure (answers serviceInstance.id = true)
    Throwing.modify fun nodes => writeClusterInfo nodes zmsService.environmentId metadata

end Listener

/-! ### The calls -/

section Calls
variable (fold : Char → Char) (hosts : Table ZmsHost.id)

/-- The first half of `startServiceInstance`, up to the calls to the agents. -/
def createProcess (s : State) (instanceIds : List Int) (refs : List ProcessPropertyValueRef) : State :=
  match checkStart hosts s.db instanceIds with
  | none => s
  | some serviceId =>
      match s.db.processes.insertList
        (Programs.newProcesses s.db serviceId (listHostByInstanceIds hosts s.db instanceIds)) with
      | none => s
      | some processes => { s with db := { s.db with processes, refs := s.db.refs ++ refs } }

/-- What waits is the listener of a process that was started. -/
def startProcess (s : State) (process : ServiceProcess) (outside : Outside) : State :=
  let started := Processes.startProcess hosts outside process.instanceId process.id s.db
  { s with
    db := started.2
    waiting := if started.1 = some () then s.waiting ++ [⟨process.serviceId, process.id⟩] else s.waiting }

def listen (s : State) (waiting : Waiting) (answers : Bool) : State :=
  { s with
    nodes := if answers = true then (start hosts s waiting.serviceId waiting.processId).getD s.nodes else s.nodes
    waiting := s.waiting.erase waiting }

def deletedInstances (db : Database) (ids : List Int) : Database :=
  Programs.deleteByIds db ((listByInstanceIds db ids).map (·.id))

/-- The calls of the listener, after the rows are deleted. -/
def removeEach (s : State) (ids : List Int) (answers : Int → Bool) : Option Unit × Nodes :=
  Throwing.forEach (remove hosts (deletedInstances s.db ids) s.services answers) (listByInstanceIds s.db ids) s.nodes

/-- The rows come back where a listener throws, what it has written stays. -/
def deleteServiceInstance (s : State) (ids : List Int) (answers : Int → Bool) : State :=
  if (listByInstanceIds s.db ids).all fun item => item.instanceStatus = .STOP then
    { s with
      db := if (removeEach hosts s ids answers).1 = some () then deletedInstances s.db ids else s.db
      nodes := (removeEach hosts s ids answers).2 }
  else s

/-- The services with the name; there may be several. -/
def getByEnvIdAndName (services : Services) (env : EnvId) (serverName : String) : List ZmsServiceEntity :=
  services.rows.filter fun row => row.serverName = serverName && row.environmentId = env && !row.isDeleted

def changeService (services : Services) (id : Int) (change : ZmsServiceEntity → ZmsServiceEntity)
    (keeps : ∀ row, (change row).id = row.id) : Services :=
  services.update (fun row => if row.id = id then change row else row) (by intro row; split <;> simp only [keeps])

def rename (services : Services) (id : Int) (serverName : String) : Services :=
  changeService services id (fun row => { row with serverName }) fun _ => rfl

def deleteById (services : Services) (id : Int) : Services :=
  changeService services id (fun row => { row with isDeleted := true }) fun _ => rfl

def renameService (s : State) (id : Int) (serverName : String) : State :=
  match s.services.get id with
  | none => s
  | some serviceEntity =>
      if getByEnvIdAndName s.services serviceEntity.environmentId serverName = [] ∨
          (getByEnvIdAndName s.services serviceEntity.environmentId serverName).map (·.id) = [id] then
        { s with services := rename s.services id serverName }
      else s

/-- `listRunningService`: whether a running process depends on the service. -/
def dependedOn (s : State) (service : ZmsServiceEntity) : Bool :=
  s.db.refs.any fun ref => ref.propertyName = service.serverType && ref.currentValue = toString service.id &&
    s.db.processes.rows.any fun process => process.id = ref.serviceProcessId && process.runningStatus = "RUNNING" &&
      (s.services.get process.serviceId).isSome

def listAllByServiceId (db : Database) (serviceId : Int) : List ServiceInstance :=
  db.instances.rows.filter fun row => row.serviceId = serviceId && !row.isDeleted

def refusesDeletion (s : State) (service : ZmsServiceEntity) : Bool :=
  ((listAllByServiceId s.db service.id).any fun item => item.instanceStatus ≠ .STOP) ||
    (service.serverType = "ZOOKEEPER" || service.serverType = "INFLUXDB") && dependedOn s service

/-- A transaction, whose last step is the listener. -/
def deleteService (s : State) (id : Int) (answers : Bool) : State :=
  match s.services.get id with
  | none => s
  | some service =>
      if refusesDeletion s service = true then s
      else
        let deleted := { s with
          db := Programs.deleteByIds s.db ((listAllByServiceId s.db id).map (·.id))
          services := deleteById s.services id }
        if service.serverType = "KAFKA" then
          if isNotBlank (some service.serverName) = true ∧ answers = true then
            { deleted with nodes := s.nodes.put service.environmentId service.serverName none }
          else s
        else deleted

inductive Action where
  | addService (row : ZmsServiceEntity)
  | addServiceInstance (row : ServiceInstance)
  | createProcess (instanceIds : List Int) (refs : List ProcessPropertyValueRef)
  | startProcess (process : ServiceProcess) (outside : Outside)
  | stopServiceInstance (instanceIds : List Int) (outside : Int → Programs.StopOutside)
  | updateRunningStatus (serviceProcesses : List Reported)
  | listen (waiting : Waiting) (answers : Bool)
  | deleteServiceInstance (ids : List Int) (answers : Int → Bool)
  | renameService (id : Int) (serverName : String)
  | deleteService (id : Int) (answers : Bool)

/-- Each process is started once, and its refs are its own; there is no service of RocketMQ. -/
def guard (s : State) : Action → Prop
  | .addService row => row.isDeleted = false ∧ row.serverType ≠ "ROCKETMQ"
  | .addServiceInstance row =>
      row.isDeleted = false ∧ row.instanceStatus = .STOP ∧ (s.services.get row.serviceId).isSome = true
  | .createProcess _ refs => ∀ ref ∈ refs, Programs.nextId s.db ≤ ref.serviceProcessId
  | .startProcess process _ => s.db.processes.get process.id = some process ∧ process.status = .INIT
  | .listen waiting _ => waiting ∈ s.waiting
  | _ => True

instance guardDecidable (s : State) (a : Action) : Decidable (guard s a) := by
  apply Action.casesOn (motive := fun a => Decidable (guard s a)) a <;> intros <;> dsimp only [guard] <;> infer_instance

def effect (s : State) : Action → State
  | .addService row => { s with services := (s.services.insertList [row]).getD s.services }
  | .addServiceInstance row =>
      { s with db := { s.db with instances := (s.db.instances.insertList [row]).getD s.db.instances } }
  | .createProcess instanceIds refs => createProcess hosts s instanceIds refs
  | .startProcess process outside => startProcess hosts s process outside
  | .stopServiceInstance instanceIds outside =>
      { s with db := (Programs.stopServiceInstance fold hosts instanceIds outside ⟨s.db, []⟩).db }
  | .updateRunningStatus serviceProcesses => { s with db := updateRunningStatus fold serviceProcesses s.db }
  | .listen waiting answers => listen hosts s waiting answers
  | .deleteServiceInstance ids answers => deleteServiceInstance hosts s ids answers
  | .renameService id serverName => renameService s id serverName
  | .deleteService id answers => deleteService s id answers

def system : Guarded State Action where
  init s := s.db.instances.rows = [] ∧ s.db.processes.rows = [] ∧ s.db.refs = [] ∧ s.services.rows = [] ∧
    s.nodes = (fun _ _ => none) ∧ s.waiting = []
  guard := guard
  effect := effect fold hosts

instance (s : State) (a : Action) : Decidable ((system fold hosts).guard s a) := guardDecidable s a

end Calls

end Zms.Portal.Clusters
