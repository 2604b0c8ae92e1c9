import Mathlib
import Zms.Metadata

/-! The configuration a service instance is started with: the mappers the portal reads it
from, the real values of services it depends on, and the `ConfigFileAssemble` of each
program. `none` is an exception.
-/

set_option autoImplicit false

namespace Zms.Portal.Serve

/-- A row of `service_property_value_ref`, joined with its `service_property`. -/
structure ServicePropertyValueRefDTO where
  serviceId : Int
  instanceId : Option Int
  propertyId : Int
  propertyValueId : Option Int
  currentValue : String
  serviceType : String
  instanceType : Option String
  propertyName : String
  propertyGroup : Option String
  confApiKey : Option String
  isDependencies : Bool
  valueType : Option String
  realValue : Option String
  deriving DecidableEq

structure ProcessPropertyValueRef where
  serviceId : Option Int
  instanceId : Option Int
  propertyId : Option Int
  propertyValueId : Option Int
  currentValue : Option String
  realValue : Option String
  serviceType : Option String
  instanceType : Option String
  propertyName : String
  confApiKey : Option String
  propertyGroup : Option String
  valueType : Option String
  deriving DecidableEq

/-- `BeanUtils.copyProperties` into a new `ProcessPropertyValueRef`. -/
def ServicePropertyValueRefDTO.copyProperties (item : ServicePropertyValueRefDTO) : ProcessPropertyValueRef where
  serviceId := item.serviceId
  instanceId := item.instanceId
  propertyId := item.propertyId
  propertyValueId := item.propertyValueId
  currentValue := item.currentValue
  realValue := item.realValue
  serviceType := item.serviceType
  instanceType := item.instanceType
  propertyName := item.propertyName
  confApiKey := item.confApiKey
  propertyGroup := item.propertyGroup
  valueType := item.valueType

structure ZmsServiceEntity where
  serverType : String
  serverName : String
  environmentId : Option Int

structure ServiceInstance where
  id : Int
  instanceType : String
  hostId : Int
  deriving DecidableEq

structure HostServiceInstanceDTO where
  id : Int
  instanceType : String
  hostIp : Option String

structure ServiceProcess where
  id : Int
  serviceId : Int
  instanceId : Int
  status : String

structure ServiceProperty where
  instanceType : String
  group : String
  name : String

/-! `ServicePropertiesNameEnum`. -/

def ZK_SERVICE : ServiceProperty := ⟨"SERVICE", "", "ZOOKEEPER"⟩
def INFLUX_DB_SERVICE : ServiceProperty := ⟨"SERVICE", "", "INFLUXDB"⟩
def ENVID_SERVICE : ServiceProperty := ⟨"SERVICE", "", "envId"⟩
def ZK_CLIENT_PORT : ServiceProperty := ⟨"INSTANCE", "", "clientPort"⟩
def INFLUX_DB_PORT : ServiceProperty := ⟨"INSTANCE", "http", "bind-address"⟩
def ROCKETMQ_NAMESERVER_PORT : ServiceProperty := ⟨"NAMESVR", "", "listenPort"⟩
def KAFKA_PORT : ServiceProperty := ⟨"BROKER", "", "listeners"⟩
def KAFKA_ZOOKEEPER_CHROOT : ServiceProperty := ⟨"SERVICE", "", "zookeeper.chroot"⟩
def ZOOKEEPER_QUORUM : ServiceProperty := ⟨"INSTANCE", "", "quorumPort"⟩
def ZOOKEEPER_MYID : ServiceProperty := ⟨"INSTANCE", "", "myid"⟩
def ZOOKEEPER_ELECTION_PORT : ServiceProperty := ⟨"INSTANCE", "", "electionPort"⟩
def ZMS_BACKUP_CLUSTER_MAP : ServiceProperty := ⟨"SERVICE", "", "backup.cluster.map"⟩

/-- What the mappers' queries answer, and what the beans hand out, while one request runs. -/
structure Mappers where
  getById : Int → Option ZmsServiceEntity
  queryByServiceId : Int → List ServicePropertyValueRefDTO
  queryByInstanceId : Int → List ServicePropertyValueRefDTO
  ofInstance : ∀ instanceId, ∀ item ∈ queryByInstanceId instanceId, item.instanceId = some instanceId
  /-- The current values. -/
  listByServiceIdAndPropertyId : Int → Option Int → Option Int → List String
  listByServiceIdAndInstanceId : Int → Int → List ServicePropertyValueRefDTO
  getIdByServiceTypeAndName : String → ServiceProperty → Option Int
  getProgramTypeByInstanceId : Int → Option String
  listStartInstanceByServiceId : Int → List ServiceInstance
  listLastSuccessProcess : Int → List Int
  listByProcessId : List Int → Option Int → List ProcessPropertyValueRef
  getEnableIPById : Int → Option String
  queryHostServiceInstance : Int → List HostServiceInstanceDTO
  getHostByInstanceId : Int → Option HostServiceInstanceDTO
  listLastProcessByInstance : Int → Option ServiceProcess
  listRunningProcessByInstance : Int → Option ServiceProcess
  listByServiceProcessId : Int → List ProcessPropertyValueRef
  getProcessPropertyValueRef : Int → Option Int → Option ProcessPropertyValueRef
  /-- `getEnv(...).getZkServiceId()`, `none` without the row. -/
  zkServiceIdOfEnv : Int → Option Int
  getToken : Int → String
  zmsPortalUrl : String

/-- A null as `MessageFormat` and `StringBuilder` print it. -/
def printed (text : Option String) : String := text.getD "null"

/-- `Integer.valueOf` of a decimal. -/
def parseInt (text : String) : Option Int :=
  let (sign, digits) := match text.toList with
    | '-' :: rest => ((-1 : Int), rest)
    | '+' :: rest => (1, rest)
    | rest => (1, rest)
  let value := sign * (digits.foldl (fun n c => 10 * n + (c.toNat - '0'.toNat)) 0 : Nat)
  if digits ≠ [] ∧ digits.all Char.isDigit ∧ -2 ^ 31 ≤ value ∧ value < 2 ^ 31 then some value else none

/-- `split(":")`: the trailing empty parts are left out, but for a text without `:`. -/
def splitColon (text : String) : List String :=
  if ':' ∈ text.toList then
    (((text.toList.splitOn ':').map String.ofList).reverse.dropWhile (fun part => part = "")).reverse
  else [text]

/-- `replaceFirst("\"", "\":")`. -/
def replaceFirstQuote (text : String) : String :=
  match text.toList.span (fun c => c ≠ '"') with
  | (_, []) => text
  | (before, _ :: after) => String.ofList (before ++ '"' :: ':' :: after)

/-- `Collectors.toMap` without a merge function: it throws on a null value and on a key
that occurs twice. -/
def toMap {κ ν : Type} [DecidableEq κ] (pairs : List (κ × Option ν)) : Option (List (κ × ν)) :=
  if (pairs.map Prod.fst).Nodup then pairs.mapM fun pair => pair.2.map (pair.1, ·) else none

def joinIpAndPort (m : Mappers) (instances : List ServiceInstance) (propertyValueRef : List (Option Int × String)) :
    String :=
  ",".intercalate (instances.filterMap fun i =>
    (propertyValueRef.lookup (some i.id)).map fun port => printed (m.getEnableIPById i.hostId) ++ ":" ++ port)

/-- `getZKService`; `flag` is set when the instances are started, not only compared. -/
def getZKService (m : Mappers) (zkServiceId : Int) (flag : Bool) : Option String :=
  let instances := m.listStartInstanceByServiceId zkServiceId
  if instances = [] then
    if flag then none else some ""
  else if m.listLastSuccessProcess zkServiceId = [] then none
  else
    let refs := m.listByProcessId (m.listLastSuccessProcess zkServiceId)
      (m.getIdByServiceTypeAndName "ZOOKEEPER" ZK_CLIENT_PORT)
    (toMap (refs.map fun ref => (ref.instanceId, ref.realValue))).map (joinIpAndPort m instances)

def getInfluxDbService (m : Mappers) (influxDbServiceId : Int) (flag : Bool) : Option String :=
  match m.listStartInstanceByServiceId influxDbServiceId with
  | [] => if flag then none else some ""
  | first :: _ =>
      if m.listLastSuccessProcess influxDbServiceId = [] then none
      else
        let refs := m.listByProcessId (m.listLastSuccessProcess influxDbServiceId)
          (m.getIdByServiceTypeAndName "INFLUXDB" INFLUX_DB_PORT)
        (toMap (refs.map fun ref => (ref.instanceId, ref.currentValue))).map fun ports =>
          "http://" ++ printed (m.getEnableIPById first.hostId) ++ ":" ++ printed (ports.lookup (some first.id))

def checkServiceProperty (ref : ServicePropertyValueRefDTO) (property : ServiceProperty) : Bool :=
  ref.instanceType = some property.instanceType && ref.propertyGroup = some property.group &&
    ref.propertyName = property.name

/-- The value `getDependenceRealValue` sets for one ref. -/
def dependenceRealValue (m : Mappers) (flag : Bool) (ref : ServicePropertyValueRefDTO) : Option String :=
  if ref.isDependencies then
    if checkServiceProperty ref ZK_SERVICE then
      (parseInt ref.currentValue).bind fun id => getZKService m id flag
    else if checkServiceProperty ref INFLUX_DB_SERVICE then
      (parseInt ref.currentValue).bind fun id => getInfluxDbService m id flag
    else if checkServiceProperty ref ENVID_SERVICE then some ref.currentValue
    else some ""
  else some ref.currentValue

def getDependenceRealValue (m : Mappers) (flag : Bool) (refs : List ServicePropertyValueRefDTO) :
    Option (List ServicePropertyValueRefDTO) :=
  refs.mapM fun ref => (dependenceRealValue m flag ref).map fun value => { ref with realValue := some value }

/-- `ServeService.listZookeeperAddr`. -/
def listZookeeperAddr (m : Mappers) (zkServiceId : Int) : Option (List String) :=
  (m.getById zkServiceId).bind fun service =>
    if m.listLastSuccessProcess zkServiceId = [] then none
    else
      let refs := m.listByProcessId (m.listLastSuccessProcess zkServiceId)
        (m.getIdByServiceTypeAndName service.serverType ZK_CLIENT_PORT)
      (m.listStartInstanceByServiceId zkServiceId).mapM fun i =>
        (refs.find? fun ref => ref.instanceId = some i.id).map fun ref =>
          printed (m.getEnableIPById i.hostId) ++ ":" ++ printed ref.currentValue

/-- `addProperties` of the assembles. -/
def added (confApiKey : String) (propertyId : Option Int) (name : String) (currentValue realValue : Option String) :
    ProcessPropertyValueRef where
  serviceId := none
  instanceId := none
  propertyId := propertyId
  propertyValueId := none
  currentValue := currentValue
  realValue := realValue
  serviceType := none
  instanceType := none
  propertyName := name
  confApiKey := some confApiKey
  propertyGroup := some ""
  valueType := none

/-! Each assemble returns what it adds for the instance; all but the backup cluster's leave
the refs they are handed alone. -/

/-- `InfluxdbConfigAssembleImpl`. -/
def influxdbConfig (m : Mappers) (instanceId : Int) : List ProcessPropertyValueRef :=
  (m.queryByInstanceId instanceId).map fun item =>
    let quoted := if (item.valueType.getD "").toLower = "string" then "\"" ++ item.currentValue ++ "\"" else item.currentValue
    let isPort := printed item.propertyGroup ++ "&" ++ item.propertyName = INFLUX_DB_PORT.group ++ "&" ++ INFLUX_DB_PORT.name
    let value := if item.valueType.getD "" ≠ "" ∧ isPort then replaceFirstQuote quoted else quoted
    ({ item with realValue := some value } : ServicePropertyValueRefDTO).copyProperties

/-- `KafkaConfigAssembleImpl`. -/
def kafkaConfig (m : Mappers) (serviceId instanceId : Int) : Option (List ProcessPropertyValueRef) := do
  let zkPropertyId := m.getIdByServiceTypeAndName "KAFKA" ZK_SERVICE
  let listenerPropertyId := m.getIdByServiceTypeAndName "KAFKA" KAFKA_PORT
  let chRootPropertyId := m.getIdByServiceTypeAndName "KAFKA" KAFKA_ZOOKEEPER_CHROOT
  let zkValue ← (m.listByServiceIdAndPropertyId serviceId none zkPropertyId).head?
  let zkServiceId ← parseInt zkValue
  let zookeeperAddr ← listZookeeperAddr m zkServiceId
  let first ← zookeeperAddr.head?
  let chRoot := (m.listByServiceIdAndPropertyId serviceId none chRootPropertyId).head?
  let connect := ",".intercalate (first :: zookeeperAddr.tail) ++ (if isNotBlank chRoot then chRoot.getD "" else "")
  let port ← (m.listByServiceIdAndPropertyId serviceId (some instanceId) listenerPropertyId).head?
  let host ← m.getHostByInstanceId instanceId
  let listeners := "PLAINTEXT://" ++ printed host.hostIp ++ ":" ++ port
  return [added "kafka-server-config" (some 0) "zookeeper.connect" (some (toString zkServiceId)) (some connect),
    added "kafka-server-config" listenerPropertyId "listeners" (some port) (some listeners)]

/-- `INIT` is the status of a process that is about to be started; any other one means that
configurations are only compared. -/
def preCompare (m : Mappers) (instanceId : Int) : Option Bool :=
  (m.listLastProcessByInstance instanceId).map fun process => process.status ≠ "INIT"

/-- The current values of a process or of the service by property name, the last of a name. -/
def namedValue (values : List (String × Option String)) (name : String) : String :=
  printed ((values.reverse.lookup name).getD none)

/-- `ZookeeperConfigAssembleImpl`. -/
def zookeeperConfig (m : Mappers) (serviceId instanceId : Int) : Option (List ProcessPropertyValueRef) := do
  let compare ← preCompare m instanceId
  return (m.queryHostServiceInstance serviceId).filterMap fun i =>
    (m.listRunningProcessByInstance i.id).map fun lastProcess =>
      let values :=
        if compare = false ∧ lastProcess.status = "SUCCESS" then
          (m.listByServiceProcessId lastProcess.id).map fun ref => (ref.propertyName, ref.currentValue)
        else (m.listByServiceIdAndInstanceId serviceId i.id).map fun ref => (ref.propertyName, some ref.currentValue)
      let value := printed i.hostIp ++ ":" ++ namedValue values ZOOKEEPER_QUORUM.name ++ ":" ++
        namedValue values ZOOKEEPER_ELECTION_PORT.name
      added "zookeeper-server-config" (some 0) ("server." ++ namedValue values ZOOKEEPER_MYID.name) (some value) (some value)

/-- The listen port of a name server, of its process or of its configuration. -/
def nameSvrPort (m : Mappers) (compare : Bool) (lastProcess : ServiceProcess) : Option (Option String) :=
  let nameSvrPropertyId := m.getIdByServiceTypeAndName "ROCKETMQ" ROCKETMQ_NAMESERVER_PORT
  if compare = false ∧ lastProcess.status = "SUCCESS" then
    (m.getProcessPropertyValueRef lastProcess.id nameSvrPropertyId).map fun ref => ref.currentValue
  else
    ((m.listByServiceIdAndPropertyId lastProcess.serviceId (some lastProcess.instanceId) nameSvrPropertyId).head?).map some

/-- `RocketMqBrokerSvrConfigAssembleImpl`. -/
def rocketMqBrokerConfig (m : Mappers) (serviceId instanceId : Int) : Option (List ProcessPropertyValueRef) := do
  let service ← m.getById serviceId
  let compare ← preCompare m instanceId
  let hosts := m.queryHostServiceInstance serviceId
  let nameSvrs := (hosts.filter fun i => i.instanceType = "NAMESVR").filterMap fun i =>
    (m.listRunningProcessByInstance i.id).map fun lastProcess => (i, lastProcess)
  let addrList ← nameSvrs.mapM fun entry =>
    (nameSvrPort m compare entry.2).map fun port => printed entry.1.hostIp ++ ":" ++ printed port
  let first ← addrList.head?
  let brokers := hosts.filter fun i => i.instanceType = "BROKER"
  let _ ← brokers.head?
  let brokerIp1 := (brokers.find? fun i => i.id = instanceId).bind HostServiceInstanceDTO.hostIp
  let nameSrvAddr := ";".intercalate (first :: addrList.tail)
  return [added "rocketmq-broker-config" (some 0) "namesrvAddr" (some nameSrvAddr) (some nameSrvAddr),
    added "rocketmq-broker-config" (some 0) "brokerIP1" brokerIp1 brokerIp1,
    added "rocketmq-broker-config" (some 0) "brokerClusterName" (some service.serverName) (some service.serverName)]

/-- `JSONObject.put`, a later value in place of an earlier one. -/
def put (json : List (String × String)) (key value : String) : List (String × String) :=
  if key ∈ json.map Prod.fst then json.map fun entry => if entry.1 = key then (key, value) else entry
  else json ++ [(key, value)]

/-- The two cluster names of a value of `backup.cluster.map`. -/
def clusterPair (ref : ProcessPropertyValueRef) : Option (String × String) :=
  match ref.currentValue.map splitColon with
  | some (origin :: current :: _) => some (origin, current)
  | _ => none

def backupAdded (propertyId : Option Int) (name value : String) : ProcessPropertyValueRef :=
  added "zms-backup-cluster-config" propertyId name (some value) (some value)

def ORIGIN_ENV_ID : String := "origin.envId"

/-- `setPropertyName` on the first ref of the property; the ref is shared with the list. -/
def renameFirst (propertyId : Option Int) (name : String) : List ProcessPropertyValueRef → List ProcessPropertyValueRef
  | [] => []
  | ref :: rest =>
      if ref.propertyId = propertyId then { ref with propertyName := name } :: rest
      else ref :: renameFirst propertyId name rest

def clusterMapId (m : Mappers) : Option Int := m.getIdByServiceTypeAndName "ZMS_BACKUP_CLUSTER" ZMS_BACKUP_CLUSTER_MAP

def originEnvPropertyId (m : Mappers) : Option Int := m.getIdByServiceTypeAndName "ZMS_BACKUP_CLUSTER" ENVID_SERVICE

/-- `getZookeeper` of an environment. -/
def zookeeperOfEnv (m : Mappers) (envId : Int) : Option String :=
  (m.zkServiceIdOfEnv envId).bind fun zkServiceId => (listZookeeperAddr m zkServiceId).map (",".intercalate ·)

section Json
-- the text fastjson prints for an object, its entries as they were first put
variable (toJSONString : List (String × String) → String)

/-- `ZmsBackupClusterAssembleImpl`: what it adds, and the refs as it leaves them. -/
def backupClusterConfig (m : Mappers) (serviceId : Int) (refs : List ProcessPropertyValueRef) :
    Option (List ProcessPropertyValueRef × List ProcessPropertyValueRef) := do
  let service ← m.getById serviceId
  -- `groupingBy` takes no null key
  let _ ← refs.mapM ProcessPropertyValueRef.propertyId
  let clusterMaps := refs.filter fun ref => ref.propertyId = clusterMapId m
  let _ ← clusterMaps.head?
  let pairs ← clusterMaps.mapM clusterPair
  let clusterMapJson := toJSONString (pairs.foldl (fun json pair => put json pair.1 pair.2) [])
  let environmentId ← service.environmentId
  let currentZookeeper ← zookeeperOfEnv m environmentId
  let originEnvIdRef ← refs.find? fun ref => ref.propertyId = originEnvPropertyId m
  let originEnvId ← originEnvIdRef.currentValue.bind parseInt
  let originZookeeper ← zookeeperOfEnv m originEnvId
  return ([backupAdded (clusterMapId m) ZMS_BACKUP_CLUSTER_MAP.name clusterMapJson,
      backupAdded (some 0) "current.envId" (toString environmentId),
      backupAdded (some 0) "current.zms_zk" currentZookeeper,
      backupAdded (some 0) "zms.token" (m.getToken environmentId),
      backupAdded (some 0) "zms.portal" m.zmsPortalUrl,
      backupAdded (some 0) "origin.zms_zk" originZookeeper],
    renameFirst (originEnvPropertyId m) ORIGIN_ENV_ID refs)

/-- `AdaptConfigFileAssembleImpl`: the bean of the instance's program, if there is one. -/
def assembleConfigFile (m : Mappers) (serviceId instanceId : Int) (refs : List ProcessPropertyValueRef) :
    Option (List ProcessPropertyValueRef × List ProcessPropertyValueRef) :=
  match m.getProgramTypeByInstanceId instanceId with
  | some "influxdb-instance" => some (influxdbConfig m instanceId, refs)
  | some "kafka-broker" => (kafkaConfig m serviceId instanceId).map (·, refs)
  | some "zookeeper-instance" => (zookeeperConfig m serviceId instanceId).map (·, refs)
  | some "rocketmq-broker" => (rocketMqBrokerConfig m serviceId instanceId).map (·, refs)
  | some "zms_backup_cluster-instance" => backupClusterConfig toJSONString m serviceId refs
  | _ => some ([], refs)

end Json

end Zms.Portal.Serve
