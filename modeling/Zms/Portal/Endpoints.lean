import Mathlib
import Zms.Text.Properties

/-! The controller methods of the portal by the patterns of their paths, and the path that a
request is dispatched on.

A path is a list of bytes, written as characters.
-/

set_option autoImplicit false

namespace Zms.Portal.Auth

open Zms.Text.Properties (bytesOfChar)

/-- A part of a pattern between slashes. -/
inductive Segment where
  | literal (text : String)
  | variable
  | doubleWildcard
  deriving DecidableEq, Repr

abbrev Pattern := List Segment

/-- The patterns of one controller: methods named by one word, and others. -/
def controller (base : List String) (words : List String) (others : List Pattern) : List Pattern :=
  (words.map (fun word => [Segment.literal word]) ++ others).map fun pattern => base.map Segment.literal ++ pattern

def alertMappings : List Pattern :=
  controller ["api", "alert"]
    ["queryAlerts", "queryAlertNames", "addAlert", "uniqueCheck", "getEffectAlertRulesByEnv"]
    [[.variable, .literal "updateAlert"], [.literal "deleteAlert", .variable]]

def consumerMappings : List Pattern :=
  controller ["api", "consumer"]
    ["getConsumersByClusterId", "queryApprovedConsumers", "query", "add", "update", "uniqueCheck", "approve",
     "copyConsumers", "backupMetadata", "delete", "updateGated", "consumerZmsRegister",
     "queryEnvironmentRefByConsumerName"]
    []

def masterMappings : List Pattern :=
  controller ["api", "master"]
    ["addHost"]
    [[.literal "env", .variable, .literal "host"], [.literal "env", .variable, .literal "host", .variable],
     [.literal "env", .variable, .literal "hostInit"], [.literal "env", .variable, .literal "hostEnabled"],
     [.literal "env", .variable, .literal "hostDisabled"]]

def hostserveMappings : List Pattern :=
  controller ["api", "hostserve"]
    []
    [[.literal "env", .variable, .literal "host", .variable], [.literal "listHostInstanceByEnvId", .variable]]

def userMappings : List Pattern :=
  controller ["api", "user"]
    ["getLoginUserInfo"]
    []

def migrateMappings : List Pattern :=
  controller ["api", "migrate"]
    ["migrateZk", "migrateClusterTopicZk", "migrateClusterConsumerZk"]
    []

def processMappings : List Pattern :=
  controller ["api", "process"]
    ["runningstatus"]
    [[.variable, .literal "runCommonConfig"], [.variable, .literal "serverConfig"],
     [.variable, .literal "environmentConfig"], [.variable, .literal "getRunningStatus"],
     [.variable, .literal "tailProcessStderrLog"], [.variable, .literal "tailProcessStdoutLog"]]

def recoverMappings : List Pattern :=
  controller ["api", "recover"]
    ["clusterRecover"]
    []

def serviceMappings : List Pattern :=
  controller ["api", "service"]
    ["listClusters", "queryClusters", "listByEnvIdAndServiceType", "getServiceAndEnvById", "validServerName",
     "queryHostServiceInstance", "getServiceAndEnvByInstanceId", "getServiceInstanceConfig",
     "saveServiceInstanceConfig", "addService", "addServiceInstance", "stopServiceInstance", "startServiceInstance",
     "restartServiceInstance"]
    [[.variable, .literal "rename"], [.literal "deleteService", .variable],
     [.literal "deleteServiceInstance", .variable],
     [.literal "getAddServiceInstanceConfig", .variable, .variable, .variable],
     [.literal "getAddServiceInstanceConfig", .variable, .variable],
     [.literal "compareServiceProperty", .variable, .variable]]

def topicMappings : List Pattern :=
  controller ["api", "topic"]
    ["getTopicsByCluster", "getTopicsByClusterId", "querypage", "add", "backupMetadata", "uniqueCheck", "sendMsg",
     "queryEnvironmentRefByTopicName"]
    [[.variable, .literal "update"], [.variable, .literal "delete"], [.variable, .literal "approve"],
     [.variable, .literal "syncTopic"], [.variable, .literal "updateGated"], [.variable, .literal "topicSummary"]]

def userinfoMappings : List Pattern :=
  controller ["api", "userinfo"]
    ["queryApplicants"]
    []

def envMappings : List Pattern :=
  controller ["api", "env"]
    ["add", "listEnvironment", "listService"]
    [[.variable, .literal "rename"], [.variable, .literal "loadDatabase"]]

def consumerDelayMappings : List Pattern :=
  controller ["api", "consumer", "delay"]
    ["consumerLatenciesByPage"]
    []

def packageMappings : List Pattern :=
  controller ["api", "package"]
    []
    [[.literal "script", .literal "download", .doubleWildcard, .variable]]

def kafkaCmdMappings : List Pattern :=
  controller ["api", "kafka", "cmd"]
    ["resetOffset", "consumerSummary", "topicSummary"]
    []

def kafkaConsumerMappings : List Pattern :=
  controller ["api", "kafka", "consumer"]
    ["consumerLatenciesByPage"]
    []

def rocketmqMessageMappings : List Pattern :=
  controller ["api", "rocketmq", "message"]
    ["viewByKey", "viewByMsgId", "queryMessageByTime"]
    []

def rocketmqCmdMappings : List Pattern :=
  controller ["api", "rocketmq", "cmd"]
    ["updatePerm", "getPerm", "statsAll", "getBrokerConfig", "consumerStatusAll", "consumerStatusAllNew",
     "clusterList", "topicStatus", "topicInMsgTop", "resetOffset"]
    []

def rocketmqConsumerMappings : List Pattern :=
  controller ["api", "rocketmq", "consumer"]
    ["consumerLatenciesByPage"]
    []

def statisticsMappings : List Pattern :=
  controller ["api", "statistics"]
    ["queryClusterMetrics", "queryConsumerGroupMetricsNew", "queryKafkaBrokerList", "queryActiveControllerCount",
     "queryBytesInPerSec", "queryBytesOutPerSec", "queryBytesRejectedPerSec", "queryFailedFetchRequestsPerSec",
     "queryFailedProduceRequestsPerSec", "queryFetchConsumerRequestQueueTimeMs", "queryFetchConsumerRequestsPerSec",
     "queryFetchConsumerTotalTimeMs", "queryFetchFollowerRequestQueueTimeMs", "queryFetchFollowerRequestsPerSec",
     "queryFetchFollowerTotalTimeMs", "queryIsrShrinksPerSec", "queryLeaderCount",
     "queryLeaderElectionRateAndTimeMs", "queryLogFlushRateAndTimeMs", "queryMessagesInPerSec",
     "queryOfflinePartitionsCount", "queryPartitionCount", "queryProduceRequestQueueTimeMs",
     "queryProduceRequestsPerSec", "queryProduceTotalTimeMs", "queryRequestHandlerAvgIdlePercent",
     "queryUncleanLeaderElectionsPerSec", "queryUnderReplicatedPartitions", "queryG1OldGeneration",
     "queryG1YoungGeneration", "queryNetworkProcessorAvgIdlePercent", "queryOperatingSystem",
     "queryHeapMemoryUsage", "queryNonHeapMemoryUsage", "queryMetaspace", "queryMetaspacePeak",
     "queryGV1SurvivorSpace", "queryG1SurvivorSpacePeak", "queryCompressedClassSpace",
     "queryCompressedClassSpacePeak", "queryG1EdenSpace", "queryG1EdenSpacePeak", "queryG1OldGen",
     "queryG1OldGenPeak", "queryCodecache", "queryCodecachePeek", "queryThreadInfo", "queryMappedInfo",
     "queryDirectInfo", "queryMqBrokerList", "queryMqBrokerMetrics", "queryClusterOffset", "queryTopicOffset",
     "queryRtTimeBrokerNames", "queryRtTimeMetrics", "queryConsumerClients", "queryConsumeSuccessRate",
     "queryConsumeFailureRate", "queryConsumerUserCostTimeMs", "queryTopicMetricsNew", "queryTopicMetrics",
     "queryProducerClients", "queryProducerSuccessRate", "queryProducerFailureRate", "querySendCostRate",
     "queryProducerDistributionMetrics", "queryProducerMsgBodyMetrics"]
    []

def mappings : List Pattern :=
  alertMappings ++ consumerMappings ++ masterMappings ++ hostserveMappings ++ userMappings ++ migrateMappings ++
  processMappings ++ recoverMappings ++ serviceMappings ++ topicMappings ++ userinfoMappings ++ envMappings ++
  consumerDelayMappings ++ packageMappings ++ kafkaCmdMappings ++ kafkaConsumerMappings ++
  rocketmqMessageMappings ++ rocketmqCmdMappings ++ rocketmqConsumerMappings ++ statisticsMappings

/-- What the filter means to leave open. -/
def opened : List Pattern :=
  processMappings ++ packageMappings ++
    [[.literal "api", .literal "alert", .literal "getEffectAlertRulesByEnv"],
     [.literal "api", .literal "master", .literal "addHost"],
     [.literal "api", .literal "topic", .literal "backupMetadata"],
     [.literal "api", .literal "consumer", .literal "backupMetadata"]]

/-- The parts of a path between its slashes. -/
def segments (path : List Char) : List (List Char) :=
  (path.splitOnP fun c => c == '/').filter fun segment => !segment.isEmpty

/-- A variable stands for one segment, a double wildcard for any number of them. -/
def fits : Pattern → List (List Char) → Bool
  | [], path => path.isEmpty
  | .literal text :: rest, path =>
      match path with
      | [] => false
      | segment :: more => segment == text.toList && fits rest more
  | .variable :: rest, path =>
      match path with
      | [] => false
      | _ :: more => fits rest more
  | .doubleWildcard :: rest, path => path.tails.any (fits rest)

/-- Everything from a semicolon to the next slash goes; `inside` tells that there was one. -/
def removePathParameters (inside : Bool) : List Char → List Char
  | [] => []
  | c :: rest =>
      if c = '/' then c :: removePathParameters false rest
      else if inside || c == ';' then removePathParameters true rest
      else c :: removePathParameters false rest

def hexDigit (c : Char) : Option Nat :=
  if '0' ≤ c ∧ c ≤ '9' then some (c.toNat - '0'.toNat)
  else if 'a' ≤ c ∧ c ≤ 'f' then some (c.toNat - 'a'.toNat + 10)
  else if 'A' ≤ c ∧ c ≤ 'F' then some (c.toNat - 'A'.toNat + 10)
  else none

/-- The bytes of a URI; `none` for an invalid escape. -/
def percentDecode : List Char → Option (List Char)
  | [] => some []
  | '%' :: high :: low :: rest => do
      let high ← hexDigit high
      let low ← hexDigit low
      let rest ← percentDecode rest
      return Char.ofNat (16 * high + low) :: rest
  | c :: rest => do
      if c = '%' then none
      let rest ← percentDecode rest
      return bytesOfChar c ++ rest

/-- The path a request is dispatched on. -/
def lookupPath (requestUri : String) : Option (List Char) :=
  percentDecode (removePathParameters false requestUri.toList)

end Zms.Portal.Auth
