import Mathlib
import Zms.Text.Properties
import Zms.Zookeeper

/-! The text of the nodes: what the client appends when it writes metadata, and what it makes
of a text when it reads one. -/

set_option autoImplicit false

namespace Zms.Zookeeper

open Zms.Text.Properties (load getProperty bytesOf text)

/-- The data of the nodes under the three roots. -/
structure Nodes where
  clusters : String → Option String
  topics : String → Option String
  consumergroups : String → Option String

def Nodes.data (nodes : Nodes) : ZmsType → String → Option String
  | .TOPIC => nodes.topics
  | .CONSUMER_GRUOP => nodes.consumergroups

/-- `none` is the exception for a malformed escape. -/
def parseProperties (source : String) : Option (List (String × String)) := load (bytesOf source)

def toUpperCase (text : String) : String := String.ofList (text.toList.map Char.toUpper)

def BrokerType.getName : BrokerType → String
  | .KAFKA => "kafka"
  | .ROCKETMQ => "rocketmq"

/-- `none` is the exception of `valueOf`. -/
def BrokerType.parse : Option String → Option (Option BrokerType)
  | none => some none
  | some property =>
      if property = "" then some none
      else if toUpperCase property = "KAFKA" then some (some .KAFKA)
      else if toUpperCase property = "ROCKETMQ" then some (some .ROCKETMQ)
      else none

def readClusterMetadata (nodes : Nodes) (clusterName : String) : Option ClusterMetadata := do
  let clusterData ← nodes.clusters clusterName
  if clusterData = "" then none
  else
    let clusterProperties ← parseProperties clusterData
    let brokerType ← BrokerType.parse (getProperty clusterProperties "brokerType")
    return { clusterName, bootAddr := getProperty clusterProperties "bootAddr", brokerType
             serverIps := getProperty clusterProperties "serverIps" }

/-- The properties that are read. A missing cluster name is joined to the path as `null`. -/
def propertiesOf (properties : List (String × String)) : Properties where
  clusterName := valueOf (getProperty properties "clusterName")
  gatedIps := getProperty properties "gatedIps"
  gatedCluster := getProperty properties "gatedCluster"
  statisticsLogger := getProperty properties "statisticsLogger"
  bindingTopic := getProperty properties "bindingTopic"
  broadcast := getProperty properties "broadcast"
  consumeFrom := getProperty properties "consumeFrom"
  suspend := getProperty properties "suspend"

def readZkInfo (nodes : Nodes) (type : ZmsType) (name : String) : Option ConsumerGroupMetadata := do
  let zkData ← nodes.data type name
  let properties ← parseProperties zkData
  Zms.readZkInfo (readClusterMetadata nodes) type name (some (propertiesOf properties))

def readTopicMetadata (nodes : Nodes) (name : String) : Option TopicMetadata :=
  (readZkInfo nodes .TOPIC name).map (·.toZmsMetadata)

def readConsumerGroupMetadata (nodes : Nodes) (name : String) : Option ConsumerGroupMetadata :=
  readZkInfo nodes .CONSUMER_GRUOP name

/-- The lines of a topic's data, and those of a consumer group's and a cluster's below. -/
def topicLines (metadata : TopicMetadata) (cluster : ClusterMetadata) : List (String × String) :=
  [("clusterName", cluster.clusterName), ("type", ZmsType.TOPIC.getName),
    ("gatedIps", metadata.gatedIps.getD ""), ("gatedCluster", gatedClusterName metadata)]

def consumerGroupLines (metadata : ConsumerGroupMetadata) (cluster : ClusterMetadata) : List (String × String) :=
  [("clusterName", cluster.clusterName), ("type", ZmsType.CONSUMER_GRUOP.getName),
    ("bindingTopic", valueOf metadata.bindingTopic), ("broadcast", valueOf metadata.broadcast),
    ("consumeFrom", valueOf metadata.consumeFrom), ("suspend", valueOf metadata.suspend),
    ("gatedIps", metadata.gatedIps.getD ""), ("gatedCluster", gatedClusterName metadata.toZmsMetadata)]

def clusterLines (cluster : ClusterMetadata) (brokerType : BrokerType) : List (String × String) :=
  [("bootAddr", valueOf cluster.bootAddr), ("brokerType", BrokerType.getName brokerType),
    ("serverIps", valueOf cluster.serverIps)]

/-- `none`, here and in the two below, is the exception for metadata without the cluster, or
a cluster without the type. -/
def buildTopicData (metadata : TopicMetadata) : Option String :=
  metadata.clusterMetadata.map fun cluster => text (topicLines metadata cluster)

def buildConsumerGroupData (metadata : ConsumerGroupMetadata) : Option String :=
  metadata.clusterMetadata.map fun cluster => text (consumerGroupLines metadata cluster)

def buildClusterData (cluster : ClusterMetadata) : Option String :=
  cluster.brokerType.map fun brokerType => text (clusterLines cluster brokerType)

def writeTopicMetadata (nodes : Nodes) (metadata : TopicMetadata) : Option Nodes :=
  (buildTopicData metadata).map fun data =>
    { nodes with topics := Function.update nodes.topics metadata.name (some data) }

def writeConsumerGroupMetadata (nodes : Nodes) (metadata : ConsumerGroupMetadata) : Option Nodes :=
  (buildConsumerGroupData metadata).map fun data =>
    { nodes with consumergroups := Function.update nodes.consumergroups metadata.name (some data) }

def writeClusterMetadata (nodes : Nodes) (cluster : ClusterMetadata) : Option Nodes :=
  (buildClusterData cluster).map fun data =>
    { nodes with clusters := Function.update nodes.clusters cluster.clusterName (some data) }

end Zms.Zookeeper
