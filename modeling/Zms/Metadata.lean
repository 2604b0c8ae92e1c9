import Mathlib

/-! The metadata of topics and consumer groups, as read from ZooKeeper. -/

set_option autoImplicit false

namespace Zms

inductive BrokerType where
  | KAFKA | ROCKETMQ
  deriving DecidableEq, Repr

/-- `equals` compares all four fields, as `=` does. -/
structure ClusterMetadata where
  clusterName : String
  bootAddr : Option String
  brokerType : Option BrokerType
  serverIps : Option String
  deriving DecidableEq, Repr

structure ZmsMetadata where
  type : String
  name : String
  clusterMetadata : Option ClusterMetadata
  domain : Option String
  gatedIps : Option String
  gatedCluster : Option ClusterMetadata
  statisticsLogger : Option String
  deriving DecidableEq, Repr

abbrev TopicMetadata := ZmsMetadata

structure ConsumerGroupMetadata extends ZmsMetadata where
  bindingTopic : Option String
  consumeFrom : Option String
  broadcast : Option String
  suspend : Option String
  deriving DecidableEq, Repr

/-- `Character.isWhitespace`. -/
def isWhitespace (c : Char) : Bool :=
  let code := c.toNat
  (9 ≤ code && code ≤ 13) || (28 ≤ code && code ≤ 32) || code == 0x1680 ||
    (0x2000 ≤ code && code ≤ 0x200A && code != 0x2007) || code == 0x2028 || code == 0x2029 ||
    code == 0x205F || code == 0x3000

def isNotBlank : Option String → Bool
  | none => false
  | some text => text.toList.any fun c => !isWhitespace c

def contains (text part : String) : Bool := decide (part.toList <:+: text.toList)

namespace ZmsMetadata

/-- `host` is `NetUtil.getLocalHost`. -/
def isGatedLaunch (host : String) (metadata : ZmsMetadata) : Bool :=
  isNotBlank metadata.gatedIps && (metadata.gatedIps.any fun ips => contains ips host)

def equals (metadata that : ZmsMetadata) : Bool :=
  metadata.type = that.type && metadata.name = that.name &&
    metadata.clusterMetadata = that.clusterMetadata && metadata.domain = that.domain &&
    metadata.gatedIps = that.gatedIps && metadata.gatedCluster = that.gatedCluster

/-- The cluster a proxy with this metadata belongs to. -/
def effectiveCluster (host : String) (metadata : ZmsMetadata) : Option ClusterMetadata :=
  if metadata.isGatedLaunch host then metadata.gatedCluster else metadata.clusterMetadata

end ZmsMetadata

def ConsumerGroupMetadata.equals (metadata that : ConsumerGroupMetadata) : Bool :=
  metadata.bindingTopic = that.bindingTopic && metadata.consumeFrom = that.consumeFrom &&
    metadata.broadcast = that.broadcast && metadata.suspend = that.suspend &&
    metadata.toZmsMetadata.equals that.toZmsMetadata

end Zms
