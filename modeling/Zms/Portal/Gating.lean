import Mathlib
import Zms.Portal.ResourceConsumers
import Zms.Portal.ResourceTopics

/-! How the portal configures a gated launch: `updateGated` of `TopicMapperService` and
of `ConsumerMapperService`.
-/

set_option autoImplicit false

namespace Zms.Portal.Resources

open Zms.Registry Zms.Transition Zms.Transition.Throwing

/-- The metadata that an update makes of a gated cluster. One without a name is
written like none. -/
def gatedClusterOf (gateClusterName : Option String) : Option ClusterMetadata :=
  gateClusterName.map fun clusterName => ⟨clusterName, none, none, none⟩

/-- A node that is as it should be is skipped. -/
def updateTopicGateCluster (envId : EnvId) (topicName : String) (gatedIps gateClusterName : Option String) :
    Call Unit := do
  let topicMetadata ← readInfo envId .TOPIC topicName
  when (¬((topicMetadata.gatedCluster.any fun cluster => some cluster.clusterName = gateClusterName) = true ∧
      topicMetadata.gatedIps = gatedIps))
    (writeTopicInfo envId
      { topicMetadata.toZmsMetadata with gatedCluster := gatedClusterOf gateClusterName, gatedIps := gatedIps })

/-- Unlike that of the topic, it asks the gated cluster of the node for its name even
if there is none. -/
def updateConsumerGateCluster (envId : EnvId) (consumerName : String) (gatedIps gateClusterName : Option String) :
    Call Unit := do
  let groupMetadata ← readInfo envId .CONSUMER_GRUOP consumerName
  let gatedCluster ← ofOption groupMetadata.gatedCluster
  when (¬(some gatedCluster.clusterName = gateClusterName ∧ groupMetadata.gatedIps = gatedIps))
    (writerConsumerInfo envId
      { groupMetadata with gatedCluster := gatedClusterOf gateClusterName, gatedIps := gatedIps })

def updateTopicGatedNext (topicName : String) (environmentRefs : List JoinedRef) (serviceList : List ZmsService)
    (info : EnvironmentInfoVo) : Call Unit := do
  let ref ← ofOption (environmentRefs.find? fun ref => ref.environmentId = info.environmentId)
  updateTopicGateCluster info.environmentId topicName info.gatedIps
    ((serviceOf serviceList info.gatedServiceId).map (·.serverName))
  execute fun db => some (db.updateGateCluster .TOPIC ref.resourceId info)

/-- The services are looked up by the ids of the gated clusters in what is listed for
the other ids of the request. -/
def updateTopicGated (dto : GatedDTO) : Call Unit := do
  let topic ← selectByPrimaryKey dto.id
  let environmentRefs ← query fun db => db.listByTopicId [dto.id]
  let clusterType ← ofOption (environmentRefs.head?.bind (·.clusterType))
  let serviceList ← listZmsServiceEntities (dto.environments.map (·.serviceId))
  ensure ((serviceList.filter fun service => service.serverType = clusterType).length = dto.environments.length)
  forEach (updateTopicGatedNext topic.name environmentRefs serviceList) dto.environments

def updateConsumerGatedNext (consumerName : String) (environmentRefs : List EnvironmentRef)
    (serviceList : List ZmsService) (info : EnvironmentInfoVo) : Call Unit := do
  let ref ← ofOption (environmentRefs.find? fun ref => ref.environmentId = info.environmentId)
  updateConsumerGateCluster info.environmentId consumerName info.gatedIps
    ((serviceOf serviceList info.gatedServiceId).map (·.serverName))
  execute fun db => some (db.updateGateCluster .CONSUMER_GRUOP ref.resourceId info)

/-- The name is that of the request; neither clusters nor environments are checked. -/
def updateConsumerGated (dto : GatedDTO) : Call Unit := do
  let environmentRefs ← query fun db => db.listByConsumerId dto.id
  let listed ← query fun db => db.listClustersByServiceIds (dto.environments.map (·.gatedServiceId))
  let serviceList ← ofOption listed
  forEach (updateConsumerGatedNext dto.name environmentRefs serviceList) dto.environments

def updateGated : ZmsType → GatedDTO → Call Unit
  | .TOPIC, dto => updateTopicGated dto
  | .CONSUMER_GRUOP, dto => updateConsumerGated dto

/-- `updateGated` of one argument, which no controller calls, in the environment of the
thread. It compares the gated cluster of the node with an id: they are equal only where
both are missing. -/
def updateGroupGated (env : EnvId) (dto : GatedDTO) : Call Unit := do
  let groupMetadata ← readInfo env .CONSUMER_GRUOP dto.name
  when (¬(groupMetadata.gatedCluster = none ∧ dto.gatedClusterId = none ∧ groupMetadata.gatedIps = dto.gatedIps)) do
    writerConsumerInfo env
      { groupMetadata with gatedCluster := gatedClusterOf dto.gatedCluster, gatedIps := dto.gatedIps }
    request

end Zms.Portal.Resources
