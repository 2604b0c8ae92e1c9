import Zms.Collector.KafkaMbeans

/-! `MetricsTransformService`: the metrics that are emitted for brokers and topics.

A transformation's list has a null for every bean that is absent.
-/

set_option autoImplicit false

namespace Zms.Collector.Kafka

variable {D : Type}

/-- The tags, of which a topic or a broker may be missing, and the segments. -/
structure MetricsDo (D : Type) where
  clusterName : String
  topicName : Option String
  brokerName : Option String
  attributeName : String
  segmentMap : List (String × D)

namespace MetricsTransformService
section
variable (jmx : Jmx D)

def addMinuteRateMetrics (info : MBeanRateInfo D) : List (String × D) :=
  [("count", jmx.ofLong info.count), ("fifteenMinuteRate", info.fifteenMinuteRate),
    ("fiveMinuteRate", info.fiveMinuteRate), ("meanRate", info.meanRate), ("oneMinuteRate", info.oneMinuteRate)]

def netSegments (info : MBeanNetInfo D) : List (String × D) :=
  [("50thPercentile", info._50thPercentile), ("75thPercentile", info._75thPercentile),
    ("95thPercentile", info._95thPercentile), ("98thPercentile", info._98thPercentile),
    ("999thPercentile", info._999thPercentile), ("99thPercentile", info._99thPercentile),
    ("count", jmx.ofLong info.count), ("max", info.max), ("mean", info.mean), ("min", info.min),
    ("stdDev", info.stdDev)]

def valueSegments (info : MBeanValueInfo) : List (String × D) := [("value", jmx.ofLong info.value)]

def brokerMetricsDo {I : Type} (segments : I → List (String × D)) (attributeName clusterName brokerName : String)
    (info : Option I) : Option (MetricsDo D) :=
  info.map fun info => ⟨clusterName, none, some brokerName, attributeName, segments info⟩

def topicMetricsDo (attributeName clusterName topicName : String) (info : Option (MBeanRateInfo D)) :
    Option (MetricsDo D) :=
  info.map fun info => ⟨clusterName, some topicName, none, attributeName, addMinuteRateMetrics jmx info⟩

def topicBrokerMetricsDo (attributeName clusterName topicName brokerName : String)
    (info : Option (MBeanRateInfo D)) : Option (MetricsDo D) :=
  info.map fun info => ⟨clusterName, some topicName, some brokerName, attributeName, addMinuteRateMetrics jmx info⟩

namespace OfTopic
variable (clusterName : String) (topicMetrics : TopicMetricsInfo D)

def getMessagesInPerSecMetricsDo : Option (MetricsDo D) :=
  topicMetricsDo jmx "MessagesInPerSec" clusterName topicMetrics.topic topicMetrics.messagesInPerSec

def getBytesOutPerSecMetricsDo : Option (MetricsDo D) :=
  topicMetricsDo jmx "BytesOutPerSec" clusterName topicMetrics.topic topicMetrics.bytesOutPerSec

def getBytesInPerSecMetricsDo : Option (MetricsDo D) :=
  topicMetricsDo jmx "BytesInPerSec" clusterName topicMetrics.topic topicMetrics.bytesInPerSec

def getFailedProduceRequestsPerSecMetricsDo : Option (MetricsDo D) :=
  topicMetricsDo jmx "FailedProduceRequestsPerSec" clusterName topicMetrics.topic
    topicMetrics.failedProduceRequestsPerSec

def getFailedFetchRequestsPerSecMetricsDo : Option (MetricsDo D) :=
  topicMetricsDo jmx "FailedFetchRequestsPerSec" clusterName topicMetrics.topic topicMetrics.failedProduceRequestsPerSec

def getBytesRejectedPerSecMetricsDo : Option (MetricsDo D) :=
  topicMetricsDo jmx "BytesRejectedPerSec" clusterName topicMetrics.topic topicMetrics.bytesRejectedPerSec

end OfTopic

section OfTopicAndBroker
variable (clusterName topicName : String) (entry : String × TopicMetrics D)

def getTopicBrokerMessagesInPerSecMetricsDo : Option (MetricsDo D) :=
  topicBrokerMetricsDo jmx "MessagesInPerSec" clusterName topicName entry.1 entry.2.messagesInPerSec

def getTopicBrokerBytesOutPerSecMetricsDo : Option (MetricsDo D) :=
  topicBrokerMetricsDo jmx "BytesOutPerSec" clusterName topicName entry.1 entry.2.bytesOutPerSec

def getTopicBrokerBytesInPerSecMetricsDo : Option (MetricsDo D) :=
  topicBrokerMetricsDo jmx "BytesInPerSec" clusterName topicName entry.1 entry.2.bytesInPerSec

def getTopicBrokerFailedProduceRequestsPerSecMetricsDo : Option (MetricsDo D) :=
  topicBrokerMetricsDo jmx "FailedProduceRequestsPerSec" clusterName topicName entry.1
    entry.2.failedProduceRequestsPerSec

def getTopicBrokerFailedFetchRequestsPerSecMetricsDo : Option (MetricsDo D) :=
  topicBrokerMetricsDo jmx "FailedFetchRequestsPerSec" clusterName topicName entry.1 entry.2.failedFetchRequestsPerSec

def getTopicBrokerBytesRejectedPerSecMetricsDo : Option (MetricsDo D) :=
  topicBrokerMetricsDo jmx "BytesRejectedPerSec" clusterName topicName entry.1 entry.2.bytesRejectedPerSec

end OfTopicAndBroker

namespace OfBroker
variable (clusterName : String) (entry : String × KafkaBrokerInfo D)

def getFetchFollowerTotalTimeMsMetricsDo : Option (MetricsDo D) :=
  brokerMetricsDo (netSegments jmx) "FetchFollowerTotalTimeMs" clusterName entry.1 entry.2.fetchFollowerTotalTimeMs

def getActiveControllerCountMetricsDo : Option (MetricsDo D) :=
  brokerMetricsDo (valueSegments jmx) "ActiveControllerCount" clusterName entry.1 entry.2.activeControllerCount

def getBytesRejectedPerSecMetricsDo : Option (MetricsDo D) :=
  brokerMetricsDo (addMinuteRateMetrics jmx) "BytesRejectedPerSec" clusterName entry.1 entry.2.bytesRejectedPerSec

def getProduceRequestsPerSecMetricsDo : Option (MetricsDo D) :=
  brokerMetricsDo (addMinuteRateMetrics jmx) "ProduceRequestsPerSec" clusterName entry.1 entry.2.produceRequestsPerSec

def getIsrShrinksPerSecMetricsDo : Option (MetricsDo D) :=
  brokerMetricsDo (addMinuteRateMetrics jmx) "IsrShrinksPerSec" clusterName entry.1 entry.2.isrShrinksPerSec

def getProduceRequestQueueTimeMsMetricsDo : Option (MetricsDo D) :=
  brokerMetricsDo (netSegments jmx) "ProduceRequestQueueTimeMs" clusterName entry.1 entry.2.produceRequestQueueTimeMs

def getFetchFollowerRequestsPerSecMetricsDo : Option (MetricsDo D) :=
  brokerMetricsDo (addMinuteRateMetrics jmx) "FetchFollowerRequestsPerSec" clusterName entry.1
    entry.2.fetchFollowerRequestsPerSec

def getFetchConsumerTotalTimeMsMetricsDo : Option (MetricsDo D) :=
  brokerMetricsDo (netSegments jmx) "FetchConsumerTotalTimeMs" clusterName entry.1 entry.2.fetchConsumerTotalTimeMs

def getMessagesInPerSecMetricsDo : Option (MetricsDo D) :=
  brokerMetricsDo (addMinuteRateMetrics jmx) "MessagesInPerSec" clusterName entry.1 entry.2.messagesInPerSec

def getUnderReplicatedPartitionsMetricsDo : Option (MetricsDo D) :=
  brokerMetricsDo (addMinuteRateMetrics jmx) "UnderReplicatedPartitions" clusterName entry.1
    entry.2.underReplicatedPartitions

def getBytesOutPerSecMetricsDo : Option (MetricsDo D) :=
  brokerMetricsDo (addMinuteRateMetrics jmx) "BytesOutPerSec" clusterName entry.1 entry.2.bytesOutPerSec

def getLeaderCountMetricsDo : Option (MetricsDo D) :=
  brokerMetricsDo (valueSegments jmx) "LeaderCount" clusterName entry.1 entry.2.leaderCount

def getLogFlushRateAndTimeMsMetricsDo : Option (MetricsDo D) :=
  brokerMetricsDo (netSegments jmx) "LogFlushRateAndTimeMs" clusterName entry.1 entry.2.logFlushRateAndTimeMs

def getBytesInPerSecMetricsDo : Option (MetricsDo D) :=
  brokerMetricsDo (addMinuteRateMetrics jmx) "BytesInPerSec" clusterName entry.1 entry.2.bytesInPerSec

def getRequestHandlerAvgIdlePercentMetricsDo : Option (MetricsDo D) :=
  brokerMetricsDo (addMinuteRateMetrics jmx) "RequestHandlerAvgIdlePercent" clusterName entry.1
    entry.2.requestHandlerAvgIdlePercent

def getFetchFollowerRequestQueueTimeMsMetricsDo : Option (MetricsDo D) :=
  brokerMetricsDo (netSegments jmx) "FetchFollowerRequestQueueTimeMs" clusterName entry.1
    entry.2.fetchFollowerRequestQueueTimeMs

def getProduceTotalTimeMsMetricsDo : Option (MetricsDo D) :=
  brokerMetricsDo (netSegments jmx) "ProduceTotalTimeMs" clusterName entry.1 entry.2.produceTotalTimeMs

def getLeaderElectionRateAndTimeMsMetricsDo : Option (MetricsDo D) :=
  brokerMetricsDo (addMinuteRateMetrics jmx) "LeaderElectionRateAndTimeMs" clusterName entry.1
    entry.2.leaderElectionRateAndTimeMs

def getFailedProduceRequestsPerSecMetricsDo : Option (MetricsDo D) :=
  brokerMetricsDo (addMinuteRateMetrics jmx) "FailedProduceRequestsPerSec" clusterName entry.1
    entry.2.failedProduceRequestsPerSec

def getFetchConsumerRequestQueueTimeMsMetricsDo : Option (MetricsDo D) :=
  brokerMetricsDo (netSegments jmx) "FetchConsumerRequestQueueTimeMs" clusterName entry.1
    entry.2.fetchConsumerRequestQueueTimeMs

def getFailedFetchRequestsPerSecMetricsDo : Option (MetricsDo D) :=
  brokerMetricsDo (addMinuteRateMetrics jmx) "FailedFetchRequestsPerSec" clusterName entry.1
    entry.2.failedFetchRequestsPerSec

def getUncleanLeaderElectionsPerSecMetricsDo : Option (MetricsDo D) :=
  brokerMetricsDo (addMinuteRateMetrics jmx) "UncleanLeaderElectionsPerSec" clusterName entry.1
    entry.2.uncleanLeaderElectionsPerSec

def getFetchConsumerRequestsPerSecMetricsDo : Option (MetricsDo D) :=
  brokerMetricsDo (addMinuteRateMetrics jmx) "FetchConsumerRequestsPerSec" clusterName entry.1
    entry.2.fetchConsumerRequestsPerSec

def getPartitionCountMetricsDo : Option (MetricsDo D) :=
  brokerMetricsDo (valueSegments jmx) "PartitionCount" clusterName entry.1 entry.2.partitionCount

def getOfflinePartitionsCountMetricsDo : Option (MetricsDo D) :=
  brokerMetricsDo (valueSegments jmx) "OfflinePartitionsCount" clusterName entry.1 entry.2.offlinePartitionsCount

end OfBroker

def topicBrokerMetrics (clusterName topicName : String) (entry : String × TopicMetrics D) :
    List (Option (MetricsDo D)) :=
  [getTopicBrokerMessagesInPerSecMetricsDo jmx clusterName topicName entry,
    getTopicBrokerBytesOutPerSecMetricsDo jmx clusterName topicName entry,
    getTopicBrokerBytesInPerSecMetricsDo jmx clusterName topicName entry,
    getTopicBrokerFailedProduceRequestsPerSecMetricsDo jmx clusterName topicName entry,
    getTopicBrokerFailedFetchRequestsPerSecMetricsDo jmx clusterName topicName entry,
    getTopicBrokerBytesRejectedPerSecMetricsDo jmx clusterName topicName entry]

def transformTopic (clusterName : String) (topicMetrics : TopicMetricsInfo D) : List (Option (MetricsDo D)) :=
  [OfTopic.getMessagesInPerSecMetricsDo jmx clusterName topicMetrics,
    OfTopic.getBytesOutPerSecMetricsDo jmx clusterName topicMetrics,
    OfTopic.getBytesInPerSecMetricsDo jmx clusterName topicMetrics,
    OfTopic.getFailedProduceRequestsPerSecMetricsDo jmx clusterName topicMetrics,
    OfTopic.getFailedFetchRequestsPerSecMetricsDo jmx clusterName topicMetrics,
    OfTopic.getBytesRejectedPerSecMetricsDo jmx clusterName topicMetrics] ++
    topicMetrics.topicBrokerMetrics.flatMap (topicBrokerMetrics jmx clusterName topicMetrics.topic)

def transformKafkaTopic (info : KafkaMetrics D) : List (Option (MetricsDo D)) :=
  info.topicMetricsInfo.flatMap (transformTopic jmx info.clusterName)

def transformBroker (clusterName : String) (entry : String × KafkaBrokerInfo D) : List (Option (MetricsDo D)) :=
  [OfBroker.getFetchFollowerTotalTimeMsMetricsDo jmx clusterName entry,
    OfBroker.getActiveControllerCountMetricsDo jmx clusterName entry,
    OfBroker.getBytesRejectedPerSecMetricsDo jmx clusterName entry,
    OfBroker.getProduceRequestsPerSecMetricsDo jmx clusterName entry,
    OfBroker.getIsrShrinksPerSecMetricsDo jmx clusterName entry,
    OfBroker.getProduceRequestQueueTimeMsMetricsDo jmx clusterName entry,
    OfBroker.getFetchFollowerRequestsPerSecMetricsDo jmx clusterName entry,
    OfBroker.getFetchConsumerTotalTimeMsMetricsDo jmx clusterName entry,
    OfBroker.getMessagesInPerSecMetricsDo jmx clusterName entry,
    OfBroker.getUnderReplicatedPartitionsMetricsDo jmx clusterName entry,
    OfBroker.getBytesOutPerSecMetricsDo jmx clusterName entry,
    OfBroker.getLeaderCountMetricsDo jmx clusterName entry,
    OfBroker.getLogFlushRateAndTimeMsMetricsDo jmx clusterName entry,
    OfBroker.getBytesInPerSecMetricsDo jmx clusterName entry,
    OfBroker.getRequestHandlerAvgIdlePercentMetricsDo jmx clusterName entry,
    OfBroker.getFetchFollowerRequestQueueTimeMsMetricsDo jmx clusterName entry,
    OfBroker.getProduceTotalTimeMsMetricsDo jmx clusterName entry,
    OfBroker.getLeaderElectionRateAndTimeMsMetricsDo jmx clusterName entry,
    OfBroker.getFailedProduceRequestsPerSecMetricsDo jmx clusterName entry,
    OfBroker.getFetchConsumerRequestQueueTimeMsMetricsDo jmx clusterName entry,
    OfBroker.getFailedFetchRequestsPerSecMetricsDo jmx clusterName entry,
    OfBroker.getUncleanLeaderElectionsPerSecMetricsDo jmx clusterName entry,
    OfBroker.getFetchConsumerRequestsPerSecMetricsDo jmx clusterName entry,
    OfBroker.getPartitionCountMetricsDo jmx clusterName entry,
    OfBroker.getOfflinePartitionsCountMetricsDo jmx clusterName entry]

def transformKafkaBroker (info : KafkaMetrics D) : List (Option (MetricsDo D)) :=
  info.brokersMetrics.flatMap (transformBroker jmx info.clusterName)

end
end MetricsTransformService

end Zms.Collector.Kafka
