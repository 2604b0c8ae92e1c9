import Zms.Backup.Coverage
import Zms.Client.Consumer.Brokers
import Zms.Client.Consumer.Factory
import Zms.Client.Consumer.Kafka.AtLeastOnce
import Zms.Client.Consumer.Kafka.Executor
import Zms.Client.Consumer.Kafka.Flight
import Zms.Client.Consumer.Kafka.Frame
import Zms.Client.Consumer.Kafka.Latch
import Zms.Client.Consumer.Kafka.Ledger
import Zms.Client.Consumer.Kafka.Machine
import Zms.Client.Consumer.Kafka.Offsets
import Zms.Client.Consumer.Kafka.Restart
import Zms.Client.Consumer.LeftBehind
import Zms.Client.Consumer.Registered
import Zms.Client.Consumer.Returns
import Zms.Client.Consumer.Rocketmq
import Zms.Client.Listener
import Zms.Client.Producer.Accounting
import Zms.Client.Producer.ClassMonitor
import Zms.Client.Producer.Factory
import Zms.Client.Producer.Kafka
import Zms.Client.Producer.Modes
import Zms.Client.Producer.Registered
import Zms.Client.Producer.Rocketmq
import Zms.Client.Producer.Send
import Zms.Client.Proxy
import Zms.Client.Reconnect
import Zms.Collector.Schedules
import Zms.Delivery.Ledger
import Zms.Metadata
import Zms.Client.Producer.Returns
import Zms.Portal.AlertRulesFollow
import Zms.Portal.ConsumerApproval
import Zms.Portal.LaunchesUsable
import Zms.Portal.MigrationGuard
import Zms.Portal.MigrationResult
import Zms.Portal.ProducersBound
import Zms.Portal.ProducersLive
import Zms.Registry.Holds
import Zms.Transition.Guarded
import Zms.Service.AdminCache
import Zms.Portal.PerInstance
import Zms.Zookeeper.ComesBack
import Zms.Portal.Processes.StatusFollows
import Zms.Portal.Processes.Programs
import Zms.Portal.Processes.OneProgram
import Zms.Client.Consumer.Kafka.ThreadPools
import Zms.Client.Consumer.Kafka.PartitionOrder
import Zms.Client.Consumer.StartPosition
import Zms.Text.Regex
import Zms.Portal.Endpoints
import Zms.Portal.AuthFilter
import Zms.Transition.Catching
import Zms.Collector.Reporters
import Zms.Alert.DLQAlertService
import Zms.Collector.Monitoring
import Zms.Collector.NeverLost
import Zms.Alert.EffectPeriod
import Zms.Client.GatedHosts
import Zms.Service.KafkaReset
import Zms.Client.Metrics.Distribution
import Zms.Client.Metrics.ProducerMetrics
import Zms.Client.FollowsMetadata
import Zms.Transition.Stepwise
import Zms.Portal.ResourceSteps
import Zms.Portal.ConsumerRetry
import Zms.Portal.ConsumerCopies
import Zms.Portal.TopicDeletions
import Zms.Portal.TopicSyncs
import Zms.Registry.StableSort
import Zms.Portal.PropertyDiff
import Zms.Transition.Collecting
import Zms.Text.Utf16
import Zms.Portal.RestartHint
import Zms.Registry.Unused
import Zms.Portal.InstanceIds
import Zms.Portal.BrokerNames
import Zms.Text.Joining
import Zms.Portal.JvmOptions
import Zms.Text.Fields
import Zms.Service.Signing
import Zms.Portal.Processes.StartProcess
import Zms.Transition.Interleaved
import Zms.Service.InfluxTransformer
import Zms.Service.InfluxRows
import Zms.Registry.Layered
import Zms.Portal.MultiValued
import Zms.Text.Splitting
import Zms.Portal.ServiceConfig
import Zms.Portal.ServiceConfigSaved
import Zms.Portal.ServiceConfigForms
import Zms.Text.PropertiesLines
import Zms.Portal.Processes.PropertyFiles
import Zms.Text.Doubled
import Zms.Portal.RegisteredNames
import Zms.Portal.UpdateTopicPerm
import Zms.Portal.MessagesByTime
import Zms.Client.Consumer.Lookup
import Zms.Time.Offsets
import Zms.Collector.DailyRecord
import Zms.Portal.KafkaTopics
import Zms.Portal.RocketMqTopics
import Zms.Collector.ConsumerRates
import Zms.Registry.Puts
import Zms.Collector.KafkaMbeans
import Zms.Collector.KafkaEmitters
import Zms.Collector.MetricNames
import Zms.Collector.MetricSums
import Zms.Collector.NamedMetrics
import Zms.Arithmetic.HalfDown
import Zms.Client.Metrics.TimerStatistics
import Zms.Collector.ConsumerPool
import Zms.Text.Replacing
import Zms.Text.Quoting
import Zms.Service.InfluxQueries
import Zms.Client.Metrics.StatsReporter
import Zms.Alert.Notifications
import Zms.Registry.Writes
import Zms.Registry.Pages
import Zms.Registry.Gathered
import Zms.Collector.RocketMqMetrics
import Zms.Collector.MissingValues
import Zms.Arithmetic.Longs
import Zms.Arithmetic.Increments
import Zms.Collector.DailyOffsets
import Zms.Registry.Association
import Zms.Portal.EnvDataSources
import Zms.Portal.EnvSubscriptions
import Zms.Portal.MonitorServiceAdapt
import Zms.Sorting.Comparators
import Zms.Portal.ConsumerGroupLoader
import Zms.Portal.PartitionListings
import Zms.Collector.KafkaLag
import Zms.Collector.LagAgreement
import Zms.Collector.ClientsFollow
import Zms.Collector.MetricThreads
import Zms.Service.DestroyManager
import Zms.Client.Consumer.Kafka.Commits
import Zms.Portal.RecoverService
import Zms.Portal.Sessions
import Zms.Zookeeper.Publication
import Zms.Portal.Ownership
import Zms.Portal.Platforms
import Zms.Portal.Processes.BrokerAddresses
