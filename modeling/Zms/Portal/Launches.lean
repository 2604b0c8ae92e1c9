import Mathlib
import Zms.Client.Proxy
import Zms.Portal.GatedLaunch
import Zms.Portal.Migrations
import Zms.Transition.Guarded

/-! The portal together with the clients that launch producers and consumers: what has to
hold of a node so that a client can follow its gate.
-/

set_option autoImplicit false

namespace Zms.Portal.Resources

open Zms.Client Zms.Registry Zms.Transition

/-- What a migration sees of the database. -/
def Database.forMigration (db : Database) : MigrationService.Database where
  services := ⟨db.services.rows.map (·.toZmsServiceEntity), by rw [List.map_map]; exact db.services.keys⟩
  environments := db.environments
  resources
    | .TOPIC => ⟨⟨db.topics.rows.map (·.toResource), by rw [List.map_map]; exact db.topics.keys⟩,
        by rw [List.map_map]; exact db.topics.names⟩
    | .CONSUMER_GRUOP => ⟨⟨db.consumers.rows.map fun row => ⟨row.id, row.name, row.status⟩,
        by rw [List.map_map]; exact db.consumers.keys⟩, by rw [List.map_map]; exact db.consumers.names⟩
  refs type := ⟨(db.refs type).rows.map (·.toResourceEnvironmentRef), by rw [List.map_map]; exact (db.refs type).keys⟩

/-- The references with the clusters that a migration has set. -/
def Database.withClusters (db : Database) (refs : ZmsType → Table ResourceEnvironmentRef.key) : Database :=
  { db with
    refs := fun type => (db.refs type).update
      (fun ref => { ref with
        toResourceEnvironmentRef := ((refs type).get ref.key).getD ref.toResourceEnvironmentRef })
      (by
        intro ref
        unfold EnvironmentRef.key
        cases found : (refs type).get ref.toResourceEnvironmentRef.key with
        | none => rfl
        | some other => exact (Table.get_eq_some_iff.mp found).2) }

def State.forMigration (s : State) : MigrationService.State := ⟨s.db.forMigration, s.nodes, s.clusters⟩

/-- A call of `MigrationService` with its asynchronous step. -/
def migrate (configured : EnvId → Bool) (fold : Char → Char) (s : State) (outcomes : MigrationService.Outcomes)
    (dto : MigrationService.MigrationDTO) (call : MigrationService.Call) : State :=
  match MigrationService.call configured fold outcomes s.forMigration dto call with
  | none => s
  | some response =>
      let migrated := MigrationService.finish outcomes s.forMigration dto response
      { s with db := s.db.withClusters migrated.db.refs, nodes := migrated.nodes }

/-- A proxy of a client in an environment; `brokerType` is that of its class. -/
structure Launched (M : Type) where
  env : EnvId
  host : String
  name : String
  customized : Option String
  brokerType : BrokerType
  proxy : Proxy M

/-- The portal and the proxies of all clients. -/
structure Launches where
  portal : State
  producers : List (Launched TopicMetadata)
  consumers : List (Launched ConsumerGroupMetadata)

/-- The class that the factories choose for a main cluster. -/
def classFor (clusterMetadata : ClusterMetadata) : BrokerType :=
  if clusterMetadata.brokerType = some .ROCKETMQ then .ROCKETMQ else .KAFKA

def Launched.producerClass (launched : Launched TopicMetadata) : ProxyClass TopicMetadata :=
  match launched.brokerType with
  | .ROCKETMQ => RocketmqProducerProxy launched.host
  | .KAFKA => KafkaProducerProxy launched.host launched.customized

def Launched.consumerClass (launched : Launched ConsumerGroupMetadata) : ProxyClass ConsumerGroupMetadata :=
  match launched.brokerType with
  | .ROCKETMQ => RocketmqConsumerProxy launched.host
  | .KAFKA => KafkaConsumerProxy launched.host

namespace State
variable (s : State)

def readConsumerGroupMetadata (env : EnvId) (name : String) : Option ConsumerGroupMetadata :=
  readZkInfo (s.clusters env) .CONSUMER_GRUOP name (s.nodes env .CONSUMER_GRUOP name)

def readTopicMetadata (env : EnvId) (name : String) : Option TopicMetadata :=
  (readZkInfo (s.clusters env) .TOPIC name (s.nodes env .TOPIC name)).map (·.toZmsMetadata)

end State

/-- `doGetProducer` or `doGetConsumer` for a name that is not cached. Without metadata
it throws. -/
def newProxy {M : Type} (zmsMetadata : M → ZmsMetadata) (env : EnvId) (host name : String) (customized : Option String)
    (metadata : Option M) : Option (Launched M) := do
  let metadata ← metadata
  let clusterMetadata ← (zmsMetadata metadata).clusterMetadata
  return ⟨env, host, name, customized, classFor clusterMetadata, ⟨metadata, false, none⟩⟩

section Follow
variable {M : Type} (proxyClass : Launched M → ProxyClass M)

def Launched.start (runs : Bool) (launched : Launched M) : Launched M :=
  { launched with proxy := (proxyClass launched).start launched.proxy runs }

/-- The handler of a data change, which reads the node as it is by then. -/
def Launched.change (read : EnvId → String → Option M) (ending : Ending) (launched : Launched M) : Launched M :=
  let newMetadata := read launched.env launched.name
  { launched with proxy := (proxyClass launched).handleDataChange launched.proxy newMetadata ending }

end Follow

/-- The steps of the portal and of the clients. -/
inductive LaunchStep where
  | request (action : Action)
  | updateGated (type : ZmsType) (dto : GatedDTO) (answers : Nat → Bool)
  | updateGroupGated (env : EnvId) (dto : GatedDTO) (answers : Nat → Bool)
  | migrate (call : MigrationService.Call) (dto : MigrationService.MigrationDTO) (outcomes : MigrationService.Outcomes)
  | getProducer (env : EnvId) (host name : String) (customized : Option String)
  | getConsumer (env : EnvId) (host name : String)
  | startProducer (index : Nat) (runs : Bool)
  | startConsumer (index : Nat) (runs : Bool)
  | producerChange (index : Nat) (ending : Ending)
  | consumerChange (index : Nat) (ending : Ending)

namespace Launches
variable (configured : EnvId → Bool) (fold : Char → Char) (lower : String → String)

def effect (s : Launches) : LaunchStep → Launches
  | .request action =>
      { s with portal := action.request.leaves fold lower { s.portal with answers := action.answers } }
  | .updateGated type dto answers =>
      { s with portal := (Resources.updateGated type dto { s.portal with answers := answers }).2 }
  | .updateGroupGated env dto answers =>
      { s with portal := (Resources.updateGroupGated env dto { s.portal with answers := answers }).2 }
  | .migrate call dto outcomes => { s with portal := Resources.migrate configured fold s.portal outcomes dto call }
  | .getProducer env host name customized =>
      { s with producers := s.producers ++
          (newProxy id env host name customized (s.portal.readTopicMetadata env name)).toList }
  | .getConsumer env host name =>
      { s with consumers := s.consumers ++
          (newProxy (·.toZmsMetadata) env host name none (s.portal.readConsumerGroupMetadata env name)).toList }
  | .startProducer index runs =>
      { s with producers := s.producers.modify index (Launched.start Launched.producerClass runs) }
  | .startConsumer index runs =>
      { s with consumers := s.consumers.modify index (Launched.start Launched.consumerClass runs) }
  | .producerChange index ending =>
      let change := Launched.change Launched.producerClass s.portal.readTopicMetadata ending
      { s with producers := s.producers.modify index change }
  | .consumerChange index ending =>
      let change := Launched.change Launched.consumerClass s.portal.readConsumerGroupMetadata ending
      { s with consumers := s.consumers.modify index change }

/-- At the start there are neither nodes nor proxies. -/
def machine : Guarded Launches LaunchStep where
  init s := (∀ env type name, s.portal.nodes env type name = none) ∧ s.producers = [] ∧ s.consumers = []
  guard _ _ := True
  effect := effect configured fold lower

instance (s : Launches) (step : LaunchStep) : Decidable ((machine configured fold lower).guard s step) :=
  .isTrue trivial

end Launches

end Zms.Portal.Resources
