import Zms.Client.Consumer.Kafka.Executor
import Zms.Metadata
import Zms.Portal.Tables

/-! Where a consumer group without committed offsets starts, by the `consumeFrom` of its
metadata: the settings both proxies make of it, and what the rebalance callback of the
Kafka proxy does about them.
-/

set_option autoImplicit false

namespace Zms.Client.Consumer.StartPosition

open Zms.Portal (equalsIgnoreCase)
open Zms.Client.Consumer.Kafka

/-- The records of a partition that the broker still has: from `beginOffset`, before `endOffset`. -/
structure PartitionLog where
  beginOffset : Nat
  endOffset : Nat
  ordered : beginOffset ≤ endOffset

abbrev Properties := String → Option String

def put (properties : Properties) (key value : String) : Properties := Function.update properties key (some value)

def isEmpty : Option String → Bool
  | none => true
  | some text => text = ""

/-- What the environment gives a start: `Integer.valueOf`, the processors, the local host and the
random client id. -/
structure Runtime where
  valueOf : String → Option Int
  availableProcessors : Nat
  localHost : String
  clientId : String

namespace Kafka

/-- `addUserDefinedProperties`; `none` when a thread number or the sizes of a pool are refused. -/
def addUserDefinedProperties (runtime : Runtime) (isOrderly : Bool) (properties kafkaProperties : Properties) :
    Option (Properties × List ThreadPoolExecutor) := do
  let kafkaProperties := match properties "consumeMessagesSize" with
    | some size => put kafkaProperties "max.poll.records" size
    | none => kafkaProperties
  let consumeThreadMin ← (properties "consumeThreadMin").mapM runtime.valueOf
  let consumeThreadMax ← (properties "consumeThreadMax").mapM runtime.valueOf
  let executors ← Consumer.Kafka.addUserDefinedProperties isOrderly runtime.availableProcessors
    { consumeThreadMin, consumeThreadMax }
  return (kafkaProperties, executors)

def autoOffsetReset (fold : Char → Char) (consumeFrom : Option String) : String :=
  if isEmpty consumeFrom then "earliest"
  else if consumeFrom.any (equalsIgnoreCase fold "earliest") then "earliest"
  else "latest"

/-- `consumerStart`, up to the construction of the consumer: its properties and the executors added.
`kafkaProperties` are those of an earlier start. -/
def consumerStart (fold : Char → Char) (runtime : Runtime) (isOrderly : Bool) (kafkaProperties : Properties)
    (metadata : ConsumerGroupMetadata) (customizedProperties : Option Properties) :
    Option (Properties × List ThreadPoolExecutor) := do
  let cluster ← metadata.effectiveCluster runtime.localHost
  let bootAddr ← cluster.bootAddr
  let kafkaProperties := put kafkaProperties "key.deserializer"
    "org.apache.kafka.common.serialization.StringDeserializer"
  let kafkaProperties := put kafkaProperties "value.deserializer"
    "org.apache.kafka.common.serialization.ByteArrayDeserializer"
  let kafkaProperties := put kafkaProperties "bootstrap.servers" bootAddr
  let kafkaProperties := put kafkaProperties "group.id" metadata.name
  let kafkaProperties := put kafkaProperties "enable.auto.commit" "false"
  let kafkaProperties := put kafkaProperties "client.id" runtime.clientId
  let kafkaProperties := put kafkaProperties "auto.offset.reset" (autoOffsetReset fold metadata.consumeFrom)
  match customizedProperties with
  | none => return (kafkaProperties, [])
  | some properties => addUserDefinedProperties runtime isOrderly properties kafkaProperties

/-- `onPartitionsAssigned`, for one partition: the offset it seeks. -/
def onPartitionsAssigned (fold : Char → Char) (kafkaProperties : Properties) (committed : Option Nat) : Option Nat :=
  if (kafkaProperties "auto.offset.reset").any (equalsIgnoreCase fold "latest") then
    if committed.isNone then some 0 else none
  else none

/-- The consumer's own rule: `auto.offset.reset` decides where there is neither a seek nor a
committed offset, or where that is outside of the log. Without a side to fall back to it throws. -/
def resetPosition (log : PartitionLog) (kafkaProperties : Properties) : Option Nat :=
  match kafkaProperties "auto.offset.reset" with
  | some "earliest" => some log.beginOffset
  | some "latest" | none => some log.endOffset
  | some _ => none

def position (log : PartitionLog) (kafkaProperties : Properties) (committed sought : Option Nat) : Option Nat :=
  match sought.or committed with
  | some offset =>
      if log.beginOffset ≤ offset ∧ offset ≤ log.endOffset then some offset else resetPosition log kafkaProperties
  | none => resetPosition log kafkaProperties

/-- The offset of the first record fetched from a partition assigned to the consumer. -/
def firstFetched (fold : Char → Char) (log : PartitionLog) (kafkaProperties : Properties) (committed : Option Nat) :
    Option Nat :=
  position log kafkaProperties committed (onPartitionsAssigned fold kafkaProperties committed)

end Kafka

namespace Rocketmq

inductive ConsumeFromWhere where
  | CONSUME_FROM_LAST_OFFSET | CONSUME_FROM_FIRST_OFFSET
  deriving DecidableEq, Repr

/-- The fields of `DefaultMQPushConsumer` that the proxy sets. -/
structure PushConsumer where
  consumerGroup : String
  namesrvAddr : Option String
  clientIP : String
  vipChannelEnabled : Bool
  consumeFromWhere : ConsumeFromWhere
  broadcasting : Bool
  pullBatchSize : Option Int
  consumeMessageBatchMaxSize : Option Int
  consumeThreadMin : Option Int
  consumeThreadMax : Option Int
  subscription : Option (Option String × String)
  deriving DecidableEq, Repr

def needSuspend (fold : Char → Char) (metadata : ConsumerGroupMetadata) : Bool :=
  isNotBlank metadata.suspend && metadata.suspend.any (equalsIgnoreCase fold "true")

def consumeFromWhere (fold : Char → Char) (consumeFrom : Option String) : ConsumeFromWhere :=
  if isEmpty consumeFrom then .CONSUME_FROM_LAST_OFFSET
  else if consumeFrom.any (equalsIgnoreCase fold "earliest") then .CONSUME_FROM_FIRST_OFFSET
  else .CONSUME_FROM_LAST_OFFSET

def addUserDefinedProperties (runtime : Runtime) (properties : Properties) (consumer : PushConsumer) :
    Option PushConsumer := do
  let pullBatchSize ← (properties "consumeMessagesSize").mapM runtime.valueOf
  let batch ← (properties "rocketmqConsumeBatchSize").mapM runtime.valueOf
  let consumeThreadMin ← (properties "consumeThreadMin").mapM runtime.valueOf
  let consumeThreadMax ← (properties "consumeThreadMax").mapM runtime.valueOf
  return { consumer with pullBatchSize, consumeMessageBatchMaxSize := batch, consumeThreadMin, consumeThreadMax }

/-- `consumerStart`: the consumer it makes, `none` when it throws. -/
def consumerStart (fold : Char → Char) (runtime : Runtime) (tags : List String) (metadata : ConsumerGroupMetadata)
    (customizedProperties : Option Properties) : Option PushConsumer := do
  let cluster ← metadata.effectiveCluster runtime.localHost
  if needSuspend fold metadata then none
  let consumer : PushConsumer := {
    consumerGroup := metadata.name
    namesrvAddr := cluster.bootAddr
    clientIP := "consumer-client-id-" ++ cluster.clusterName ++ "-" ++ runtime.localHost
    vipChannelEnabled := false
    consumeFromWhere := consumeFromWhere fold metadata.consumeFrom
    broadcasting := !isEmpty metadata.broadcast && metadata.broadcast.any (equalsIgnoreCase fold "true")
    pullBatchSize := none
    consumeMessageBatchMaxSize := none
    consumeThreadMin := none
    consumeThreadMax := none
    subscription := none }
  let consumer ← match customizedProperties with
    | none => some consumer
    | some properties => addUserDefinedProperties runtime properties consumer
  let combinedTags := if tags = [] then "*" else String.intercalate "||" tags
  return { consumer with subscription := some (metadata.bindingTopic, combinedTags) }

end Rocketmq

/-- A group without committed offsets starts where the Kafka setting says, and the RocketMQ proxy
has chosen the same side. -/
structure StartsRight (fold : Char → Char) (log : PartitionLog) (kafkaProperties : Properties)
    (consumer : Rocketmq.PushConsumer) : Prop where
  earliest : kafkaProperties "auto.offset.reset" = some "earliest" →
    Kafka.firstFetched fold log kafkaProperties none = some log.beginOffset
  latest : kafkaProperties "auto.offset.reset" = some "latest" →
    Kafka.firstFetched fold log kafkaProperties none = some log.endOffset
  sameSide : kafkaProperties "auto.offset.reset" = some "earliest" ↔
    consumer.consumeFromWhere = .CONSUME_FROM_FIRST_OFFSET

section Starts
variable {fold : Char → Char} {runtime : Runtime} {log : PartitionLog} {kafkaProperties before : Properties}

theorem put_of_ne {properties : Properties} {key other value : String} (ne : key ≠ other) :
    put properties other value key = properties key := Function.update_of_ne ne _ _

theorem put_self {properties : Properties} {key value : String} : put properties key value key = some value :=
  Function.update_self _ _ _

theorem autoOffsetReset_addUserDefinedProperties {isOrderly : Bool} {properties : Properties}
    {executors : List ThreadPoolExecutor}
    (added : Kafka.addUserDefinedProperties runtime isOrderly properties before = some (kafkaProperties, executors)) :
    kafkaProperties "auto.offset.reset" = before "auto.offset.reset" := by
  unfold Kafka.addUserDefinedProperties at added
  simp only [Option.bind_eq_bind, Option.bind_eq_some_iff, Option.pure_def, Option.some.injEq, Prod.mk.injEq] at added
  obtain ⟨min, -, max, -, pools, -, same, -⟩ := added
  subst same
  split
  · exact put_of_ne (by decide)
  · rfl

theorem autoOffsetReset_consumerStart {isOrderly : Bool} {metadata : ConsumerGroupMetadata}
    {customizedProperties : Option Properties} {executors : List ThreadPoolExecutor}
    (starts : Kafka.consumerStart fold runtime isOrderly before metadata customizedProperties =
      some (kafkaProperties, executors)) :
    kafkaProperties "auto.offset.reset" = some (Kafka.autoOffsetReset fold metadata.consumeFrom) := by
  unfold Kafka.consumerStart at starts
  simp only [Option.bind_eq_bind, Option.bind_eq_some_iff] at starts
  obtain ⟨cluster, -, bootAddr, -, starts⟩ := starts
  cases customizedProperties with
  | none =>
    cases starts
    exact put_self
  | some properties => exact (autoOffsetReset_addUserDefinedProperties starts).trans put_self

theorem consumeFromWhere_consumerStart {tags : List String} {metadata : ConsumerGroupMetadata}
    {customizedProperties : Option Properties} {consumer : Rocketmq.PushConsumer}
    (starts : Rocketmq.consumerStart fold runtime tags metadata customizedProperties = some consumer) :
    consumer.consumeFromWhere = Rocketmq.consumeFromWhere fold metadata.consumeFrom := by
  unfold Rocketmq.consumerStart at starts
  simp only [Option.bind_eq_bind, Option.bind_eq_some_iff] at starts
  obtain ⟨cluster, -, starts⟩ := starts
  split at starts
  · cases starts
  · simp only [Option.pure_def, Option.bind_some] at starts
    cases customizedProperties with
    | none =>
      cases starts
      rfl
    | some properties =>
      simp only [Rocketmq.addUserDefinedProperties, Option.bind_eq_bind, Option.bind_eq_some_iff, Option.pure_def,
        Option.some.injEq] at starts
      obtain ⟨ready, ⟨-, -, -, -, -, -, -, -, rfl⟩, rfl⟩ := starts
      rfl

theorem equalsIgnoreCase_latest : equalsIgnoreCase fold "latest" "latest" = true ∧
    equalsIgnoreCase fold "latest" "earliest" = false := by
  refine ⟨decide_eq_true rfl, decide_eq_false fun same => ?_⟩
  have lengths := congrArg List.length same
  simp only [List.length_map] at lengths
  revert lengths
  decide

/-- With `earliest` nothing is sought. -/
theorem firstFetched_earliest (setting : kafkaProperties "auto.offset.reset" = some "earliest") :
    Kafka.firstFetched fold log kafkaProperties none = some log.beginOffset := by
  simp [Kafka.firstFetched, Kafka.onPartitionsAssigned, Kafka.position, Kafka.resetPosition, setting,
    equalsIgnoreCase_latest.2]

/-- With `latest` the callback seeks offset 0, which may be in the log. -/
theorem firstFetched_latest (setting : kafkaProperties "auto.offset.reset" = some "latest") :
    Kafka.firstFetched fold log kafkaProperties none =
      some (if log.beginOffset = 0 then 0 else log.endOffset) := by
  simp only [Kafka.firstFetched, Kafka.onPartitionsAssigned, Kafka.position, Kafka.resetPosition, setting,
    Option.any_some, equalsIgnoreCase_latest.1, if_true, Option.isNone_none, Option.some_or, Nat.le_zero,
    Nat.zero_le, and_true]
  split <;> rfl

end Starts

/-- When the two proxies of one `consumeFrom` start right. -/
theorem startsRight_iff (fold : Char → Char) (runtime : Runtime) (log : PartitionLog) (isOrderly : Bool)
    (before : Properties) (tags : List String) (metadata other : ConsumerGroupMetadata)
    (customizedProperties otherProperties : Option Properties) (kafkaProperties : Properties)
    (executors : List ThreadPoolExecutor) (consumer : Rocketmq.PushConsumer)
    (kafka : Kafka.consumerStart fold runtime isOrderly before metadata customizedProperties =
      some (kafkaProperties, executors))
    (rocketmq : Rocketmq.consumerStart fold runtime tags other otherProperties = some consumer)
    (same : other.consumeFrom = metadata.consumeFrom) :
    StartsRight fold log kafkaProperties consumer ↔ isEmpty metadata.consumeFrom = false ∧
      (metadata.consumeFrom.any (equalsIgnoreCase fold "earliest") = true ∨ 0 < log.beginOffset ∨
        log.endOffset = 0) := by
  have setting := autoOffsetReset_consumerStart kafka
  have side := consumeFromWhere_consumerStart rocketmq
  rw [same] at side
  generalize metadata.consumeFrom = consumeFrom at setting side ⊢
  unfold Kafka.autoOffsetReset at setting
  unfold Rocketmq.consumeFromWhere at side
  cases empty : isEmpty consumeFrom with
  | true =>
    -- the one side that the proxies default to is not the other's
    rw [empty, if_pos rfl] at setting side
    refine iff_of_false (fun right => ?_) (by simp)
    have first := right.sameSide.mp setting
    rw [side] at first
    cases first
  | false =>
    simp only [empty, Bool.false_eq_true, if_false] at setting side
    by_cases isEarliest : consumeFrom.any (equalsIgnoreCase fold "earliest") = true
    · rw [if_pos isEarliest] at setting side
      refine iff_of_true ⟨fun _ => firstFetched_earliest setting, fun latest => ?_, iff_of_true setting side⟩
        ⟨rfl, .inl isEarliest⟩
      rw [setting] at latest
      exact absurd latest (by decide)
    · rw [if_neg isEarliest] at setting side
      have ordered := log.ordered
      have fetched := @firstFetched_latest fold log kafkaProperties setting
      constructor
      · intro right
        have atEnd := right.latest setting
        rw [fetched, Option.some.injEq] at atEnd
        refine ⟨rfl, .inr ?_⟩
        split at atEnd <;> omega
      · rintro ⟨-, early | beyond⟩
        · exact absurd early isEarliest
        · refine ⟨fun earliest => ?_, fun _ => ?_, iff_of_false ?_ ?_⟩
          · rw [setting] at earliest
            exact absurd earliest (by decide)
          · rw [fetched, Option.some.injEq]
            split <;> omega
          · rw [setting]
            simp
          · rw [side]
            simp

namespace Run

def runtime : Runtime := ⟨fun _ => some 1, 2, "10.0.0.1", "billing--10.0.0.1--1"⟩

/-- A group on the cluster, with the setting. -/
def billing (consumeFrom : Option String) : ConsumerGroupMetadata where
  type := "consumerGroup"
  name := "billing"
  clusterMetadata := some ⟨"main", some "10.0.0.2:9092", none, none⟩
  domain := none
  gatedIps := none
  gatedCluster := none
  statisticsLogger := none
  bindingTopic := some "orders"
  consumeFrom := consumeFrom
  broadcast := none
  suspend := none

def oneRecord : PartitionLog := ⟨0, 1, by decide⟩

def trimmed : PartitionLog := ⟨10, 12, by decide⟩

end Run

open Run in
theorem startsRight_trimmed : ∃ kafkaProperties executors consumer,
    Kafka.consumerStart id runtime false (fun _ => none) (billing (some "latest")) none =
      some (kafkaProperties, executors) ∧
    Rocketmq.consumerStart id runtime [] (billing (some "latest")) none = some consumer ∧
    StartsRight id trimmed kafkaProperties consumer :=
  ⟨_, _, _, rfl, rfl, (startsRight_iff id runtime trimmed false _ [] (billing (some "latest"))
    (billing (some "latest")) none none _ _ _ rfl rfl rfl).mpr ⟨rfl, .inr (.inl (by decide))⟩⟩

open Run in
/-- The callback seeks offset 0, where the log of a group that is to start at the end begins. -/
theorem not_startsRight : ¬ ∀ (log : PartitionLog) (consumeFrom : Option String) (kafkaProperties : Properties)
    (executors : List ThreadPoolExecutor) (consumer : Rocketmq.PushConsumer),
    Kafka.consumerStart id runtime false (fun _ => none) (billing consumeFrom) none =
      some (kafkaProperties, executors) →
    Rocketmq.consumerStart id runtime [] (billing consumeFrom) none = some consumer →
    StartsRight id log kafkaProperties consumer := by
  intro always
  have right := always oneRecord (some "latest") _ _ _ rfl rfl
  have atEnd := right.latest rfl
  revert atEnd
  decide

end Zms.Client.Consumer.StartPosition
