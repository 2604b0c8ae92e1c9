import Zms.Portal.KafkaTopics
import Zms.Portal.RocketMqTopics
import Zms.Registry.Writes
import Zms.Transition.Throwing

/-! `RecoverService`: a cluster rebuilt from the backup of its topics and consumer groups.

The environment chooses how every remote call ends, and what is found of the backup files.
-/

set_option autoImplicit false

namespace Zms.Portal.RecoverService

open Registry Transition Transition.Throwing UpdateTopicPerm RocketMqTopics

structure TopicLog where
  topicName : String
  partitions : Int
  deriving DecidableEq

structure ZmsClusterServiceDTO where
  environmentId : Int
  serverName : String
  serverType : String

/-! ### The backup files -/

section Loading
variable {T : Type} (file2String : String → Option (Option String)) (decode : String → Option (Option (List T)))

/-- `none` is null; of `file2String` and `decode` the outer `none` is an exception. -/
def loadBak (fileName : String) : Option (List T) :=
  match file2String (fileName ++ ".bak") with
  | some (some jsonString) =>
    if jsonString = "" then some [] else (decode jsonString).getD (some [])
  | _ => some []

def load (fileName : String) : Option (List T) :=
  match file2String fileName with
  | some (some jsonString) =>
    if jsonString = "" then loadBak file2String decode fileName
    else (decode jsonString).getD (loadBak file2String decode fileName)
  | _ => loadBak file2String decode fileName

end Loading

/-- The request with what is found of its clusters and files. -/
structure Request where
  targetCluster : Option ZmsClusterServiceDTO
  srcCluster : Option ZmsClusterServiceDTO
  fold : Char → Char
  file2String : String → Option (Option String)
  decodeTopics : String → Option (Option (List TopicLog))
  decodeConsumers : String → Option (Option (List String))

namespace Request

variable (request : Request)

/-- The names of the target and the source; `none` where it throws. -/
def checkCluster : Option (String × String) := do
  let targetCluster ← request.targetCluster
  let srcCluster ← request.srcCluster
  if targetCluster.environmentId ≠ srcCluster.environmentId then none
  else if ¬ equalsIgnoreCase request.fold targetCluster.serverType srcCluster.serverType then none
  else some (targetCluster.serverName, srcCluster.serverName)

def loadTopics (clusterName : String) : Option (List TopicLog) :=
  load request.file2String request.decodeTopics ("/data/logs/zms-backup/" ++ clusterName ++ "_topic")

def loadConsumers (clusterName : String) : Option (List String) :=
  load request.file2String request.decodeConsumers ("/data/logs/zms-backup/" ++ clusterName ++ "_consumer")

end Request

/-- The manager of the target cluster; the number tells its calls apart. -/
structure MiddlewareProcess (S : Type) where
  recoverTopic : Nat → TopicLog → Throwing S Unit
  recoverConsumerGroup : Nat → String → Throwing S Unit

/-- `getOrCreateAdmin` may throw. -/
def clusterRecover {S : Type} (request : Request) (getOrCreateAdmin : String → Option (MiddlewareProcess S)) :
    Throwing S Unit := do
  let clusters ← ofOption request.checkCluster
  let topicLogs := (request.loadTopics clusters.2).getD []
  when (topicLogs ≠ []) do
    let middlewareProcess ← ofOption (getOrCreateAdmin clusters.1)
    forEach (fun log => middlewareProcess.recoverTopic log.2 log.1) topicLogs.zipIdx
    let consumers ← ofOption (request.loadConsumers clusters.2)
    forEach (fun consumer => middlewareProcess.recoverConsumerGroup consumer.2 consumer.1) consumers.zipIdx

/-! ### Kafka -/

structure KafkaCalls where
  described : KafkaTopics.Future
  create : KafkaTopics.AdminCalls

def kafkaRecoverTopic (refusals : KafkaTopics.Refusals) (calls : KafkaCalls) (log : TopicLog) :
    Throwing KafkaTopics.Broker Unit := fun broker =>
  match KafkaTopics.isTopicExist refusals broker log.topicName calls.described with
  | .error _ => (none, broker)
  | .ok true => (some (), broker)
  | .ok false =>
    let created := KafkaTopics.createTopic refusals broker log.topicName log.partitions (some 3) calls.create
    (match created.2 with
      | .ok () => some ()
      | .error _ => none, created.1)

def kafka (refusals : KafkaTopics.Refusals) (calls : Nat → KafkaCalls) : MiddlewareProcess KafkaTopics.Broker where
  recoverTopic i log := kafkaRecoverTopic refusals (calls i) log
  recoverConsumerGroup _ _ := Throwing.pure ()

/-! ### RocketMQ -/

/-- What a broker keeps of a consumer group. -/
structure SubscriptionGroupConfig where
  consumeEnable : Bool
  consumeFromMinEnable : Bool
  consumeBroadcastEnable : Bool
  retryQueueNums : Int
  retryMaxTimes : Int
  brokerId : Int
  whichBrokerWhenConsumeSlowly : Int
  notifyConsumerIdsChangedEnable : Bool

/-- `new SubscriptionGroupConfig()` with the two settings of the call. -/
def groupConfig (broadcast consumerFrom : Bool) : SubscriptionGroupConfig where
  consumeEnable := true
  consumeFromMinEnable := consumerFrom
  consumeBroadcastEnable := broadcast
  retryQueueNums := 1
  retryMaxTimes := 16
  brokerId := 0
  whichBrokerWhenConsumeSlowly := 1
  notifyConsumerIdsChangedEnable := true

/-- Per address, the groups of the broker. -/
abbrev Groups := String → String → Option SubscriptionGroupConfig

def createAndUpdateSubscriptionGroupConfig (groups : Groups) (group addr : String) (config : SubscriptionGroupConfig) :
    Groups := Function.update groups addr (Function.update (groups addr) group (some config))

structure RocketMq where
  topics : Brokers
  groups : Groups

/-- How `examineTopicRouteInfo` ends for a topic whose existence is asked for. -/
inductive Examined where
  | route
  | null
  | notExist
  | fails

structure TopicCalls where
  examined : Examined
  create : Calls

def isTopicExist : Examined → Option Bool
  | .route => some true
  | .null | .notExist => some false
  | .fails => none

structure GroupCalls where
  /-- Whether it returns. -/
  examineConsumeStats : Bool
  examineBrokerClusterInfo : Option ClusterInfo
  random : String → Nat
  reply : String → Reply
  /-- Whether the table of a broker has the group. -/
  getAllSubscriptionGroup : String → Option Bool

def GroupCalls.addrOf (calls : GroupCalls) (clusterInfo : ClusterInfo) (brokerName : String) : Option String :=
  (clusterInfo.brokerAddrTable brokerName).bind fun addrs => addrs.selectBrokerAddr (calls.random brokerName)

/-- The loop over the brokers, and whether it gets to the end. -/
def sendGroup (calls : GroupCalls) (clusterInfo : ClusterInfo) (group : String) (config : SubscriptionGroupConfig) :
    List String → Groups → Groups × Bool
  | [], groups => (groups, true)
  | brokerName :: rest, groups =>
    match calls.addrOf clusterInfo brokerName with
    | none => (groups, false)
    | some addr =>
      match calls.reply brokerName with
      | .returns => sendGroup calls clusterInfo group config rest
          (createAndUpdateSubscriptionGroupConfig groups group addr config)
      | .throws => (groups, false)
      | .throwsAfterwards => (createAndUpdateSubscriptionGroupConfig groups group addr config, false)

/-- What the request has sent, and whether it returns. -/
def createConsumerGroup (calls : GroupCalls) (clusterName : String) (groups : Groups) (group : String)
    (broadcast consumerFrom : Bool) : Groups × Bool :=
  match calls.examineBrokerClusterInfo with
  | none => (groups, false)
  | some clusterInfo =>
    match clusterInfo.clusterAddrTable clusterName with
    | none => (groups, false)
    | some brokerNames =>
      let sent := sendGroup calls clusterInfo group (groupConfig broadcast consumerFrom) brokerNames groups
      let created := brokerNames.all fun brokerName =>
        (calls.addrOf clusterInfo brokerName).any fun addr => calls.getAllSubscriptionGroup addr = some true
      (sent.1, sent.2 && created)

def rocketMqRecoverTopic (calls : TopicCalls) (clusterName : String) (log : TopicLog) : Throwing RocketMq Unit := do
  let exist ← ofOption (isTopicExist calls.examined)
  -- an exception of `createTopic` is only logged
  when (exist = false) (modify fun s =>
    { s with topics := (createTopic calls.create clusterName s.topics log.topicName log.partitions).1 })

def rocketMqRecoverConsumerGroup (calls : GroupCalls) (clusterName group : String) : Throwing RocketMq Unit :=
  when (calls.examineConsumeStats = false) (modify fun s =>
    { s with groups := (createConsumerGroup calls clusterName s.groups group false true).1 })

def rocketMq (topicCalls : Nat → TopicCalls) (groupCalls : Nat → GroupCalls) (clusterName : String) :
    MiddlewareProcess RocketMq where
  recoverTopic i log := rocketMqRecoverTopic (topicCalls i) clusterName log
  recoverConsumerGroup i group := rocketMqRecoverConsumerGroup (groupCalls i) clusterName group

/-! ### A complete rebuild -/

/-- What the backup holds, of a source cluster. -/
def Request.topics (request : Request) : List TopicLog :=
  (request.checkCluster.bind fun clusters => request.loadTopics clusters.2).getD []

def Request.consumers (request : Request) : List String :=
  (request.checkCluster.bind fun clusters => request.loadConsumers clusters.2).getD []

structure KafkaComplete (request : Request) (before : KafkaTopics.Broker) (ended : Option Unit × KafkaTopics.Broker) :
    Prop where
  topics : ended.1 = some () → ∀ log ∈ request.topics, (ended.2 log.topicName).isSome
  kept : ∀ topic partitions, before topic = some partitions → ended.2 topic = some partitions

structure RocketMqComplete (request : Request) (before : RocketMq) (ended : Option Unit × RocketMq) : Prop where
  topics : ended.1 = some () → ∀ log ∈ request.topics, ∃ addr, (ended.2.topics addr log.topicName).isSome
  groups : ended.1 = some () → ∀ group ∈ request.consumers, ∃ addr, (ended.2.groups addr group).isSome
  keptTopics : ∀ addr topic config, before.topics addr topic = some config → ended.2.topics addr topic = some config
  keptGroups : ∀ addr group config, before.groups addr group = some config → ended.2.groups addr group = some config

/-! ### What the requests write -/

/-- The addresses that a loop over brokers sends to, up to the first exception. -/
def sentTo (addrOf : String → Option String) (reply : String → Reply) : List String → List String
  | [] => []
  | brokerName :: rest =>
    match addrOf brokerName with
    | none => []
    | some addr =>
      match reply brokerName with
      | .returns => addr :: sentTo addrOf reply rest
      | .throws => []
      | .throwsAfterwards => [addr]

/-- The brokers that a request reaches. -/
def reached (examineBrokerClusterInfo : Option ClusterInfo) (addrOf : ClusterInfo → String → Option String)
    (reply : String → Reply) (clusterName : String) : List String :=
  match examineBrokerClusterInfo with
  | none => []
  | some clusterInfo => sentTo (addrOf clusterInfo) reply ((clusterInfo.clusterAddrTable clusterName).getD [])

def writesOf {C : Type} (name : String) (config : C) (addrs : List String) : List ((String × String) × C) :=
  addrs.map fun addr => ((addr, name), config)

/-- Of the topics to recover, those that are asked for before an answer fails. -/
def askedTopics (topicCalls : Nat → TopicCalls) (logs : List (TopicLog × Nat)) : List (TopicLog × Nat) :=
  logs.takeWhile fun log => (isTopicExist (topicCalls log.2).examined).isSome

/-- The configurations that are sent for topics that are said not to exist. -/
def topicWrites (topicCalls : Nat → TopicCalls) (clusterName : String) (logs : List (TopicLog × Nat)) :
    List ((String × String) × TopicConfig) :=
  logs.flatMap fun log =>
    let calls := (topicCalls log.2).create
    if isTopicExist (topicCalls log.2).examined = some false then
      writesOf log.1.topicName (configOf log.1.partitions)
        (reached calls.examineBrokerClusterInfo (addrOf calls) calls.reply clusterName)
    else []

/-- The configurations that are sent for groups without statistics. -/
def groupWrites (groupCalls : Nat → GroupCalls) (clusterName : String) (groups : List (String × Nat)) :
    List ((String × String) × SubscriptionGroupConfig) :=
  groups.flatMap fun group =>
    let calls := groupCalls group.2
    if calls.examineConsumeStats = false then
      writesOf group.1 (groupConfig false true)
        (reached calls.examineBrokerClusterInfo calls.addrOf calls.reply clusterName)
    else []

section Writes
variable {C : Type}

def curried (entries : String × String → Option C) : String → String → Option C := fun addr name => entries (addr, name)

def pairs (store : String → String → Option C) : String × String → Option C := fun key => store key.1 key.2

theorem update_update (store : String → String → Option C) (addr name : String) (config : C) :
    Function.update store addr (Function.update (store addr) name (some config)) =
      curried (Function.update (pairs store) (addr, name) (some config)) := by
  funext a n
  unfold curried pairs
  by_cases address : a = addr
  · subst address
    by_cases own : n = name
    · subst own
      simp
    · rw [Function.update_self, Function.update_of_ne own, Function.update_of_ne fun same => own (Prod.mk.inj same).2]
  · rw [Function.update_of_ne address, Function.update_of_ne fun same => address (Prod.mk.inj same).1]

theorem sendEach_eq (calls : Calls) (clusterInfo : ClusterInfo) (topic : String) (config : TopicConfig)
    (brokerNames : List String) (brokers : Brokers) :
    (sendEach calls clusterInfo topic config brokerNames brokers).1 =
      curried (Writes.write (pairs brokers)
        (writesOf topic config (sentTo (addrOf calls clusterInfo) calls.reply brokerNames))) := by
  induction brokerNames generalizing brokers with
  | nil => rfl
  | cons brokerName rest ih =>
    simp only [sendEach, sentTo]
    cases addrOf calls clusterInfo brokerName with
    | none => rfl
    | some addr =>
      cases calls.reply brokerName with
      | returns =>
        simp only [ih, createAndUpdateTopicConfig, update_update]
        rfl
      | throws => rfl
      | throwsAfterwards => simp only [createAndUpdateTopicConfig, update_update]; rfl

theorem createTopic_eq (calls : Calls) (clusterName : String) (brokers : Brokers) (topic : String) (partitions : Int) :
    (createTopic calls clusterName brokers topic partitions).1 =
      curried (Writes.write (pairs brokers) (writesOf topic (configOf partitions)
        (reached calls.examineBrokerClusterInfo (addrOf calls) calls.reply clusterName))) := by
  unfold createTopic reached
  cases calls.examineBrokerClusterInfo with
  | none => rfl
  | some clusterInfo =>
    cases table : clusterInfo.clusterAddrTable clusterName with
    | none => simp only [table]; rfl
    | some brokerNames =>
      have sent := sendEach_eq calls clusterInfo topic (configOf partitions) brokerNames brokers
      simp only [table, Option.getD_some, ← sent]
      split_ifs
      · rfl
      · split
        · rfl
        · split_ifs <;> rfl

theorem sendGroup_eq (calls : GroupCalls) (clusterInfo : ClusterInfo) (group : String)
    (config : SubscriptionGroupConfig) (brokerNames : List String) (groups : Groups) :
    (sendGroup calls clusterInfo group config brokerNames groups).1 =
      curried (Writes.write (pairs groups)
        (writesOf group config (sentTo (calls.addrOf clusterInfo) calls.reply brokerNames))) := by
  induction brokerNames generalizing groups with
  | nil => rfl
  | cons brokerName rest ih =>
    simp only [sendGroup, sentTo]
    cases calls.addrOf clusterInfo brokerName with
    | none => rfl
    | some addr =>
      cases calls.reply brokerName with
      | returns =>
        simp only [ih, createAndUpdateSubscriptionGroupConfig, update_update]
        rfl
      | throws => rfl
      | throwsAfterwards => simp only [createAndUpdateSubscriptionGroupConfig, update_update]; rfl

theorem createConsumerGroup_eq (calls : GroupCalls) (clusterName : String) (groups : Groups) (group : String)
    (broadcast consumerFrom : Bool) :
    (createConsumerGroup calls clusterName groups group broadcast consumerFrom).1 =
      curried (Writes.write (pairs groups) (writesOf group (groupConfig broadcast consumerFrom)
        (reached calls.examineBrokerClusterInfo calls.addrOf calls.reply clusterName))) := by
  unfold createConsumerGroup reached
  cases calls.examineBrokerClusterInfo with
  | none => rfl
  | some clusterInfo =>
    cases table : clusterInfo.clusterAddrTable clusterName with
    | none => simp only [table]; rfl
    | some brokerNames =>
      simp only [table, Option.getD_some]
      exact sendGroup_eq calls clusterInfo group _ brokerNames groups

end Writes

/-! ### The loops -/

section Loops
variable {topicCalls : Nat → TopicCalls} {groupCalls : Nat → GroupCalls} {clusterName : String}

theorem rocketMqRecoverTopic_eq (log : TopicLog × Nat) (s : RocketMq) :
    rocketMqRecoverTopic (topicCalls log.2) clusterName log.1 s =
      (if (isTopicExist (topicCalls log.2).examined).isSome then some () else none,
        { s with topics := curried (Writes.write (pairs s.topics) (topicWrites topicCalls clusterName [log])) }) := by
  unfold rocketMqRecoverTopic topicWrites
  cases examined : (topicCalls log.2).examined with
  | fails =>
    simp only [examined, isTopicExist, List.flatMap_singleton]
    rfl
  | route =>
    simp only [examined, isTopicExist, List.flatMap_singleton]
    rfl
  | null | notExist =>
    simp only [examined, isTopicExist, ofOption_bind, when, if_true, Throwing.modify, createTopic_eq,
      List.flatMap_singleton, Option.isSome_some]

/-- The topics that are asked for before an answer fails are written. -/
theorem forEach_topics (logs : List (TopicLog × Nat)) (s : RocketMq) :
    forEach (fun log => rocketMqRecoverTopic (topicCalls log.2) clusterName log.1) logs s =
      (if askedTopics topicCalls logs = logs then some () else none,
        { s with topics := curried (Writes.write (pairs s.topics)
          (topicWrites topicCalls clusterName (askedTopics topicCalls logs))) }) := by
  induction logs generalizing s with
  | nil => rfl
  | cons log rest ih =>
    have step := @rocketMqRecoverTopic_eq topicCalls clusterName log s
    rw [forEach_cons]
    cases answered : (isTopicExist (topicCalls log.2).examined).isSome with
    | false =>
      have none_asked : askedTopics topicCalls (log :: rest) = [] := by simp [askedTopics, answered]
      have silent : topicWrites topicCalls clusterName [log] = [] := by
        cases examined : (topicCalls log.2).examined <;> simp [examined, isTopicExist] at answered
        simp [topicWrites, examined, isTopicExist]
      rw [answered, silent] at step
      rw [bind_of_throws step, none_asked]
      rfl
    | true =>
      have asked : askedTopics topicCalls (log :: rest) = log :: askedTopics topicCalls rest := by
        simp [askedTopics, answered]
      have more : topicWrites topicCalls clusterName (log :: askedTopics topicCalls rest) =
          topicWrites topicCalls clusterName [log] ++
            topicWrites topicCalls clusterName (askedTopics topicCalls rest) := by
        simp [topicWrites]
      rw [answered, if_pos rfl] at step
      rw [bind_of_returns step, ih, asked, more, Writes.write_append]
      simp only [List.cons.injEq, true_and]
      rfl

theorem rocketMqRecoverConsumerGroup_eq (group : String × Nat) (s : RocketMq) :
    rocketMqRecoverConsumerGroup (groupCalls group.2) clusterName group.1 s =
      (some (),
        { s with groups := curried (Writes.write (pairs s.groups) (groupWrites groupCalls clusterName [group])) }) := by
  unfold rocketMqRecoverConsumerGroup groupWrites
  cases stats : (groupCalls group.2).examineConsumeStats with
  | true =>
    simp only [when, stats, List.flatMap_singleton]
    rfl
  | false => simp only [when, stats, if_true, Throwing.modify, createConsumerGroup_eq, List.flatMap_singleton]

theorem forEach_groups (groups : List (String × Nat)) (s : RocketMq) :
    forEach (fun group => rocketMqRecoverConsumerGroup (groupCalls group.2) clusterName group.1) groups s =
      (some (),
        { s with groups := curried (Writes.write (pairs s.groups) (groupWrites groupCalls clusterName groups)) }) := by
  induction groups generalizing s with
  | nil => rfl
  | cons group rest ih =>
    have more : groupWrites groupCalls clusterName (group :: rest) =
        groupWrites groupCalls clusterName [group] ++ groupWrites groupCalls clusterName rest := by
      simp [groupWrites]
    rw [forEach_cons, bind_of_returns (rocketMqRecoverConsumerGroup_eq group s), ih, more, Writes.write_append]
    rfl

end Loops

/-! ### When a rebuild is complete -/

/-- What a call for a RocketMQ cluster meets. -/
structure RocketMqCalls where
  /-- `getOrCreateAdmin` returns. -/
  admin : Bool
  topicCalls : Nat → TopicCalls
  groupCalls : Nat → GroupCalls

def recoverRocketMq (request : Request) (calls : RocketMqCalls) : Throwing RocketMq Unit :=
  clusterRecover request fun clusterName =>
    if calls.admin then some (rocketMq calls.topicCalls calls.groupCalls clusterName) else none

/-- No configuration is replaced by another. -/
def Spares {C : Type} (store : String → String → Option C) (writes : List ((String × String) × C)) : Prop :=
  ∀ addr name config, store addr name = some config →
    ∀ last, Writes.written writes (addr, name) = some last → last = config

/-- A broker has the name or is sent it. -/
def Gets {C : Type} (store : String → String → Option C) (writes : List ((String × String) × C)) (name : String) :
    Prop :=
  ∃ addr, (store addr name).isSome ∨ (Writes.written writes (addr, name)).isSome

/-- How a rebuild of a RocketMQ cluster has to go. -/
def Restores (request : Request) (calls : RocketMqCalls) (before : RocketMq) : Prop :=
  ∀ targetCluster srcCluster, request.checkCluster = some (targetCluster, srcCluster) →
    if request.topics = [] then ∀ group ∈ request.consumers, ∃ addr, (before.groups addr group).isSome
    else calls.admin →
      let logs := request.topics.zipIdx
      let asked := askedTopics calls.topicCalls logs
      let sentTopics := topicWrites calls.topicCalls targetCluster asked
      let sentGroups := groupWrites calls.groupCalls targetCluster request.consumers.zipIdx
      Spares before.topics sentTopics ∧ (asked = logs → request.loadConsumers srcCluster ≠ none →
        (∀ log ∈ request.topics, Gets before.topics sentTopics log.topicName) ∧
        (∀ group ∈ request.consumers, Gets before.groups sentGroups group) ∧ Spares before.groups sentGroups)

section Complete
variable {C : Type} {store : String → String → Option C} {writes : List ((String × String) × C)}

theorem gets_iff (name : String) :
    (∃ addr, (curried (Writes.write (pairs store) writes) addr name).isSome) ↔ Gets store writes name := by
  unfold curried Gets
  simp only [Writes.isSome_write_iff]
  rfl

theorem spares_iff :
    (∀ addr name config, store addr name = some config →
      curried (Writes.write (pairs store) writes) addr name = some config) ↔ Spares store writes := by
  constructor
  · intro kept addr name config held
    have before : pairs store (addr, name) = some config := held
    exact (Writes.write_eq_some_iff before).mp (kept addr name config held)
  · intro spares addr name config held
    have before : pairs store (addr, name) = some config := held
    exact (Writes.write_eq_some_iff before).mpr (spares addr name config held)

end Complete

/-! ### How a call ends -/

section Ends
variable {request : Request} {calls : RocketMqCalls} {s : RocketMq} {targetCluster srcCluster : String}

theorem recoverRocketMq_eq (checked : request.checkCluster = some (targetCluster, srcCluster))
    (some_topics : request.topics ≠ []) (admin : calls.admin = true) :
    recoverRocketMq request calls s =
      let logs := request.topics.zipIdx
      let asked := askedTopics calls.topicCalls logs
      let topics := curried (Writes.write (pairs s.topics) (topicWrites calls.topicCalls targetCluster asked))
      if asked = logs ∧ request.loadConsumers srcCluster ≠ none then
        (some (), ⟨topics, curried (Writes.write (pairs s.groups)
          (groupWrites calls.groupCalls targetCluster request.consumers.zipIdx))⟩)
      else (none, { s with topics := topics }) := by
  have logs : (request.loadTopics srcCluster).getD [] = request.topics := by
    unfold Request.topics
    rw [checked]
    rfl
  have unfolded : recoverRocketMq request calls s =
      (forEach (fun log => rocketMqRecoverTopic (calls.topicCalls log.2) targetCluster log.1)
        request.topics.zipIdx >>= fun _ => ofOption (request.loadConsumers srcCluster) >>= fun consumers =>
          forEach (fun group => rocketMqRecoverConsumerGroup (calls.groupCalls group.2) targetCluster group.1)
            consumers.zipIdx) s := by
    unfold recoverRocketMq clusterRecover
    rw [checked, ofOption_bind]
    simp only [logs, when, if_pos some_topics, admin, if_true, ofOption_bind]
    rfl
  have topics := @forEach_topics calls.topicCalls targetCluster request.topics.zipIdx s
  rw [unfolded]
  by_cases all : askedTopics calls.topicCalls request.topics.zipIdx = request.topics.zipIdx
  · rw [if_pos all] at topics
    rw [bind_of_returns topics]
    cases consumers : request.loadConsumers srcCluster with
    | none =>
      simp only [ne_eq, not_true, and_false, if_false]
      rfl
    | some names =>
      have listed : request.consumers = names := by
        unfold Request.consumers
        rw [checked]
        simp [consumers]
      simp only [ofOption_bind, forEach_groups, listed, all, true_and, ne_eq, reduceCtorEq, not_false_eq_true, if_true]
  · rw [if_neg all] at topics
    simp only [bind_of_throws topics, all, false_and, if_false]

/-- A RocketMQ cluster is rebuilt completely if and only if the call goes as it has to. -/
theorem rocketMqComplete_iff (request : Request) (calls : RocketMqCalls) (before : RocketMq) :
    RocketMqComplete request before (recoverRocketMq request calls before) ↔ Restores request calls before := by
  have throws : RocketMqComplete request before (none, before) :=
    ⟨fun impossible => absurd impossible (Option.some_ne_none ()).symm,
      fun impossible => absurd impossible (Option.some_ne_none ()).symm,
      fun _ _ _ held => held, fun _ _ _ held => held⟩
  cases checked : request.checkCluster with
  | none =>
    have ended : recoverRocketMq request calls before = (none, before) := by
      unfold recoverRocketMq clusterRecover
      rw [checked]
      rfl
    rw [ended]
    refine iff_of_true throws fun targetCluster srcCluster known => ?_
    rw [checked] at known
    cases known
  | some clusters =>
    obtain ⟨targetCluster, srcCluster⟩ := clusters
    have condition (Q : String → String → Prop) :
        (∀ target source, request.checkCluster = some (target, source) → Q target source) ↔
          Q targetCluster srcCluster := by
      rw [checked]
      constructor
      · exact fun every => every _ _ rfl
      · rintro holds target source known
        obtain ⟨rfl, rfl⟩ := Prod.mk.inj (Option.some.inj known)
        exact holds
    rw [Restores, condition]
    by_cases empty : request.topics = []
    · have ended : recoverRocketMq request calls before = (some (), before) := by
        have logs : (request.loadTopics srcCluster).getD [] = [] := by
          unfold Request.topics at empty
          rwa [checked] at empty
        unfold recoverRocketMq clusterRecover
        rw [checked, ofOption_bind]
        simp only [logs, when, ne_eq, not_true, if_false]
        rfl
      rw [ended, if_pos empty]
      constructor
      · exact fun complete => complete.groups rfl
      · intro groups
        refine ⟨fun _ log member => ?_, fun _ => groups, fun _ _ _ held => held, fun _ _ _ held => held⟩
        rw [empty] at member
        cases member
    · rw [if_neg empty]
      cases admin : calls.admin with
      | false =>
        have ended : recoverRocketMq request calls before = (none, before) := by
          have logs : (request.loadTopics srcCluster).getD [] ≠ [] := by
            unfold Request.topics at empty
            rwa [checked] at empty
          unfold recoverRocketMq clusterRecover
          rw [checked, ofOption_bind]
          simp only [when, if_pos logs, admin]
          rfl
        rw [ended]
        exact iff_of_true throws fun impossible => absurd impossible Bool.false_ne_true
      | true =>
        rw [recoverRocketMq_eq checked empty admin]
        simp only [forall_const]
        split
        · next through =>
          constructor
          · intro complete
            refine ⟨spares_iff.mp complete.keptTopics, fun _ _ => ⟨fun log member => ?_, fun group member => ?_, ?_⟩⟩
            · exact (gets_iff log.topicName).mp (complete.topics rfl log member)
            · exact (gets_iff group).mp (complete.groups rfl group member)
            · exact spares_iff.mp complete.keptGroups
          · rintro ⟨topicsKept, restored⟩
            obtain ⟨topics, groups, groupsKept⟩ := restored through.1 through.2
            exact ⟨fun _ log member => (gets_iff log.topicName).mpr (topics log member),
              fun _ group member => (gets_iff group).mpr (groups group member), spares_iff.mpr topicsKept,
              spares_iff.mpr groupsKept⟩
        · next stopped =>
          constructor
          · intro complete
            exact ⟨spares_iff.mp complete.keptTopics, fun all known => absurd ⟨all, known⟩ stopped⟩
          · rintro ⟨topicsKept, -⟩
            exact ⟨fun impossible => absurd impossible (Option.some_ne_none ()).symm,
              fun impossible => absurd impossible (Option.some_ne_none ()).symm, spares_iff.mpr topicsKept,
              fun _ _ _ held => held⟩

end Ends

/-! ### Kafka clusters -/

def Keeps (before after : KafkaTopics.Broker) : Prop :=
  ∀ topic partitions, before topic = some partitions → after topic = some partitions

instance : IsPreorder KafkaTopics.Broker Keeps where
  refl _ _ _ held := held
  trans _ _ _ first second topic partitions held := second topic partitions (first topic partitions held)

section Kafka
variable {refusals : KafkaTopics.Refusals} {broker : KafkaTopics.Broker} {topic : String}

theorem keeps_createTopics (partitions : Int) (ended : KafkaTopics.Future) :
    Keeps broker (KafkaTopics.createTopics refusals broker topic partitions ended).1 := by
  intro other held same
  cases ended with
  | fails failure => exact same
  | completes =>
    simp only [KafkaTopics.createTopics]
    split
    · exact same
    · next absent =>
      split
      · have apart : other ≠ topic := by
          rintro rfl
          exact absent (by rw [same]; rfl)
        exact (Function.update_of_ne apart _ _).trans same
      · exact same

theorem isSome_of_isTopicExist {described : KafkaTopics.Future}
    (found : KafkaTopics.isTopicExist refusals broker topic described = .ok true) : (broker topic).isSome := by
  unfold KafkaTopics.isTopicExist KafkaTopics.describeTopics at found
  cases described with
  | fails failure => cases unknown : failure.unknownTopicOrPartition <;> simp [unknown] at found
  | completes =>
    cases held : broker topic with
    | some partitions => rfl
    | none => simp [held] at found

theorem createTopic_spec (partitions : Int) (calls : KafkaTopics.AdminCalls) :
    Keeps broker (KafkaTopics.createTopic refusals broker topic partitions (some 3) calls).1 ∧
      ((KafkaTopics.createTopic refusals broker topic partitions (some 3) calls).2 = .ok () →
        ((KafkaTopics.createTopic refusals broker topic partitions (some 3) calls).1 topic).isSome) := by
  have same : Keeps broker broker := fun _ _ held => held
  unfold KafkaTopics.createTopic
  cases exist : KafkaTopics.isTopicExist refusals broker topic calls.described with
  | error thrown => exact ⟨same, fun returned => by cases returned⟩
  | ok found =>
    cases found with
    | true => exact ⟨same, fun _ => isSome_of_isTopicExist exist⟩
    | false =>
      have kept := @keeps_createTopics refusals broker topic partitions calls.created
      obtain ⟨failure, refused⟩ | made := KafkaTopics.createTopics_cases refusals broker topic partitions calls.created
      · simp only [refused]
        exact ⟨same, fun returned => by cases returned⟩
      · rw [made] at kept
        simp only [made]
        exact ⟨kept, fun _ => by rw [Function.update_self]; rfl⟩

theorem kafkaRecoverTopic_spec (calls : KafkaCalls) (log : TopicLog) (broker : KafkaTopics.Broker) :
    Ends (kafkaRecoverTopic refusals calls log) broker fun answer after =>
      Keeps broker after ∧ (answer = some () → (after log.topicName).isSome) := by
  have same : Keeps broker broker := fun _ _ held => held
  constructor
  unfold kafkaRecoverTopic
  cases exist : KafkaTopics.isTopicExist refusals broker log.topicName calls.described with
  | error thrown => exact ⟨same, fun returned => by cases returned⟩
  | ok found =>
    cases found with
    | true => exact ⟨same, fun _ => isSome_of_isTopicExist exist⟩
    | false =>
      obtain ⟨kept, found⟩ := @createTopic_spec refusals broker log.topicName log.partitions calls.create
      refine ⟨kept, fun returned => found ?_⟩
      cases ended : (KafkaTopics.createTopic refusals broker log.topicName log.partitions (some 3) calls.create).2 with
      | ok _ => rfl
      | error thrown =>
        simp only [ended] at returned
        cases returned

theorem forEach_kafka (calls : Nat → KafkaCalls) (logs : List (TopicLog × Nat)) (broker : KafkaTopics.Broker) :
    Ends (forEach (fun log => kafkaRecoverTopic refusals (calls log.2) log.1) logs) broker fun answer after =>
      Keeps broker after ∧ (answer = some () → ∀ log ∈ logs, (after log.1.topicName).isSome) := by
  induction logs generalizing broker with
  | nil => exact ends_pure ⟨fun _ _ held => held, fun _ _ member => absurd member List.not_mem_nil⟩
  | cons log rest ih =>
    rw [forEach_cons]
    refine (kafkaRecoverTopic_spec (calls log.2) log.1 broker).bind (fun after kept => ?_) fun _ after step => ?_
    · exact ⟨kept.1, fun returned => by cases returned⟩
    · refine (ih after).imp fun answer last later => ⟨trans_of Keeps step.1 later.1, fun returned other member => ?_⟩
      rcases List.mem_cons.mp member with rfl | member
      · obtain ⟨partitions, held⟩ := Option.isSome_iff_exists.mp (step.2 rfl)
        rw [later.1 _ _ held]
        rfl
      · exact later.2 returned other member

theorem kafkaComplete (request : Request) (calls : Nat → KafkaCalls) (admin : Bool) (before : KafkaTopics.Broker) :
    KafkaComplete request before
      (clusterRecover request (fun _ => if admin then some (kafka refusals calls) else none) before) := by
  have ends : Ends (clusterRecover request fun _ => if admin then some (kafka refusals calls) else none) before
      fun answer after => Keeps before after ∧
        (answer = some () → ∀ log ∈ request.topics, (after log.topicName).isSome) := by
    refine ends_ofOption_bind (fun _ => ⟨fun _ _ held => held, fun returned => by cases returned⟩)
      fun clusters checked => ?_
    have logs : (request.loadTopics clusters.2).getD [] = request.topics := by
      unfold Request.topics
      rw [checked]
      rfl
    simp only [logs, when]
    split
    · refine ends_ofOption_bind (fun _ => ⟨fun _ _ held => held, fun returned => by cases returned⟩)
        fun process created => ?_
      obtain ⟨-, rfl⟩ : admin = true ∧ kafka refusals calls = process := by
        cases admin with
        | true => exact ⟨rfl, Option.some.inj created⟩
        | false => cases created
      refine (forEach_kafka calls request.topics.zipIdx before).bind
        (fun after kept => ⟨kept.1, fun returned => by cases returned⟩) fun _ after step => ?_
      have made : ∀ log ∈ request.topics, (after log.topicName).isSome := by
        intro log member
        obtain ⟨i, found⟩ := List.mem_iff_getElem?.mp member
        exact step.2 rfl (log, i) (List.mk_mem_zipIdx_iff_getElem?.mpr found)
      refine ends_ofOption_bind (fun _ => ⟨step.1, fun returned => by cases returned⟩) fun consumers _ => ?_
      have nothing (groups : List (String × Nat)) (broker : KafkaTopics.Broker) :
          forEach (fun consumer => (kafka refusals calls).recoverConsumerGroup consumer.2 consumer.1) groups broker =
            (some (), broker) := by
        induction groups with
        | nil => rfl
        | cons group rest ih => exact ih
      exact ⟨by rw [nothing]; exact ⟨step.1, fun _ => made⟩⟩
    · next none_ =>
      refine ends_pure ⟨fun _ _ held => held, fun _ log member => ?_⟩
      rw [not_not.mp none_] at member
      cases member
  exact ⟨ends.holds.2, ends.holds.1⟩

end Kafka

/-! ### Rebuilds -/

/-- A Kafka cluster is always rebuilt completely or the call throws; for a RocketMQ cluster this is
so if and only if the call goes as it has to. -/
theorem clusterRecover_complete_iff (request : Request) :
    (∀ (refusals : KafkaTopics.Refusals) (calls : Nat → KafkaCalls) (admin : Bool) (before : KafkaTopics.Broker),
      KafkaComplete request before
        (clusterRecover request (fun _ => if admin then some (kafka refusals calls) else none) before)) ∧
    ∀ (calls : RocketMqCalls) (before : RocketMq),
      RocketMqComplete request before (recoverRocketMq request calls before) ↔ Restores request calls before :=
  ⟨fun _ calls admin before => kafkaComplete request calls admin before,
    fun calls before => rocketMqComplete_iff request calls before⟩

section Lost

/-- The brokers are away while the topic "orders" is to be created. -/
def away : RocketMqCalls where
  admin := true
  topicCalls _ := ⟨.notExist, none, fun _ => 0, fun _ => .throws, none, none, "connect failed"⟩
  groupCalls _ := ⟨false, none, fun _ => 0, fun _ => .throws, fun _ => none⟩

def orders : Request where
  targetCluster := some ⟨1, "new", "ROCKETMQ"⟩
  srcCluster := some ⟨1, "old", "ROCKETMQ"⟩
  fold := id
  file2String fileName := some (if fileName = "/data/logs/zms-backup/old_topic" then some "orders" else none)
  decodeTopics jsonString := some (some [⟨jsonString, 8⟩])
  decodeConsumers _ := none

/-- The exception of the creation is only logged, and the call returns without the topic. -/
theorem not_rocketMqComplete : ¬ ∀ (request : Request) (calls : RocketMqCalls) (before : RocketMq),
    RocketMqComplete request before (recoverRocketMq request calls before) := by
  intro complete
  obtain ⟨addr, found⟩ := (complete orders away ⟨fun _ _ => none, fun _ _ => none⟩).topics (by decide) ⟨"orders", 8⟩
    (by decide)
  cases found

end Lost

end Zms.Portal.RecoverService
