import Zms.Portal.UpdateTopicPerm

/-! `RocketMqMiddlewareManager`: a topic is updated by creating it again.

A broker puts the configuration that it is sent in the place of the one it has. An interrupted
sleep ends a call as an exception of the examination after it does.
-/

set_option autoImplicit false

namespace Zms.Portal.RocketMqTopics

open UpdateTopicPerm (TopicConfig TopicFilterType Brokers Reply createAndUpdateTopicConfig)

/-- The addresses of a broker, that of its master apart. -/
structure BrokerAddrs where
  master : Option String
  slaves : List String

/-- The master, or a slave at random. -/
def BrokerAddrs.selectBrokerAddr (addrs : BrokerAddrs) (random : Nat) : Option String :=
  addrs.master.or addrs.slaves[random % addrs.slaves.length]?

structure ClusterInfo where
  clusterAddrTable : String → Option (List String)
  brokerAddrTable : String → Option BrokerAddrs

/-- How the remote calls of a request end; `none` is an exception. -/
structure Calls where
  examineBrokerClusterInfo : Option ClusterInfo
  random : String → Nat
  reply : String → Reply
  /-- The names of the brokers on the topic's route, at the first and at the second try. -/
  examineTopicRouteInfo : Option (List String)
  examineAgain : Option (List String)
  message : String

inductive Ended where
  | returns
  | throws (message : String) (code : Int)
  deriving DecidableEq

section Source
variable (calls : Calls)

def addrOf (clusterInfo : ClusterInfo) (brokerName : String) : Option String :=
  (clusterInfo.brokerAddrTable brokerName).bind fun addrs => addrs.selectBrokerAddr (calls.random brokerName)

/-- The loop over the brokers, and whether it gets to the end. -/
def sendEach (clusterInfo : ClusterInfo) (topic : String) (topicConfig : TopicConfig) :
    List String → Brokers → Brokers × Bool
  | [], brokers => (brokers, true)
  | brokerName :: rest, brokers =>
      match addrOf calls clusterInfo brokerName with
      | none => (brokers, false)
      | some addr =>
          match calls.reply brokerName with
          | .returns => sendEach clusterInfo topic topicConfig rest
              (createAndUpdateTopicConfig brokers topic addr topicConfig)
          | .throws => (brokers, false)
          | .throwsAfterwards => (createAndUpdateTopicConfig brokers topic addr topicConfig, false)

def configOf (partitions : Int) : TopicConfig :=
  { TopicConfig.new with writeQueueNums := partitions, readQueueNums := partitions, perm := 6 }

/-- What the request has sent, and how it ends. -/
def createTopic (clusterName : String) (brokers : Brokers) (topic : String) (partitions : Int) : Brokers × Ended :=
  let failed := Ended.throws calls.message 9999
  match calls.examineBrokerClusterInfo with
  | none => (brokers, failed)
  | some clusterInfo =>
      match clusterInfo.clusterAddrTable clusterName with
      | none => (brokers, failed)
      | some brokerNames =>
          let sent := sendEach calls clusterInfo topic (configOf partitions) brokerNames brokers
          if sent.2 = false then (sent.1, failed)
          else
            match calls.examineTopicRouteInfo.or calls.examineAgain with
            | none => (sent.1, failed)
            | some createdBrokers =>
                let failedServers := brokerNames.filter fun brokerName => !createdBrokers.contains brokerName
                if failedServers = [] then (sent.1, .returns)
                else (sent.1, .throws "Failed to create topic resource" 9999)

def updateTopic (clusterName : String) (brokers : Brokers) (topic : String) (partitions : Int) : Brokers × Ended :=
  createTopic calls clusterName brokers topic partitions

/-- The brokers of the cluster, each by the address that stands for it. -/
def clusterAddrs (clusterName : String) : List String :=
  (calls.examineBrokerClusterInfo.bind fun clusterInfo =>
    (clusterInfo.clusterAddrTable clusterName).map fun brokerNames =>
      brokerNames.filterMap (addrOf calls clusterInfo)).getD []

end Source

/-- The broker has the topic with the new queue numbers, and what else it had. -/
def KeepsSettings (before after : Option TopicConfig) (partitions : Int) : Prop :=
  ∃ config, after = some config ∧ config.readQueueNums = partitions ∧ config.writeQueueNums = partitions ∧
    ∀ old ∈ before, config = { old with readQueueNums := partitions, writeQueueNums := partitions }

/-- Nothing but the queue numbers differs from a topic's first configuration. -/
structure Plain (config : TopicConfig) : Prop where
  perm : config.perm = 6
  topicFilterType : config.topicFilterType = .SINGLE_TAG
  topicSysFlag : config.topicSysFlag = 0
  order : config.order = false

section Results
variable {calls : Calls} {clusterInfo : ClusterInfo} {topic addr : String} {topicConfig config : TopicConfig}
  {partitions : Int} {brokers : Brokers}

theorem createAndUpdateTopicConfig_self (brokers : Brokers) (topic addr : String) (config : TopicConfig) :
    createAndUpdateTopicConfig brokers topic addr config addr topic = some config := by
  simp [createAndUpdateTopicConfig]

theorem has_createAndUpdateTopicConfig (has : brokers addr topic = some config) (other : String) :
    createAndUpdateTopicConfig brokers topic other config addr topic = some config := by
  by_cases same : addr = other
  · subst other
    exact createAndUpdateTopicConfig_self brokers topic addr config
  · simp [createAndUpdateTopicConfig, same, has]

theorem has_sendEach {brokerNames : List String} (has : brokers addr topic = some topicConfig) :
    (sendEach calls clusterInfo topic topicConfig brokerNames brokers).1 addr topic = some topicConfig := by
  induction brokerNames generalizing brokers with
  | nil => exact has
  | cons brokerName rest ih =>
    simp only [sendEach]
    split
    · exact has
    · split
      · exact ih (has_createAndUpdateTopicConfig has _)
      · exact has
      · exact has_createAndUpdateTopicConfig has _

theorem sent_sendEach {brokerNames : List String}
    (through : (sendEach calls clusterInfo topic topicConfig brokerNames brokers).2 = true) :
    ∀ addr ∈ brokerNames.filterMap (addrOf calls clusterInfo),
      (sendEach calls clusterInfo topic topicConfig brokerNames brokers).1 addr topic = some topicConfig := by
  induction brokerNames generalizing brokers with
  | nil =>
    intro addr member
    cases member
  | cons brokerName rest ih =>
    cases found : addrOf calls clusterInfo brokerName with
    | none => simp [sendEach, found] at through
    | some own =>
      cases replied : calls.reply brokerName with
      | throws | throwsAfterwards => simp [sendEach, found, replied] at through
      | returns =>
        simp only [sendEach, found, replied] at through ⊢
        intro addr member
        rw [List.filterMap_cons_some found] at member
        rcases List.mem_cons.mp member with rfl | later
        · exact has_sendEach (createAndUpdateTopicConfig_self brokers topic addr topicConfig)
        · exact ih through addr later

theorem sent_of_returns {clusterName : String}
    (returned : (updateTopic calls clusterName brokers topic partitions).2 = .returns) :
    ∀ addr ∈ clusterAddrs calls clusterName,
      (updateTopic calls clusterName brokers topic partitions).1 addr topic = some (configOf partitions) := by
  unfold updateTopic createTopic clusterAddrs at *
  cases examined : calls.examineBrokerClusterInfo with
  | none => simp [examined] at returned
  | some clusterInfo =>
    cases names : clusterInfo.clusterAddrTable clusterName with
    | none => simp [examined, names] at returned
    | some brokerNames =>
      simp only [examined, names, Option.bind_some, Option.map_some, Option.getD_some] at returned ⊢
      cases through : (sendEach calls clusterInfo topic (configOf partitions) brokerNames brokers).2 with
      | false => simp [through] at returned
      | true =>
        -- what comes after the loop reads the route only
        simp only [Bool.true_eq_false, if_false]
        have sent := sent_sendEach through
        split
        · exact sent
        · split <;> exact sent

theorem keepsSettings_iff {before : Option TopicConfig} :
    KeepsSettings before (some (configOf partitions)) partitions ↔ ∀ old ∈ before, Plain old := by
  constructor
  · rintro ⟨config, sent, -, -, kept⟩ old member
    cases sent
    have same := kept old member
    rw [configOf, TopicConfig.new, TopicConfig.mk.injEq] at same
    obtain ⟨-, -, perm, filterType, sysFlag, order⟩ := same
    exact ⟨perm.symm, filterType.symm, sysFlag.symm, order.symm⟩
  · intro plain
    refine ⟨configOf partitions, rfl, rfl, rfl, fun old member => ?_⟩
    obtain ⟨perm, filterType, sysFlag, order⟩ := plain old member
    rw [configOf, TopicConfig.new, TopicConfig.mk.injEq]
    exact ⟨rfl, rfl, perm.symm, filterType.symm, sysFlag.symm, order.symm⟩

/-- After an update every broker has its other settings exactly when it had those of a new topic. -/
theorem updateTopic_keeps_iff {clusterName : String}
    (returned : (updateTopic calls clusterName brokers topic partitions).2 = .returns) :
    (∀ addr ∈ clusterAddrs calls clusterName, KeepsSettings (brokers addr topic)
        ((updateTopic calls clusterName brokers topic partitions).1 addr topic) partitions) ↔
      ∀ addr ∈ clusterAddrs calls clusterName, ∀ old ∈ brokers addr topic, Plain old := by
  apply forall₂_congr
  intro addr member
  rw [sent_of_returns returned addr member, keepsSettings_iff]

end Results

namespace Case

def clusterInfo : ClusterInfo where
  clusterAddrTable clusterName := if clusterName = "main" then some ["a", "b"] else none
  brokerAddrTable brokerName :=
    if brokerName = "a" then some ⟨some "10.0.0.1", ["10.0.0.2"]⟩
    else if brokerName = "b" then some ⟨none, ["10.0.0.3", "10.0.0.4"]⟩
    else none

/-- The topic's route is there at the second try. -/
def calls : Calls where
  examineBrokerClusterInfo := some clusterInfo
  random _ := 5
  reply _ := .returns
  examineTopicRouteInfo := none
  examineAgain := some ["b", "a"]
  message := ""

def topicConfig (perm : Int) : TopicConfig := { TopicConfig.new with perm := perm }

def brokers (perm : Int) : Brokers := fun addr topic =>
  if topic = "orders" ∧ (addr = "10.0.0.1" ∨ addr = "10.0.0.4") then some (topicConfig perm) else none

end Case

open Case in
theorem updateTopic_keeps_plain : KeepsSettings (brokers 6 "10.0.0.1" "orders")
    ((updateTopic calls "main" (brokers 6) "orders" 8).1 "10.0.0.1" "orders") 8 := by
  refine (updateTopic_keeps_iff (by decide)).mpr ?_ "10.0.0.1" (by decide)
  intro addr member old has
  simp only [brokers] at has
  split at has
  · cases has
    exact ⟨rfl, rfl, rfl, rfl⟩
  · cases has

open Case in
/-- A topic that was made read-only can be written again. -/
theorem updateTopic_not_keeps : ¬ ∀ (calls : Calls) (clusterName : String) (brokers : Brokers) (topic : String)
    (partitions : Int), (updateTopic calls clusterName brokers topic partitions).2 = .returns →
      ∀ addr ∈ clusterAddrs calls clusterName, KeepsSettings (brokers addr topic)
        ((updateTopic calls clusterName brokers topic partitions).1 addr topic) partitions := by
  intro always
  obtain ⟨config, sent, -, -, kept⟩ :=
    always calls "main" (brokers 4) "orders" 8 (by decide) "10.0.0.1" (by decide)
  have writable : (updateTopic calls "main" (brokers 4) "orders" 8).1 "10.0.0.1" "orders" =
      some (configOf 8) := by decide
  rw [writable] at sent
  cases sent
  have readOnly := congrArg TopicConfig.perm (kept (topicConfig 4) (by decide))
  exact absurd readOnly (by decide)

end Zms.Portal.RocketMqTopics
