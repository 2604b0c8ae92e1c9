import Zms.Portal.Brokers

/-! `KafkaMiddlewareManager`: topics created and updated through futures of the admin client.

What a future does it does at the broker, and only when it completes normally. Whether it does
is the environment's choice, unless the broker refuses the request.
-/

set_option autoImplicit false

namespace Zms.Portal.KafkaTopics

/-- What a future ends with when it does not complete normally: whether the cause is an
`UnknownTopicOrPartitionException`, and the message. -/
structure Failure where
  unknownTopicOrPartition : Bool
  message : String
  deriving DecidableEq

inductive Future where
  | completes
  | fails (failure : Failure)
  deriving DecidableEq

/-- The partitions of the topics at the broker. -/
abbrev Broker := String → Option Int

/-- How the broker refuses what it cannot do. -/
structure Refusals where
  unknownTopic : String
  topicExists : String
  invalidPartitions : String

inductive Thrown where
  | zms (message : String) (code : Int)
  | runtime (message : String)
  | nullPointer
  deriving DecidableEq

/-- The futures of one call; `increased` tells whether that of `createPartitions`, which nobody
waits for, has ended when the call returns. -/
structure AdminCalls where
  described : Future
  created : Future
  increase : Future
  increased : Bool

section Source
variable (refusals : Refusals) (broker : Broker) (topic : String)

/-- The number of partitions that `describeTopics` finds. -/
def describeTopics : Future → Except Failure Int
  | .fails failure => .error failure
  | .completes =>
      match broker topic with
      | some partitions => .ok partitions
      | none => .error ⟨true, refusals.unknownTopic⟩

def createTopics (partitions : Int) : Future → Broker × Except Failure Unit
  | .fails failure => (broker, .error failure)
  | .completes =>
      if (broker topic).isSome then (broker, .error ⟨false, refusals.topicExists⟩)
      else if 0 < partitions then (Function.update broker topic (some partitions), .ok ())
      else (broker, .error ⟨false, refusals.invalidPartitions⟩)

/-- `NewPartitions.increaseTo`. -/
def createPartitions (partitions : Int) : Future → Broker
  | .fails _ => broker
  | .completes =>
      if ∃ current ∈ broker topic, current < partitions then Function.update broker topic (some partitions)
      else broker

def isTopicExist (described : Future) : Except Thrown Bool :=
  match describeTopics refusals broker topic described with
  | .ok _ => .ok true
  | .error failure =>
      if failure.unknownTopicOrPartition then .ok false
      else .error (.zms "check topic partitions error" 2001)

def checkPartition (partitions : Int) (described : Future) : Except Thrown Bool :=
  match describeTopics refusals broker topic described with
  | .ok originalPartitionNum => .ok (originalPartitionNum ≤ partitions)
  | .error failure => .error (.zms failure.message 9999)

def createTopic (partitions : Int) (replication : Option Int) (calls : AdminCalls) :
    Broker × Except Thrown Unit :=
  match isTopicExist refusals broker topic calls.described with
  | .error thrown => (broker, .error thrown)
  | .ok true => (broker, .ok ())
  | .ok false =>
      match replication with
      | none => (broker, .error .nullPointer)
      | some _ =>
          match createTopics refusals broker topic partitions calls.created with
          | (after, .ok ()) => (after, .ok ())
          | (after, .error failure) => (after, .error (.zms failure.message 9999))

def updateTopic (partitions : Int) (calls : AdminCalls) : Broker × Except Thrown Unit :=
  match checkPartition refusals broker topic partitions calls.described with
  | .error thrown => (broker, .error thrown)
  | .ok false => (broker, .error (.runtime "Partitions can only be increase, can't decrease"))
  | .ok true =>
      (if calls.increased then createPartitions broker topic partitions calls.increase else broker, .ok ())

end Source

inductive Request where
  | createTopic (partitions : Int) (replication : Option Int)
  | updateTopic (partitions : Int)

def Request.partitions : Request → Int
  | .createTopic partitions _ | .updateTopic partitions => partitions

/-- The broker when the request is over, and how it ended. -/
def perform (refusals : Refusals) (broker : Broker) (topic : String) (calls : AdminCalls) :
    Request → Broker × Except Thrown Unit
  | .createTopic partitions replication => createTopic refusals broker topic partitions replication calls
  | .updateTopic partitions => updateTopic refusals broker topic partitions calls

/-- What the caller is told is so at the broker. -/
structure Truthful (broker : Broker) (topic : String) (partitions : Int) (ended : Broker × Except Thrown Unit) :
    Prop where
  returned : ended.2 = .ok () → ended.1 topic = some partitions
  thrown : ∀ e, ended.2 = .error e → ended.1 topic = broker topic

/-- A topic that is found has the partitions to create already, and an increase that is due is
carried out before the request returns. -/
def Settled (broker : Broker) (topic : String) (calls : AdminCalls) : Request → Prop
  | .createTopic partitions _ =>
      calls.described = .completes → ∀ current ∈ broker topic, current = partitions
  | .updateTopic partitions =>
      calls.described = .completes → ∀ current ∈ broker topic, current < partitions →
        calls.increased = true ∧ calls.increase = .completes

section Results
variable {refusals : Refusals} {broker : Broker} {topic : String} {calls : AdminCalls} {partitions : Int}

theorem truthful_of_thrown {e : Thrown} : Truthful broker topic partitions (broker, .error e) where
  returned returns := by cases returns
  thrown _ _ := rfl

theorem truthful_returned_iff {after : Broker} :
    Truthful broker topic partitions (after, .ok ()) ↔ after topic = some partitions := by
  constructor
  · intro truthful
    exact truthful.returned rfl
  · intro held
    exact ⟨fun _ => held, fun e thrown => by cases thrown⟩

variable (refusals broker topic partitions) in
/-- A creation that fails has changed nothing, and one that is done has made the topic. -/
theorem createTopics_cases (ended : Future) :
    (∃ failure, createTopics refusals broker topic partitions ended = (broker, .error failure)) ∨
      createTopics refusals broker topic partitions ended =
        (Function.update broker topic (some partitions), .ok ()) := by
  cases ended with
  | fails failure => exact .inl ⟨failure, rfl⟩
  | completes =>
    simp only [createTopics]
    split
    · exact .inl ⟨_, rfl⟩
    · split
      · exact .inr rfl
      · exact .inl ⟨_, rfl⟩

theorem truthful_createTopic_iff (replication : Option Int) :
    Truthful broker topic partitions (createTopic refusals broker topic partitions replication calls) ↔
      Settled broker topic calls (.createTopic partitions replication) := by
  -- whatever happens once the topic is taken to be absent
  have absent (exists_ : isTopicExist refusals broker topic calls.described = .ok false) :
      Truthful broker topic partitions (createTopic refusals broker topic partitions replication calls) := by
    simp only [createTopic, exists_]
    cases replication with
    | none => exact truthful_of_thrown
    | some _ =>
      obtain ⟨failure, refused⟩ | made := createTopics_cases refusals broker topic partitions calls.created
      · simp only [refused]
        exact truthful_of_thrown
      · simp only [made]
        exact truthful_returned_iff.mpr (Function.update_self _ _ _)
  cases described : calls.described with
  | fails failure =>
    have vacuous : Settled broker topic calls (.createTopic partitions replication) := by
      intro completes
      rw [described] at completes
      cases completes
    refine iff_of_true ?_ vacuous
    cases unknown : failure.unknownTopicOrPartition with
    | true => exact absent (by simp [isTopicExist, describeTopics, described, unknown])
    | false =>
      simp only [createTopic, isTopicExist, describeTopics, described, unknown]
      exact truthful_of_thrown
  | completes =>
    cases held : broker topic with
    | none =>
      refine iff_of_true (absent (by simp [isTopicExist, describeTopics, described, held])) ?_
      intro _ current found
      rw [held] at found
      cases found
    | some current =>
      simp only [createTopic, isTopicExist, describeTopics, described, held, Settled]
      rw [truthful_returned_iff, held]
      simp

theorem truthful_updateTopic_iff :
    Truthful broker topic partitions (updateTopic refusals broker topic partitions calls) ↔
      Settled broker topic calls (.updateTopic partitions) := by
  cases described : calls.described with
  | fails failure =>
    simp only [updateTopic, checkPartition, describeTopics, described, Settled]
    exact iff_of_true truthful_of_thrown (by simp)
  | completes =>
    cases held : broker topic with
    | none =>
      simp only [updateTopic, checkPartition, describeTopics, described, held, Settled]
      exact iff_of_true truthful_of_thrown (by simp)
    | some current =>
      simp only [updateTopic, checkPartition, describeTopics, described, held, Settled]
      obtain less | rfl | more := lt_trichotomy current partitions
      · rw [decide_eq_true less.le]
        simp only [truthful_returned_iff]
        cases increased : calls.increased with
        | false => simp [held, less, less.ne]
        | true =>
          cases increase : calls.increase with
          | fails _ => simp [createPartitions, held, less, less.ne]
          | completes => simp [createPartitions, held, less]
      · rw [decide_eq_true (le_refl current)]
        simp only [truthful_returned_iff]
        have same : createPartitions broker topic current calls.increase topic = some current := by
          cases calls.increase with
          | fails _ => exact held
          | completes => simp [createPartitions, held]
        refine iff_of_true ?_ (by simp)
        split
        · exact same
        · exact held
      · rw [decide_eq_false more.not_ge]
        exact iff_of_true truthful_of_thrown (by simp [more.le])

/-- What a request tells is so exactly when a topic that is found has the partitions asked for,
or the increase to them is over and has not failed. -/
theorem truthful_iff (refusals : Refusals) (broker : Broker) (topic : String) (calls : AdminCalls)
    (request : Request) :
    Truthful broker topic request.partitions (perform refusals broker topic calls request) ↔
      Settled broker topic calls request := by
  cases request with
  | createTopic partitions replication => exact truthful_createTopic_iff replication
  | updateTopic partitions => exact truthful_updateTopic_iff

/-- When nothing fails a creation is that of the portal's model. -/
theorem createTopic_created_iff {replication partitionsHeld : Int} (described : calls.described = .completes)
    (created : calls.created = .completes) :
    (createTopic refusals broker topic partitions (some replication) calls).2 = .ok () ∧
        (createTopic refusals broker topic partitions (some replication) calls).1 topic = some partitionsHeld ↔
      Brokers.created .KAFKA (broker topic) partitions = some partitionsHeld := by
  cases held : broker topic with
  | some current => simp [createTopic, isTopicExist, describeTopics, described, held, Brokers.created]
  | none =>
    by_cases positive : 0 < partitions
    · simp [createTopic, isTopicExist, describeTopics, createTopics, described, created, held, Brokers.created,
        positive]
    · simp [createTopic, isTopicExist, describeTopics, createTopics, described, created, held, Brokers.created,
        positive]

theorem updateTopic_updated_iff {current partitionsHeld : Int} (held : broker topic = some current)
    (described : calls.described = .completes) (increased : calls.increased = true)
    (increase : calls.increase = .completes) :
    (updateTopic refusals broker topic partitions calls).2 = .ok () ∧
        (updateTopic refusals broker topic partitions calls).1 topic = some partitionsHeld ↔
      Brokers.updated .KAFKA (broker topic) partitions = some partitionsHeld := by
  simp only [updateTopic, checkPartition, describeTopics, described, held, increased, increase, Brokers.updated,
    createPartitions]
  obtain less | rfl | more := lt_trichotomy current partitions
  · simp [less, less.le]
  · simp [held]
  · simp [more.not_ge]

end Results

namespace Case

def broker : Broker := fun topic => if topic = "orders" then some 4 else none

def refusals : Refusals := ⟨"unknown topic", "topic exists", "invalid partitions"⟩

def unauthorized : AdminCalls :=
  { described := .completes, created := .completes, increase := .fails ⟨false, "not authorized"⟩, increased := true }

end Case

open Case in
/-- The topic is there with four partitions: its creation with eight returns, and so does
an update to eight that the broker refuses. -/
theorem not_truthful :
    (¬ ∀ (refusals : Refusals) (broker : Broker) (topic : String) (calls : AdminCalls) (partitions : Int)
      (replication : Option Int), Truthful broker topic partitions
        (createTopic refusals broker topic partitions replication calls)) ∧
    ¬ ∀ (refusals : Refusals) (broker : Broker) (topic : String) (calls : AdminCalls) (partitions : Int),
      Truthful broker topic partitions (updateTopic refusals broker topic partitions calls) := by
  constructor
  · intro always
    exact absurd ((always refusals broker "orders" unauthorized 8 (some 3)).returned (by decide)) (by decide)
  · intro always
    exact absurd ((always refusals broker "orders" unauthorized 8).returned (by decide)) (by decide)

end Zms.Portal.KafkaTopics
