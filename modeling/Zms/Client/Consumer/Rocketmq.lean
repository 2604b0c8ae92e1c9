import Zms.Client.Listener

/-! The message handlers of `RocketmqConsumerProxy` and what they answer the
broker: one status for the whole batch.

The listener may keep a state, so a call takes the listener's state and leaves
a new one.
-/

set_option autoImplicit false

namespace Zms.Client.Consumer.Rocketmq

structure MessageExt where
  topic : String
  msgId : String
  queueOffset : Int
  queueId : Int
  body : List UInt8
  tags : Option String
  reconsumeTimes : Int
  storeHost : Option String
  bornTimestamp : Int
  bornHostNameString : Option String
  bodyCRC : Int
  deriving DecidableEq, Repr

structure ConsumeMessage where
  topic : String
  msgId : String
  offset : Int
  partition : Int
  payload : List UInt8
  tag : Option String
  reconsumeTimes : Int
  broker : String
  bornTime : Int
  brokerHost : String
  boydCrc : Int
  deriving DecidableEq, Repr

/-- `none` when a host is missing: neither `toString` nor `Properties.put` takes null. -/
def ConsumeMessage.parse (rocketmqMsg : MessageExt) : Option ConsumeMessage := do
  let broker ← rocketmqMsg.storeHost
  let brokerHost ← rocketmqMsg.bornHostNameString
  return {
    topic := rocketmqMsg.topic
    msgId := rocketmqMsg.msgId
    offset := rocketmqMsg.queueOffset
    partition := rocketmqMsg.queueId
    payload := rocketmqMsg.body
    tag := rocketmqMsg.tags
    reconsumeTimes := rocketmqMsg.reconsumeTimes
    broker := broker
    bornTime := rocketmqMsg.bornTimestamp
    brokerHost := brokerHost
    boydCrc := rocketmqMsg.bodyCRC }

structure MessageListener (σ : Type) where
  isEasy : Bool
  onMessage : ConsumeMessage → σ → Outcome × σ
  onMessages : List MessageExt → σ → Outcome × σ

/-- A call of the listener: what it was given and how it ended. -/
structure Invocation where
  messages : List MessageExt
  outcome : Outcome
  deriving DecidableEq, Repr

/-- The `try` block: how it ends and the calls made in it. -/
structure Attempt (σ : Type) where
  outcome : Outcome
  invocations : List Invocation
  state : σ

variable {σ : Type}

/-- The loop over the messages; `status` is overwritten by every call. -/
def consumeEach (listener : MessageListener σ) : List MessageExt → MsgConsumedStatus → σ → Attempt σ
  | [], status, state => ⟨.returned status, [], state⟩
  | msg :: rest, _, state =>
      match ConsumeMessage.parse msg with
      | none => ⟨.threw, [], state⟩
      | some consumeMessage =>
          match listener.onMessage consumeMessage state with
          | (.threw, after) => ⟨.threw, [⟨[msg], .threw⟩], after⟩
          | (.returned status, after) =>
              let attempt := consumeEach listener rest status after
              { attempt with invocations := ⟨[msg], .returned status⟩ :: attempt.invocations }

def attempt (listener : MessageListener σ) (msgs : List MessageExt) (state : σ) : Attempt σ :=
  if listener.isEasy then consumeEach listener msgs .SUCCEED state
  else
    let (outcome, after) := listener.onMessages msgs state
    ⟨outcome, [⟨msgs, outcome⟩], after⟩

/-- The status after the `catch` clause. -/
def Attempt.status (attempt : Attempt σ) : MsgConsumedStatus :=
  match attempt.outcome with
  | .returned status => status
  | .threw => .RETRY

/-- What a handler does besides answering: marks and calls made. -/
structure Handled (σ A : Type) where
  answer : A
  consumeSuccessRate : Nat
  consumeFailureRate : Nat
  delayLevelWhenNextConsume : Option Int
  invocations : List Invocation
  state : σ

inductive ConsumeOrderlyStatus where
  | SUCCESS | SUSPEND_CURRENT_QUEUE_A_MOMENT
  deriving DecidableEq, Repr

inductive ConsumeConcurrentlyStatus where
  | CONSUME_SUCCESS | RECONSUME_LATER
  deriving DecidableEq, Repr

/-- The marks of the `try` block and its `catch` clause. -/
def Attempt.answering {A : Type} (attempt : Attempt σ) (answer : A) (delayLevel : Option Int) :
    Handled σ A where
  answer := answer
  consumeSuccessRate := if attempt.outcome = .threw then 0 else 1
  consumeFailureRate := if attempt.outcome = .threw then 1 else 0
  delayLevelWhenNextConsume := delayLevel
  invocations := attempt.invocations
  state := attempt.state

/-- A handler with its answers, and what it sets as the delay of the next attempt. -/
def handle {A : Type} (success later : A) (delayLevel : MsgConsumedStatus → Option Int)
    (listener : MessageListener σ) (msgs : List MessageExt) (state : σ) : Handled σ A :=
  if msgs.length < 1 then ⟨success, 0, 0, none, [], state⟩
  else
    let attempt := attempt listener msgs state
    if attempt.status ≠ .SUCCEED then attempt.answering later (delayLevel attempt.status)
    else attempt.answering success none

def registerOrderly (listener : MessageListener σ) (msgs : List MessageExt) (state : σ) :
    Handled σ ConsumeOrderlyStatus :=
  handle .SUCCESS .SUSPEND_CURRENT_QUEUE_A_MOMENT (fun _ => none) listener msgs state

def registerConcurrently (listener : MessageListener σ) (msgs : List MessageExt) (state : σ) :
    Handled σ ConsumeConcurrentlyStatus :=
  handle .CONSUME_SUCCESS .RECONSUME_LATER (fun status => some status.level) listener msgs state

/-- Every call returned `SUCCEED`, and every message was given to the listener. -/
def AllSucceeded (msgs : List MessageExt) (invocations : List Invocation) : Prop :=
  (∀ invocation ∈ invocations, invocation.outcome = .returned .SUCCEED) ∧
    invocations.flatMap Invocation.messages = msgs

instance (msgs : List MessageExt) (invocations : List Invocation) : Decidable (AllSucceeded msgs invocations) :=
  inferInstanceAs (Decidable (_ ∧ _))

/-- What an easy listener makes of the messages given to it one after the other,
up to the first that cannot be parsed or makes it throw. -/
def MessageListener.outcomes (listener : MessageListener σ) : List MessageExt → σ → List Outcome
  | [], _ => []
  | msg :: rest, state =>
      match ConsumeMessage.parse msg with
      | none => [.threw]
      | some consumeMessage =>
          match listener.onMessage consumeMessage state with
          | (.threw, _) => [.threw]
          | (.returned status, after) => .returned status :: listener.outcomes rest after

/-- The last message of an easy listener succeeds and an earlier one does not. -/
def Overwritten (listener : MessageListener σ) (msgs : List MessageExt) (state : σ) : Prop :=
  listener.isEasy = true ∧ (listener.outcomes msgs state).getLast? = some (.returned .SUCCEED) ∧
    ∃ outcome ∈ listener.outcomes msgs state, outcome ≠ .returned .SUCCEED

theorem Attempt.status_eq_succeed (attempt : Attempt σ) :
    attempt.status = .SUCCEED ↔ attempt.outcome = .returned .SUCCEED := by
  simp only [Attempt.status]
  cases attempt.outcome with
  | returned status => simp
  | threw => simp

theorem consumeEach_outcome (listener : MessageListener σ) (msgs : List MessageExt)
    (status : MsgConsumedStatus) (state : σ) : (consumeEach listener msgs status state).outcome =
      (listener.outcomes msgs state).getLast?.getD (.returned status) := by
  induction msgs generalizing status state with
  | nil => rfl
  | cons msg rest ih =>
    simp only [consumeEach, MessageListener.outcomes]
    cases ConsumeMessage.parse msg with
    | none => rfl
    | some consumeMessage =>
      dsimp only
      obtain ⟨outcome, after⟩ := listener.onMessage consumeMessage state
      cases outcome with
      | threw => rfl
      | returned next => simp only [ih, List.getLast?_cons, Option.getD_some]

theorem allSucceeded_consumeEach (listener : MessageListener σ) (msgs : List MessageExt)
    (status : MsgConsumedStatus) (state : σ) :
    AllSucceeded msgs (consumeEach listener msgs status state).invocations ↔
      ∀ outcome ∈ listener.outcomes msgs state, outcome = .returned .SUCCEED := by
  induction msgs generalizing status state with
  | nil => simp [AllSucceeded, consumeEach, MessageListener.outcomes]
  | cons msg rest ih =>
    simp only [consumeEach, MessageListener.outcomes]
    cases ConsumeMessage.parse msg with
    | none => simp [AllSucceeded]
    | some consumeMessage =>
      dsimp only
      obtain ⟨outcome, after⟩ := listener.onMessage consumeMessage state
      cases outcome with
      | threw => simp [AllSucceeded]
      | returned next =>
        have later := ih next after
        simp only [AllSucceeded] at later
        simp only [AllSucceeded, List.forall_mem_cons, List.flatMap_cons, List.singleton_append,
          List.cons.injEq, true_and, and_assoc, later]

theorem outcomes_ne_nil (listener : MessageListener σ) {msgs : List MessageExt} (state : σ)
    (nonempty : msgs ≠ []) : listener.outcomes msgs state ≠ [] := by
  cases msgs with
  | nil => exact absurd rfl nonempty
  | cons msg rest =>
    simp only [MessageListener.outcomes]
    repeat' split
    all_goals exact List.cons_ne_nil _ _

theorem attempt_truthful (listener : MessageListener σ) {msgs : List MessageExt} (state : σ)
    (nonempty : msgs ≠ []) :
    ((attempt listener msgs state).status = .SUCCEED ↔
      AllSucceeded msgs (attempt listener msgs state).invocations) ↔ ¬ Overwritten listener msgs state := by
  rw [Attempt.status_eq_succeed]
  cases easy : listener.isEasy with
  | false => simp [attempt, easy, AllSucceeded, Overwritten]
  | true =>
    simp only [attempt, easy, if_true, consumeEach_outcome, allSucceeded_consumeEach, Overwritten, true_and]
    cases last : (listener.outcomes msgs state).getLast? with
    | none => exact absurd (List.getLast?_eq_none_iff.mp last) (outcomes_ne_nil listener state nonempty)
    | some outcome =>
      -- the last outcome is the answer; if it is a failure the calls did not all succeed either
      have member : outcome ∈ listener.outcomes msgs state := List.mem_of_getLast? last
      by_cases succeeds : outcome = .returned .SUCCEED
      · simp [succeeds]
      · simp only [Option.getD_some, succeeds, Option.some.injEq, false_and, not_false_eq_true, iff_true,
          false_iff]
        exact fun all => succeeds (all outcome member)

theorem handle_answer {A : Type} {success later : A} (differ : later ≠ success)
    (delayLevel : MsgConsumedStatus → Option Int) (listener : MessageListener σ) {msgs : List MessageExt}
    (state : σ) (nonempty : msgs ≠ []) :
    ((handle success later delayLevel listener msgs state).answer = success ↔
        (attempt listener msgs state).status = .SUCCEED) ∧
      (handle success later delayLevel listener msgs state).invocations =
        (attempt listener msgs state).invocations := by
  have some_messages : ¬ msgs.length < 1 := fun few =>
    nonempty (List.eq_nil_of_length_eq_zero (Nat.lt_one_iff.mp few))
  simp only [handle, if_neg some_messages]
  split
  · next failed => exact ⟨iff_of_false differ failed, rfl⟩
  · next succeeded => exact ⟨iff_of_true rfl (not_not.mp succeeded), rfl⟩

/-- A handler acknowledges the batch exactly when it was consumed, unless an
easy listener's failure is overwritten. -/
theorem handle_truthful {A : Type} {success later : A} (differ : later ≠ success)
    (delayLevel : MsgConsumedStatus → Option Int) (listener : MessageListener σ) (msgs : List MessageExt)
    (state : σ) :
    ((handle success later delayLevel listener msgs state).answer = success ↔
        AllSucceeded msgs (handle success later delayLevel listener msgs state).invocations) ↔
      ¬ Overwritten listener msgs state := by
  cases msgs with
  | nil => simp [handle, AllSucceeded, Overwritten, MessageListener.outcomes]
  | cons msg rest =>
    have nonempty := List.cons_ne_nil msg rest
    obtain ⟨answers, calls⟩ := handle_answer differ delayLevel listener state nonempty
    rw [answers, calls]
    exact attempt_truthful listener state nonempty

theorem success_iff_allSucceeded (listener : MessageListener σ) (msgs : List MessageExt) (state : σ) :
    (((registerOrderly listener msgs state).answer = .SUCCESS ↔
        AllSucceeded msgs (registerOrderly listener msgs state).invocations) ↔
      ¬ Overwritten listener msgs state) ∧
    (((registerConcurrently listener msgs state).answer = .CONSUME_SUCCESS ↔
        AllSucceeded msgs (registerConcurrently listener msgs state).invocations) ↔
      ¬ Overwritten listener msgs state) :=
  ⟨handle_truthful (by decide) _ listener msgs state, handle_truthful (by decide) _ listener msgs state⟩

def ext (queueOffset : Int) : MessageExt :=
  ⟨"orders", "7F000001", queueOffset, 0, [], none, 0, some "10.0.0.1:10911", 0, some "10.0.0.2", 0⟩

/-- An easy listener that asks to retry the first message. -/
def retryFirst : MessageListener Unit where
  isEasy := true
  onMessage message _ := (.returned (if message.offset = 0 then .RETRY else .SUCCEED), ())
  onMessages _ _ := (.returned .SUCCEED, ())

theorem not_success_iff_allSucceeded : ¬ ∀ (σ : Type) (listener : MessageListener σ) (msgs : List MessageExt)
    (state : σ), msgs ≠ [] →
      ((registerOrderly listener msgs state).answer = .SUCCESS ↔
        AllSucceeded msgs (registerOrderly listener msgs state).invocations) ∧
      ((registerConcurrently listener msgs state).answer = .CONSUME_SUCCESS ↔
        AllSucceeded msgs (registerConcurrently listener msgs state).invocations) := by
  intro always
  have orderly := (always Unit retryFirst [ext 0, ext 1] () (by decide)).1
  revert orderly
  decide

end Zms.Client.Consumer.Rocketmq
