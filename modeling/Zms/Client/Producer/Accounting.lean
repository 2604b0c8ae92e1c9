import Zms.Client.Producer.Kafka
import Zms.Client.Producer.Rocketmq

/-! Which sends mark exactly one rate, once, and call back exactly once. -/

set_option autoImplicit false

namespace Zms.Client.Producer

namespace Rocketmq

/-- The client answered with a status other than `SEND_OK`. -/
def SyncOutcome.Refused : SyncOutcome → Prop
  | .returned send => send.sendStatus ≠ .SEND_OK
  | .threw _ => False

instance (outcome : SyncOutcome) : Decidable outcome.Refused := by
  cases outcome <;> dsimp only [SyncOutcome.Refused] <;> infer_instance

/-- The client took the message and will call back. -/
def AsyncOutcome.Accepted : AsyncOutcome → Prop
  | .onSuccess _ | .onException _ => True
  | .threw _ => False

/-- A refused message is marked as a failure in its branch and in `finally`. -/
theorem syncSend_marksOnce_iff (name : String) (zmsMessage : ZmsMessage) (outcome : SyncOutcome) :
    (syncSend true name zmsMessage outcome).MarksOnce ↔
      ¬ (zmsMessage.payload ≠ none ∧ outcome.Refused) := by
  simp only [syncSend, Bool.not_true, Bool.false_eq_true, if_false]
  cases zmsMessage.payload with
  | none => simp [Sending.MarksOnce]
  | some payload =>
    cases outcome with
    | returned send => cases status : send.sendStatus <;> simp [Sending.MarksOnce, SyncOutcome.Refused, status]
    | threw thrown => simp [Sending.MarksOnce, SyncOutcome.Refused]

/-- What the client throws is only logged, and a null payload is dereferenced
before anything is marked. -/
theorem asyncSend_accounted_iff (name : String) (zmsMessage : ZmsMessage) (outcome : AsyncOutcome) :
    (asyncSend name zmsMessage outcome).MarksOnce ∧ (asyncSend name zmsMessage outcome).CallsBackOnce ↔
      zmsMessage.payload ≠ none ∧ outcome.Accepted := by
  simp only [asyncSend]
  cases zmsMessage.payload with
  | none => simp [Sending.MarksOnce]
  | some payload => cases outcome <;> simp [Sending.MarksOnce, Sending.CallsBackOnce, AsyncOutcome.Accepted]

end Rocketmq

namespace Kafka

/-- `send` returned a future. -/
def SyncOutcome.Accepted : SyncOutcome → Prop
  | .sendThrew _ => False
  | .returned _ | .interrupted | .execution _ _ | .timeout => True

def AsyncOutcome.Accepted : AsyncOutcome → Prop
  | .sendThrew _ => False
  | .completed _ | .failed _ => True

theorem syncSend_marksOnce_iff (name : String) (zmsMessage : ZmsMessage) (outcome : SyncOutcome) :
    (syncSend true name zmsMessage outcome).MarksOnce ↔ zmsMessage.payload ≠ none ∧ outcome.Accepted := by
  cases outcome <;>
    simp only [syncSend, syncSend.wait, Bool.not_true, Bool.false_eq_true, if_false, SyncOutcome.Accepted]
  all_goals cases zmsMessage.payload <;> simp [Sending.MarksOnce]

theorem asyncSend_accounted_iff (name : String) (zmsMessage : ZmsMessage) (outcome : AsyncOutcome) :
    (asyncSend name zmsMessage outcome).MarksOnce ∧ (asyncSend name zmsMessage outcome).CallsBackOnce ↔
      zmsMessage.payload ≠ none ∧ outcome.Accepted := by
  simp only [asyncSend]
  cases zmsMessage.payload with
  | none => simp [Sending.MarksOnce]
  | some payload => cases outcome <;> simp [Sending.MarksOnce, Sending.CallsBackOnce, AsyncOutcome.Accepted]

end Kafka

/-- When each of the four methods accounts for its send. -/
theorem accounted_iff (name : String) (zmsMessage : ZmsMessage) :
    (∀ outcome, (Rocketmq.syncSend true name zmsMessage outcome).MarksOnce ↔
      ¬ (zmsMessage.payload ≠ none ∧ outcome.Refused)) ∧
    (∀ outcome, (Rocketmq.asyncSend name zmsMessage outcome).MarksOnce ∧
        (Rocketmq.asyncSend name zmsMessage outcome).CallsBackOnce ↔
      zmsMessage.payload ≠ none ∧ outcome.Accepted) ∧
    (∀ outcome, (Kafka.syncSend true name zmsMessage outcome).MarksOnce ↔
      zmsMessage.payload ≠ none ∧ outcome.Accepted) ∧
    ∀ outcome, (Kafka.asyncSend name zmsMessage outcome).MarksOnce ∧
        (Kafka.asyncSend name zmsMessage outcome).CallsBackOnce ↔
      zmsMessage.payload ≠ none ∧ outcome.Accepted :=
  ⟨Rocketmq.syncSend_marksOnce_iff name zmsMessage, Rocketmq.asyncSend_accounted_iff name zmsMessage,
    Kafka.syncSend_marksOnce_iff name zmsMessage, Kafka.asyncSend_accounted_iff name zmsMessage⟩

/-- A message whose broker could not flush to disk in time is marked as failed twice. -/
theorem not_accounted : ¬ ∀ (name : String) (zmsMessage : ZmsMessage),
    (∀ outcome, (Rocketmq.syncSend true name zmsMessage outcome).MarksOnce) ∧
    (∀ outcome, (Rocketmq.asyncSend name zmsMessage outcome).MarksOnce ∧
      (Rocketmq.asyncSend name zmsMessage outcome).CallsBackOnce) ∧
    (∀ outcome, (Kafka.syncSend true name zmsMessage outcome).MarksOnce) ∧
    ∀ outcome, (Kafka.asyncSend name zmsMessage outcome).MarksOnce ∧
      (Kafka.asyncSend name zmsMessage outcome).CallsBackOnce := by
  intro always
  have marks := (always "orders" ⟨none, none, 0, some [1], none⟩).1
    (.returned ⟨.FLUSH_DISK_TIMEOUT, 0, none, "orders", 0⟩)
  exact absurd marks (by decide)

end Zms.Client.Producer
