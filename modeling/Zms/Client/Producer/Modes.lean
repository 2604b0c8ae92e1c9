import Zms.Client.Producer.Kafka
import Zms.Client.Producer.Rocketmq

/-! Whether the three ways to send hand the broker client the same message.

A key orders and shards messages, so messages with one key belong in one queue
however they are sent.
-/

set_option autoImplicit false

namespace Zms.Client.Producer

namespace Rocketmq

/-- What a subscriber can tell about a message, and who picks its queue. -/
structure Content where
  topic : String
  tags : Option String
  keys : Option String
  body : Option (List UInt8)
  properties : List (String × String)
  delayTimeLevel : Option Int
  rule : QueueRule
  deriving DecidableEq

def content (handed : Message × QueueRule) : Content where
  topic := handed.1.topic
  tags := handed.1.tags
  keys := handed.1.keys
  body := handed.1.body
  properties := handed.1.properties
  delayTimeLevel := handed.1.delayTimeLevel
  rule := handed.2

/-- Some send of the message hands this to the client. -/
def Hands (name : String) (zmsMessage : ZmsMessage) (handed : Message × QueueRule) : Prop :=
  (∃ outcome, (syncSend true name zmsMessage outcome).handed = some handed) ∨
    (∃ outcome, (asyncSend name zmsMessage outcome).handed = some handed) ∨
    ∃ outcome, (oneway name zmsMessage outcome).handed = some handed

/-- All ways to send a message agree on it, and on the queue of its key. -/
structure Agrees (name : String) (zmsMessage : ZmsMessage) : Prop where
  message : ∀ sync async single,
    (syncSend true name zmsMessage sync).handed.map content =
        (asyncSend name zmsMessage async).handed.map content ∧
      (asyncSend name zmsMessage async).handed.map content =
        (oneway name zmsMessage single).handed.map content
  queue : ∀ other : ZmsMessage, nonEmpty zmsMessage.key ≠ none → other.key = zmsMessage.key →
    ∀ handed handedToo, Hands name zmsMessage handed → Hands name other handedToo →
      ∀ (Q : Type) (mqs : List Q) (pick pickToo : Q), mqs ≠ [] →
        handed.2.select mqs handed.1 pick = handedToo.2.select mqs handedToo.1 pickToo

/-- Nothing is sent, or there is nothing that `oneway` and `asyncSend` could lose. -/
def Plain (zmsMessage : ZmsMessage) : Prop :=
  zmsMessage.payload = none ∨
    (nonEmpty zmsMessage.key = none ∧ zmsMessage.properties.getD [] = [] ∧
      ¬ (1 ≤ zmsMessage.delayLevel ∧ zmsMessage.delayLevel ≤ 18))

theorem syncSend_handed (name : String) (zmsMessage : ZmsMessage) (outcome : SyncOutcome) :
    (syncSend true name zmsMessage outcome).handed =
      zmsMessage.payload.map fun _ => (buildMessage name zmsMessage,
        if (buildMessage name zmsMessage).keys = none then QueueRule.client else .hashSelector) := by
  simp only [syncSend, Bool.not_true, Bool.false_eq_true, if_false]
  cases zmsMessage.payload with
  | none => rfl
  | some payload =>
    cases outcome with
    | returned send => cases status : send.sendStatus <;> simp only [status] <;> rfl
    | threw thrown => rfl

theorem asyncSend_handed (name : String) (zmsMessage : ZmsMessage) (outcome : AsyncOutcome) :
    (asyncSend name zmsMessage outcome).handed =
      zmsMessage.payload.map fun _ => (buildMessage name zmsMessage, QueueRule.client) := by
  simp only [asyncSend]
  cases zmsMessage.payload with
  | none => rfl
  | some payload => cases outcome <;> rfl

theorem oneway_handed (name : String) (zmsMessage : ZmsMessage) (outcome : SyncOutcome) :
    (oneway name zmsMessage outcome).handed =
      zmsMessage.payload.map fun _ =>
        (Message.new name zmsMessage.tags zmsMessage.key 0 zmsMessage.payload false, QueueRule.client) := by
  simp only [oneway]
  cases zmsMessage.payload with
  | none => rfl
  | some payload => cases outcome <;> rfl

theorem content_build_eq_new_iff (name : String) (zmsMessage : ZmsMessage) (rule : QueueRule) :
    content (buildMessage name zmsMessage, rule) =
        content (Message.new name zmsMessage.tags zmsMessage.key 0 zmsMessage.payload false, rule) ↔
      zmsMessage.properties.getD [] = [] ∧
        ¬ (1 ≤ zmsMessage.delayLevel ∧ zmsMessage.delayLevel ≤ 18) := by
  simp only [buildMessage, content, Message.new, MsgConsumedStatus.level, List.nil_append, Content.mk.injEq,
    true_and, and_true]
  apply and_congr_right
  intro _
  by_cases delayed : 1 ≤ zmsMessage.delayLevel ∧ zmsMessage.delayLevel ≤ 18
  · simp [delayed]
  · simp [delayed]

/-- The rule of `syncSend` is the client's own for messages without a key only. -/
theorem content_sync_eq_async_iff (name : String) (zmsMessage : ZmsMessage) :
    content (buildMessage name zmsMessage,
          if (buildMessage name zmsMessage).keys = none then QueueRule.client else .hashSelector) =
        content (buildMessage name zmsMessage, .client) ↔ nonEmpty zmsMessage.key = none := by
  have keys : (buildMessage name zmsMessage).keys = nonEmpty zmsMessage.key := rfl
  simp only [content, keys, Content.mk.injEq, true_and, ite_eq_left_iff, reduceCtorEq, imp_false, not_not]

theorem hands_payload {name : String} {zmsMessage : ZmsMessage} {handed : Message × QueueRule}
    (hands : Hands name zmsMessage handed) : zmsMessage.payload ≠ none := by
  intro empty
  rcases hands with ⟨outcome, given⟩ | ⟨outcome, given⟩ | ⟨outcome, given⟩
  · rw [syncSend_handed, empty] at given
    cases given
  · rw [asyncSend_handed, empty] at given
    cases given
  · rw [oneway_handed, empty] at given
    cases given

theorem map_const_eq_iff {α β : Type} (o : Option α) (a b : β) :
    (o.map fun _ => a) = (o.map fun _ => b) ↔ o = none ∨ a = b := by
  cases o <;> simp

theorem message_agrees_iff (name : String) (zmsMessage : ZmsMessage) :
    (∀ sync async single,
      (syncSend true name zmsMessage sync).handed.map content =
          (asyncSend name zmsMessage async).handed.map content ∧
        (asyncSend name zmsMessage async).handed.map content =
          (oneway name zmsMessage single).handed.map content) ↔ Plain zmsMessage := by
  simp only [syncSend_handed, asyncSend_handed, oneway_handed, Option.map_map, Function.comp_def,
    map_const_eq_iff, content_sync_eq_async_iff, content_build_eq_new_iff, ← or_and_left, Plain]
  exact ⟨fun agrees => agrees (.threw .InterruptedException) (.threw .InterruptedException)
    (.threw .InterruptedException), fun plain _ _ _ => plain⟩

theorem agrees_iff_plain (name : String) (zmsMessage : ZmsMessage) :
    Agrees name zmsMessage ↔ Plain zmsMessage := by
  constructor
  · exact fun agrees => (message_agrees_iff name zmsMessage).mp agrees.message
  · intro plain
    refine ⟨(message_agrees_iff name zmsMessage).mpr plain, fun other keyed sameKey handed _ hands => ?_⟩
    -- a plain message has no key to shard by, or is not sent at all
    rcases plain with empty | ⟨keyless, -⟩
    · exact absurd empty (hands_payload hands)
    · exact absurd keyless keyed

end Rocketmq

namespace Kafka

/-- Some send of the message hands this record to the client. -/
def Hands (name : String) (zmsMessage : ZmsMessage) (record : ProducerRecord) : Prop :=
  (∃ outcome, (syncSend true name zmsMessage outcome).handed = some record) ∨
    (∃ outcome, (asyncSend name zmsMessage outcome).handed = some record) ∨
    ∃ thrown, (oneway name zmsMessage thrown).handed = some record

/-- All ways to send a message agree on its record, and the record carries its key. -/
structure Agrees (name : String) (zmsMessage : ZmsMessage) : Prop where
  record : ∀ sync async single,
    (syncSend true name zmsMessage sync).handed = (asyncSend name zmsMessage async).handed ∧
      (asyncSend name zmsMessage async).handed = (oneway name zmsMessage single).handed
  key : zmsMessage.key.any (· ≠ "") = true → ∀ record, Hands name zmsMessage record →
    record.key = zmsMessage.key

theorem syncSend_handed (name : String) (zmsMessage : ZmsMessage) (outcome : SyncOutcome) :
    (syncSend true name zmsMessage outcome).handed = some ⟨name, zmsMessage.key, zmsMessage.payload⟩ := by
  cases outcome <;> simp only [syncSend, syncSend.wait, Bool.not_true, Bool.false_eq_true, if_false]
  all_goals cases zmsMessage.payload <;> rfl

theorem asyncSend_handed (name : String) (zmsMessage : ZmsMessage) (outcome : AsyncOutcome) :
    (asyncSend name zmsMessage outcome).handed =
      zmsMessage.payload.map fun payload => ⟨name, zmsMessage.key, some payload⟩ := by
  obtain ⟨key, tags, delayLevel, payload, properties⟩ := zmsMessage
  cases payload with
  | none => rfl
  | some payload => cases outcome <;> rfl

theorem oneway_handed (name : String) (zmsMessage : ZmsMessage) (thrown : Option Throwable) :
    (oneway name zmsMessage thrown).handed =
      zmsMessage.payload.map fun payload => ⟨name, none, some payload⟩ := by
  obtain ⟨key, tags, delayLevel, payload, properties⟩ := zmsMessage
  cases payload <;> rfl

/-- A null payload stops all but `syncSend`, and `oneway` drops the key. -/
theorem agrees_iff_keyless (name : String) (zmsMessage : ZmsMessage) :
    Agrees name zmsMessage ↔ zmsMessage.key = none ∧ zmsMessage.payload ≠ none := by
  constructor
  · rintro ⟨record, -⟩
    -- what is handed over does not depend on the outcomes, so any will do
    obtain ⟨first, second⟩ := record .timeout (.failed ⟨"", none⟩) none
    rw [syncSend_handed, asyncSend_handed] at first
    rw [asyncSend_handed, oneway_handed] at second
    cases payload : zmsMessage.payload with
    | none =>
      rw [payload] at first
      cases first
    | some bytes =>
      rw [payload] at second
      exact ⟨congrArg ProducerRecord.key (Option.some.inj second), by simp⟩
  · rintro ⟨keyless, present⟩
    refine ⟨fun sync async single => ?_, fun keyed => ?_⟩
    · obtain ⟨bytes, payload⟩ := Option.ne_none_iff_exists'.mp present
      rw [syncSend_handed, asyncSend_handed, oneway_handed, payload, keyless]
      exact ⟨rfl, rfl⟩
    · rw [keyless] at keyed
      cases keyed

end Kafka

/-- When the three ways to send hand the broker client the same message. -/
theorem agrees_iff (name : String) (zmsMessage : ZmsMessage) :
    (Rocketmq.Agrees name zmsMessage ↔ Rocketmq.Plain zmsMessage) ∧
      (Kafka.Agrees name zmsMessage ↔ zmsMessage.key = none ∧ zmsMessage.payload ≠ none) :=
  ⟨Rocketmq.agrees_iff_plain name zmsMessage, Kafka.agrees_iff_keyless name zmsMessage⟩

def keyed : ZmsMessage := ⟨some "order-17", none, 0, some [1], none⟩

theorem not_agrees : ¬ ∀ (name : String) (zmsMessage : ZmsMessage),
    Rocketmq.Agrees name zmsMessage ∧ Kafka.Agrees name zmsMessage := by
  intro always
  have same := ((always "orders" keyed).1.message (.threw .InterruptedException)
    (.threw .InterruptedException) (.threw .InterruptedException)).1
  exact absurd same (by decide)

end Zms.Client.Producer
