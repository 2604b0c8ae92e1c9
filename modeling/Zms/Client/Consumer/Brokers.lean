import Zms.Client.Consumer.Kafka.AtLeastOnce
import Zms.Client.Consumer.Rocketmq

/-! Which messages the two proxies acknowledge.

The RocketMQ handlers answer success for `SUCCEED` only. The Kafka proxy logs
whatever else the listener returns or throws, and acknowledges the record in
its `finally` block.
-/

set_option autoImplicit false

namespace Zms.Client.Consumer

open Zms.Transition Kafka Rocketmq

/-- How the listener takes one message. -/
def Rocketmq.MessageListener.answer {σ : Type} (listener : MessageListener σ) (msg : MessageExt)
    (state : σ) : Outcome :=
  if listener.isEasy then
    match ConsumeMessage.parse msg with
    | none => .threw
    | some consumeMessage => (listener.onMessage consumeMessage state).1
  else (listener.onMessages [msg] state).1

theorem attempt_single {σ : Type} (listener : MessageListener σ) (msg : MessageExt) (state : σ) :
    (attempt listener [msg] state).outcome = listener.answer msg state := by
  simp only [attempt, MessageListener.answer, consumeEach]
  split
  · cases ConsumeMessage.parse msg with
    | none => rfl
    | some consumeMessage =>
      dsimp only
      obtain ⟨outcome, after⟩ := listener.onMessage consumeMessage state
      cases outcome <;> rfl
  · rfl

theorem rocketmq_acknowledges {σ : Type} (listener : MessageListener σ) (msg : MessageExt) (state : σ) :
    ((registerOrderly listener [msg] state).answer = .SUCCESS ↔
        listener.answer msg state = .returned .SUCCEED) ∧
      ((registerConcurrently listener [msg] state).answer = .CONSUME_SUCCESS ↔
        listener.answer msg state = .returned .SUCCEED) := by
  rw [← attempt_single, ← Attempt.status_eq_succeed]
  exact ⟨(handle_answer (by decide) _ listener state (List.cons_ne_nil msg [])).1,
    (handle_answer (by decide) _ listener state (List.cons_ne_nil msg [])).1⟩

namespace Kafka.State

/-- No `commitOffsets` throws on the way to `acks`. -/
def Settles (_ : State) : Action → Prop
  | .offerThrows _ _ | .ackBatchThrows _ _ => False
  | _ => True

instance (s : State) (a : Action) : Decidable (s.Settles a) := by
  apply Action.casesOn (motive := fun a => Decidable (s.Settles a)) a <;> intros <;>
    dsimp only [Settles] <;> infer_instance

variable {config : Config} {s : State} {a : Action} {r : ConsumerRecord}

/-- In `acks`, or on the way there. -/
def Acknowledging (s : State) (r : ConsumerRecord) : Prop := r ∈ s.acked ∨ r ∈ s.carried .toAcks

theorem Acknowledging.effect (acknowledging : s.Acknowledging r) (enabled : Enabled config s a)
    (settles : s.Settles a) : (effect s a).Acknowledging r := by
  rcases acknowledging with acked | carried
  · exact Or.inl (acked_effect acked a)
  refine mem_carried_effect enabled carried (by simp [Leg.toAcks])
    (fun t moves inHand => ?_) fun j task stage moves found same carries => ?_
  · rw [pc_of_mover enabled moves] at inHand
    cases a with
    | ackBatch u record rest =>
      cases moves
      rcases List.mem_cons.mp inHand with rfl | later
      · exact Or.inl (List.mem_append_right _ List.mem_cons_self)
      · refine Or.inr (Or.inl ?_)
        simp only [Kafka.effect, pc_setPc_self]
        exact later
    | ackBatchThrows => exact settles.elim
    | _ => exact absurd inHand List.not_mem_nil
  · cases a with
    | offer i other =>
      cases moves
      obtain ⟨rfl, -⟩ := TaskAt.same enabled.1 found
      exact Or.inl (List.mem_append_right _ (same ▸ List.mem_cons_self))
    | offerThrows => exact settles.elim
    | take i other =>
      cases moves
      rw [(TaskAt.same enabled.1 found).2] at carries
      cases carries
    | listen i other | countDown i other =>
      cases moves
      rw [(TaskAt.same enabled found).2] at carries
      cases carries
    | _ => cases moves

/-- Every finished record is acknowledged or about to be. -/
def Settled (s : State) : Prop := ∀ r, s.Finished r → s.Acknowledging r

theorem Settled.effect (settled : s.Settled) (fresh : s.ThreadsFresh) (enabled : Enabled config s a)
    (settles : s.Settles a) : (effect s a).Settled := by
  intro r finished
  rcases finished_of_effect finished with before | ⟨j, task, outcome, rfl, rfl⟩ | ⟨t, records, outcome, rfl, new⟩
  · exact (settled r before).effect enabled settles
  -- the worker offers the record next
  · obtain ⟨bound, -⟩ := List.getElem?_eq_some_iff.mp enabled.1
    exact Or.inr (mem_carried.mpr (Or.inr ⟨_, List.mem_set bound _, rfl, rfl⟩))
  -- the poll thread goes through the batch next
  · refine Or.inr (mem_carried.mpr (Or.inl ⟨t, fresh.known enabled rfl, ?_⟩))
    simp only [Kafka.effect, pc_setPc_self]
    exact new

end Kafka.State

open Kafka.State

/-- The Kafka proxy acknowledges a record once its listener call has ended,
whatever came of it; the RocketMQ proxy acknowledges a message for `SUCCEED`. -/
theorem acknowledges (config : Config) {s : State}
    (reached : ((machine config).restrict Settles).Reachable s) :
    (∀ r ∈ s.acked, ∃ outcome, (r, outcome) ∈ s.finished) ∧
    (∀ r outcome, (r, outcome) ∈ s.finished → r ∉ s.carried .toAcks → r ∈ s.acked) ∧
    ∀ (σ : Type) (listener : MessageListener σ) (msg : MessageExt) (state : σ),
      ((registerOrderly listener [msg] state).answer = .SUCCESS ↔
          listener.answer msg state = .returned .SUCCEED) ∧
        ((registerConcurrently listener [msg] state).answer = .CONSUME_SUCCESS ↔
          listener.answer msg state = .returned .SUCCEED) := by
  have settled : s.ThreadsFresh ∧ s.Settled := by
    apply reached.invariant (fun s => s.ThreadsFresh ∧ s.Settled)
    · rintro _ ⟨bindingTopic, rfl⟩
      exact ⟨fun _ _ => rfl, fun r member => absurd member List.not_mem_nil⟩
    · rintro s a ⟨fresh, settled⟩ ⟨enabled, settles⟩
      exact ⟨fresh.effect enabled, settled.effect fresh enabled settles⟩
  refine ⟨fun r acked => ?_, fun r outcome finished arrived => ?_, fun σ => rocketmq_acknowledges⟩
  · obtain ⟨⟨_, outcome⟩, finished, rfl⟩ :=
      List.mem_map.mp ((sound_of_reachable config reached.of_restrict).acked acked)
    exact ⟨outcome, finished⟩
  · exact (settled.2 r (List.mem_map_of_mem finished)).resolve_right arrived

namespace Kafka.Run

/-- One order polled and consumed, its listener asking for a retry. -/
def retried : List Action :=
  [.enterPoll 0 0, .pollReturns 0 0 [order 0], .submitRecords 0 [order 0] "orders",
    .execute 0 0 (order 0) [] 0 .listening { twoWorkers with workers := 1 }, .await 0 0,
    .listen 0 ⟨order 0, 0, 0, .listening⟩ (.returned .RETRY), .offer 0 ⟨order 0, 0, 0, .offering⟩]

end Kafka.Run

open Kafka.Run in
set_option maxRecDepth 4000 in
theorem acknowledges_retried : ∃ s, ((machine config).restrict Settles).Reachable s ∧
    (order 0, .returned .RETRY) ∈ s.finished ∧ order 0 ∈ s.acked := by
  have run : ∃ s, ((machine config).restrict Settles).Reachable s ∧
      (order 0, .returned .RETRY) ∈ s.finished ∧ order 0 ∉ s.carried .toAcks :=
    Guarded.exists_reachable (start 0 ++ retried) ⟨some "orders", rfl⟩ (by decide)
  obtain ⟨s, reached, finished, arrived⟩ := run
  exact ⟨s, reached, finished, (acknowledges config reached).2.1 _ _ finished arrived⟩

open Kafka.Run in
set_option maxRecDepth 4000 in
/-- A record whose listener asked for a retry is acknowledged to Kafka. -/
theorem not_acknowledged_alike : ¬ ∀ (config : Config) (s : State), (machine config).Reachable s →
    ∀ r outcome, (r, outcome) ∈ s.finished → r ∉ s.carried .toAcks →
      (r ∈ s.acked ↔ ∀ (σ : Type) (listener : MessageListener σ) (msg : MessageExt) (state : σ),
        listener.answer msg state = outcome →
          (registerOrderly listener [msg] state).answer = .SUCCESS ∧
            (registerConcurrently listener [msg] state).answer = .CONSUME_SUCCESS) := by
  intro always
  have run : ∃ s, (machine config).Reachable s ∧ (order 0, .returned .RETRY) ∈ s.finished ∧
      order 0 ∉ s.carried .toAcks ∧ order 0 ∈ s.acked :=
    Guarded.exists_reachable (start 0 ++ retried) ⟨some "orders", rfl⟩ (by decide)
  obtain ⟨s, reached, finished, arrived, acked⟩ := run
  have alike := (always config s reached _ _ finished arrived).mp acked
  have both := alike Unit retryFirst (ext 0) () (by decide)
  exact absurd both.1 (by decide)

end Zms.Client.Consumer
