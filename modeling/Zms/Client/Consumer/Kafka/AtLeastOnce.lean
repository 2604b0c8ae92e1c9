import Zms.Client.Consumer.Kafka.Frame
import Zms.Client.Consumer.Kafka.Ledger

/-! Which runs of the proxy deliver at least once.

A commit covers every lower record of its partition. It is harmless as long as
the records it overtakes are finished; the proxy does not see to that.
-/

set_option autoImplicit false

namespace Zms.Client.Consumer.Kafka

open Zms.Transition Zms.Delivery

namespace State

/-- What poll threads hold and what tasks still carry to the listener, those
dropped with their pool's queue included. -/
def inFlight (s : State) : List ConsumerRecord := s.carried .toListener

/-- A record waiting in `acks` lies above an unfinished one of its partition. -/
def Overtaking (s : State) : Prop :=
  ∃ a ∈ s.acks, ∃ r ∈ s.inFlight, r.topicPartition = a.topicPartition ∧ r.offset < a.offset ∧
    ¬ s.Finished r

instance (s : State) : Decidable s.Overtaking := inferInstanceAs (Decidable (∃ a ∈ s.acks, _))

/-- Every offset committed covers finished records only. -/
def AtLeastOnce (s : State) : Prop :=
  ∀ commit ∈ s.committed, ∀ r ∈ s.delivered, r.topicPartition = commit.1 → r.offset < commit.2 →
    s.Finished r

instance (s : State) : Decidable s.AtLeastOnce :=
  inferInstanceAs (Decidable (∀ commit ∈ s.committed, _))

/-- Polls return the log in order, a poll thread gives up only finished
records, and no commit overtakes a record in flight. -/
def Orderly (s : State) : Action → Prop
  | .pollReturns _ _ records => ∀ r ∈ records, r ∈ s.delivered ∨
      ∀ d ∈ s.delivered, d.topicPartition = r.topicPartition → d.offset < r.offset
  | .submitRecords _ records topic | .submitBatchRecords _ records topic =>
      ∀ r ∈ records, r.topic = topic ∨ s.Finished r
  | .noTopic _ records | .noExecutors _ _ records => ∀ r ∈ records, s.Finished r
  | .commit t | .ackBatchFull t _ | .rebalance t => s.Usable (some t) → ¬ s.Overtaking
  | .offerFull _ _ => s.Usable none → ¬ s.Overtaking
  | _ => True

instance (s : State) (a : Action) : Decidable (s.Orderly a) := by
  apply Action.casesOn (motive := fun a => Decidable (s.Orderly a)) a <;> intros <;>
    dsimp only [Orderly] <;> infer_instance

/-- Finished, or still on its way to the listener. -/
def Kept (s : State) (r : ConsumerRecord) : Prop := s.Finished r ∨ r ∈ s.inFlight

variable {s : State} {r : ConsumerRecord}

theorem held_effect {config : Config} {a : Action} {t : Nat} (enabled : Enabled config s a)
    (orderly : s.Orderly a) (moves : a.mover = some t) (inHand : r ∈ (s.threads t).pc.held) :
    (effect s a).Finished r ∨ r ∈ ((effect s a).threads t).pc.held ∨
      ∃ task ∈ (effect s a).tasks, Leg.toListener.carries task.stage = true ∧ task.record = r := by
  rw [pc_of_mover enabled moves] at inHand
  cases a with
  | submitRecords u records topic | submitBatchRecords u records topic =>
    cases moves
    rcases orderly r inHand with sameTopic | finished
    · refine Or.inr (Or.inl ?_)
      simp only [effect, pc_setPc_self, PollPc.held]
      exact List.mem_filter.mpr ⟨inHand, decide_eq_true sameTopic⟩
    · exact Or.inl (finished.effect _)
  | noTopic u records | noExecutors u batch records => exact Or.inl ((orderly r inHand).effect _)
  | execute u batch record rest p stage pool =>
    cases moves
    rcases List.mem_cons.mp inHand with rfl | later
    · refine Or.inr (Or.inr ⟨_, List.mem_append_right _ List.mem_cons_self, ?_, rfl⟩)
      rcases (ThreadPoolExecutor.execute_spec enabled.2.2).1 with rfl | rfl <;> rfl
    · refine Or.inr (Or.inl ?_)
      simp only [effect, pc_setPc_self, PollPc.held]
      exact later
  | listenBatch u records outcome =>
    exact Or.inl ((finish_finished records outcome r).mpr (Or.inr inHand))
  | _ => exact absurd inHand List.not_mem_nil

theorem Kept.effect {config : Config} {a : Action} (kept : s.Kept r) (enabled : Enabled config s a)
    (orderly : s.Orderly a) : (effect s a).Kept r := by
  rcases kept with finished | inFlight
  · exact Or.inl (finished.effect a)
  refine mem_carried_effect enabled inFlight id
    (fun t moves inHand => held_effect enabled orderly moves inHand)
    fun j task stage moves found same carries => ?_
  cases a with
  | take i other =>
    cases moves
    exact Or.inr rfl
  | listen i other outcome =>
    cases moves
    obtain ⟨rfl, -⟩ := TaskAt.same enabled found
    exact Or.inl ((finish_finished [other.record] outcome r).mpr (Or.inr (same ▸ List.mem_cons_self)))
  -- the later stages are not on the leg
  | offer i other | offerThrows i other =>
    cases moves
    rw [(TaskAt.same enabled.1 found).2] at carries
    cases carries
  | countDown i other =>
    cases moves
    rw [(TaskAt.same enabled found).2] at carries
    cases carries
  | _ => cases moves

/-- No record is lost between the poll and the listener. -/
def Accounted (s : State) : Prop := ∀ r ∈ s.delivered, s.Kept r

theorem Accounted.effect {config : Config} {a : Action} (kept : s.Accounted) (fresh : s.ThreadsFresh)
    (enabled : Enabled config s a) (orderly : s.Orderly a) : (effect s a).Accounted := by
  intro r delivered
  rcases mem_delivered_effect delivered with before | ⟨t, c, records, rfl, new⟩
  · exact (kept r before).effect enabled orderly
  · refine Or.inr (mem_carried.mpr (Or.inl ⟨t, fresh.known enabled rfl, ?_⟩))
    simp only [Kafka.effect, pc_setPc_self]
    exact new

structure Tracked (s : State) : Prop where
  fresh : s.ThreadsFresh
  traced : s.Traced
  sound : s.ledger.Sound place
  accounted : s.Accounted

theorem tracked_initial (bindingTopic : Option String) : (initial bindingTopic).Tracked where
  fresh _ _ := rfl
  traced := traced_initial bindingTopic
  sound := ⟨fun _ member => absurd member List.not_mem_nil, fun _ member => absurd member List.not_mem_nil,
    fun _ member => absurd member List.not_mem_nil⟩
  accounted _ member := absurd member List.not_mem_nil

/-- A commit that overtakes nothing in flight covers finished records only. -/
theorem Tracked.commit (tracked : s.Tracked) (calm : ¬ s.Overtaking) :
    s.ledger.Careful place (.commit {point | (point.1, point.2 + 1) ∈ s.commits}) := by
  rintro ⟨topicPartition, offset⟩ member r delivered ⟨sameKey, below⟩
  obtain ⟨a, waiting, same⟩ := mem_commits tracked.traced member
  simp only [Prod.mk.injEq, Nat.add_right_cancel_iff] at same
  obtain ⟨rfl, rfl⟩ := same
  rcases lt_or_eq_of_le below with lower | level
  · -- below the acknowledged record, which overtakes nothing that is unfinished
    rcases tracked.accounted r delivered with finished | inFlight
    · exact finished
    · by_contra unfinished
      exact calm ⟨a, waiting, r, inFlight, sameKey, lower, unfinished⟩
  · rw [ConsumerRecord.eq_of_place sameKey level]
    exact tracked.sound.acked (tracked.traced.acks a waiting)

theorem Tracked.careful {config : Config} {a : Action} (tracked : s.Tracked)
    (enabled : Enabled config s a) (orderly : s.Orderly a) {entry : Entry ConsumerRecord TopicPartition Nat}
    (books : s.entry a = some entry) : s.ledger.Careful place entry := by
  cases a with
  | pollReturns t c records =>
    cases books
    exact orderly
  | commit t | ackBatchFull t | rebalance t | offerFull =>
    simp only [State.entry] at books
    split at books
    · next usable =>
      cases books
      exact tracked.commit (orderly usable)
    · cases books
  -- a throwing `commitAsync` commits nothing
  | commitThrows t =>
    simp only [State.entry, if_neg enabled.2.2] at books
    cases books
  | ackBatchThrows t rest =>
    simp only [State.entry, if_neg enabled.2.2.2.2] at books
    cases books
  | offerThrows j task =>
    simp only [State.entry, if_neg enabled.2.2.2] at books
    cases books
  | listenBatch | listen | ackBatch | offer =>
    cases books
    trivial
  | _ => cases books

theorem Tracked.effect {config : Config} {a : Action} (tracked : s.Tracked)
    (enabled : Enabled config s a) (orderly : s.Orderly a) : (effect s a).Tracked where
  fresh := tracked.fresh.effect enabled
  traced := tracked.traced.effect enabled
  sound := by
    rw [ledger_effect]
    cases books : s.entry a with
    | none => exact tracked.sound
    | some entry => exact tracked.sound.enter (tracked.traced.admits enabled books)
  accounted := tracked.accounted.effect tracked.fresh enabled orderly

end State

open State

/-- In orderly runs the proxy keeps a careful ledger. -/
theorem orderly_simulation (config : Config) :
    Guarded.Simulation ((machine config).restrict Orderly) ((Ledger.book place).restrict (Ledger.Careful place))
      (fun s ledger => ledger = s.ledger ∧ s.Tracked) where
  init := by
    rintro _ ⟨bindingTopic, rfl⟩
    exact ⟨_, ledger_initial bindingTopic, rfl, tracked_initial bindingTopic⟩
  step := by
    rintro s _ a ⟨rfl, tracked⟩ ⟨enabled, orderly⟩
    refine ⟨(effect s a).ledger, ?_, rfl, tracked.effect enabled orderly⟩
    rw [ledger_effect]
    cases books : s.entry a with
    | none => exact .refl _
    | some entry =>
      exact .one ⟨tracked.traced.admits enabled books, tracked.careful enabled orderly books⟩

/-- In a run of orderly steps every committed offset covers finished records only. -/
theorem atLeastOnce_of_orderly (config : Config) {s : State}
    (reached : ((machine config).restrict Orderly).Reachable s) : s.AtLeastOnce := by
  refine (orderly_simulation config).safety State.AtLeastOnce ?_ reached
  rintro s _ ⟨rfl, -⟩ reachedLedger ⟨topicPartition, next⟩ committed r delivered sameKey below
  have once := Ledger.atLeastOnce_of_careful reachedLedger
  -- the book keeps the highest offset covered, one below the committed one
  have positive : next - 1 + 1 = next := by
    simp only at below
    omega
  have covered : (topicPartition, next - 1) ∈ s.ledger.committed := by
    change (topicPartition, next - 1 + 1) ∈ s.committed
    rwa [positive]
  exact once _ covered r delivered ⟨sameKey, Nat.le_sub_one_of_lt below⟩

namespace Run

def twoWorkers : ThreadPoolExecutor := .new 2 2 10000

def config : Config := ⟨false, some ⟨some 2, some 2⟩, 4, false⟩

def order (offset : Nat) : ConsumerRecord := ⟨"orders", 0, offset⟩

/-- `start` with poll thread, consumer and pool `n`, and the empty first round. -/
def start (n : Nat) : List Action :=
  [.consumerStart [twoWorkers], .addExecutor twoWorkers [], .newConsumer, .setRunning, .spawn,
    .enterPoll n n, .pollReturns n n [], .skipEmpty n, .commit n, .startReturns n]

/-- Two orders polled and given to the listener. -/
def batch : List Action :=
  [.enterPoll 0 0, .pollReturns 0 0 [order 0, order 1], .submitRecords 0 [order 0, order 1] "orders",
    .execute 0 0 (order 0) [order 1] 0 .listening { twoWorkers with workers := 1 },
    .execute 0 0 (order 1) [] 0 .listening { twoWorkers with workers := 2 }, .await 0 0]

def consume (n : Nat) : List Action :=
  [.listen n ⟨order n, 0, 0, .listening⟩ (.returned .SUCCEED), .offer n ⟨order n, 0, 0, .offering⟩,
    .countDown n ⟨order n, 0, 0, .counting⟩]

/-- Restarted while a worker is still in the listener, which `shutdownNow` does not wait for. -/
def restart : List Action :=
  [.dataChange (some "orders") true, .closeConsumer (.control true) 0, .shutdownPool (.control true) 0 1 0,
    .shutdownNow (.control true) 1 1 0, .clearExecutors (.control true) 1]

end Run

open Run in
set_option maxRecDepth 4000 in
theorem atLeastOnce_of_orderly_batch : ∃ s, ((machine config).restrict Orderly).Reachable s ∧
    s.committed = [(⟨"orders", 0⟩, 2)] ∧ s.AtLeastOnce := by
  have run : ∃ s, ((machine config).restrict Orderly).Reachable s ∧ s.committed = [(⟨"orders", 0⟩, 2)] :=
    Guarded.exists_reachable
      (start 0 ++ batch ++ consume 1 ++ consume 0 ++ [.latchOpen 0 0, .commit 0])
      ⟨some "orders", rfl⟩ (by decide)
  obtain ⟨s, reached, committed⟩ := run
  exact ⟨s, reached, committed, atLeastOnce_of_orderly config reached⟩

open Run in
set_option maxRecDepth 4000 in
/-- The restart keeps `acks`, and the new poll thread commits the second order
over the unfinished first. -/
theorem not_atLeastOnce : ¬ ∀ (config : Config) (s : State), (machine config).Reachable s → s.AtLeastOnce := by
  intro always
  have run : ∃ s, (machine config).Reachable s ∧ ¬ s.AtLeastOnce :=
    Guarded.exists_reachable
      (start 0 ++ batch ++ consume 1 ++ restart ++ start 1)
      ⟨some "orders", rfl⟩ (by decide)
  obtain ⟨s, reached, violated⟩ := run
  exact violated (always config s reached)

end Zms.Client.Consumer.Kafka
