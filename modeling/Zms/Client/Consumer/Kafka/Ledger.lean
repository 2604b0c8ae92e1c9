import Zms.Client.Consumer.Kafka.Flight
import Zms.Delivery.Ledger

/-! The machine keeps the account of a log subscriber: polls deliver, listener
calls finish, `acks` acknowledges, and `commitOffsets` commits.
-/

set_option autoImplicit false

namespace Zms.Client.Consumer.Kafka

open Zms.Transition Zms.Delivery

def place : Placement ConsumerRecord TopicPartition Nat := ⟨ConsumerRecord.topicPartition, ConsumerRecord.offset⟩

namespace State

/-- Some listener invocation on the record has finished. -/
def Finished (s : State) (record : ConsumerRecord) : Prop := record ∈ s.finished.map Prod.fst

instance (s : State) (record : ConsumerRecord) : Decidable (s.Finished record) :=
  inferInstanceAs (Decidable (record ∈ s.finished.map Prod.fst))

def ledger (s : State) : Ledger ConsumerRecord TopicPartition Nat where
  delivered := {record | record ∈ s.delivered}
  finished := {record | s.Finished record}
  acked := {record | record ∈ s.acked}
  committed := {point | (point.1, point.2 + 1) ∈ s.committed}

/-- A poll thread's records were delivered, and those it is about to
acknowledge are finished. -/
def PcTraced (s : State) (pc : PollPc) : Prop :=
  (∀ r ∈ pc.held, r ∈ s.delivered) ∧ ∀ r ∈ pc.unacked, s.Finished r

/-- Every record in flight is where the account says it is. -/
structure Traced (s : State) : Prop where
  tasks : ∀ task ∈ s.tasks, task.record ∈ s.delivered
  offering : ∀ task ∈ s.tasks, task.stage = .offering → s.Finished task.record
  pcs : ∀ t, s.PcTraced (s.threads t).pc
  acks : ∀ r ∈ s.acks, r ∈ s.acked
  offsets : s.offsets = []

theorem ledger_initial (bindingTopic : Option String) : (initial bindingTopic).ledger = Ledger.empty := by
  simp [ledger, initial, Ledger.empty, Finished]

theorem traced_initial (bindingTopic : Option String) : (initial bindingTopic).Traced := by
  constructor <;> simp [initial, PcTraced, PollPc.held, PollPc.unacked]

variable {s : State}

theorem PcTraced.mono {u : State} {pc : PollPc} (traced : s.PcTraced pc)
    (delivered : ∀ r ∈ s.delivered, r ∈ u.delivered) (finished : ∀ r, s.Finished r → u.Finished r) :
    u.PcTraced pc :=
  ⟨fun r member => delivered r (traced.1 r member), fun r member => finished r (traced.2 r member)⟩

theorem pcTraced_idle {pc : PollPc} (held : pc.held = []) (unacked : pc.unacked = []) : s.PcTraced pc :=
  ⟨by simp [held], by simp [unacked]⟩

theorem pcTraced_holding {pc : PollPc} (held : ∀ r ∈ pc.held, r ∈ s.delivered) (unacked : pc.unacked = []) :
    s.PcTraced pc :=
  ⟨held, by simp [unacked]⟩

theorem pcTraced_acking {pc : PollPc} (held : pc.held = []) (unacked : ∀ r ∈ pc.unacked, s.Finished r) :
    s.PcTraced pc :=
  ⟨by simp [held], unacked⟩

/-- Where the records are: with the threads and tasks, acknowledged, or waiting to be committed. -/
def whereabouts (s : State) : List Task × (Nat → PollThread) × List ConsumerRecord ×
    List (ConsumerRecord × Outcome) × List ConsumerRecord × List ConsumerRecord × Offsets :=
  (s.tasks, s.threads, s.delivered, s.finished, s.acked, s.acks, s.offsets)

theorem Traced.frame (kept : s.Traced) {u : State} (same : u.whereabouts = s.whereabouts) : u.Traced := by
  simp only [whereabouts, Prod.mk.injEq] at same
  obtain ⟨tasks, threads, delivered, finished, acked, acks, offsets⟩ := same
  have sameFinished : ∀ r, s.Finished r → u.Finished r := fun r done => by rwa [Finished, finished]
  constructor
  · rw [tasks, delivered]; exact kept.tasks
  · rw [tasks]; exact fun task member offers => sameFinished _ (kept.offering task member offers)
  · rw [threads]
    exact fun t => (kept.pcs t).mono (by rw [delivered]; exact fun _ member => member) sameFinished
  · rw [acks, acked]; exact kept.acks
  · rw [offsets]; exact kept.offsets

theorem Traced.threads (kept : s.Traced) {t : Nat} (thread : PollThread) (traced : s.PcTraced thread.pc) :
    ({ s with threads := Function.update s.threads t thread } : State).Traced := by
  refine ⟨kept.tasks, kept.offering, fun u => ?_, kept.acks, kept.offsets⟩
  by_cases same : u = t
  · subst same
    simp only [Function.update_self]
    exact traced
  · simp only [Function.update_of_ne same]
    exact kept.pcs u

theorem Traced.setPc (kept : s.Traced) {t : Nat} {pc : PollPc} (traced : s.PcTraced pc) :
    (s.setPc t pc).Traced := kept.threads _ traced

theorem Traced.leave (kept : s.Traced) (t : Nat) (err : Bool) : (s.leave t err).Traced :=
  kept.threads _ (pcTraced_idle rfl rfl)

theorem Traced.setClosing (kept : s.Traced) (actor : Actor) (pc : ClosePc) :
    (s.setClosing actor pc).Traced := by
  cases actor with
  | control restart => exact ⟨kept.tasks, kept.offering, kept.pcs, kept.acks, kept.offsets⟩
  | poll t => exact kept.setPc (pcTraced_idle rfl rfl)

theorem Traced.endClosing (kept : s.Traced) (thrown : Bool) (actor : Actor) :
    (s.endClosing thrown actor).Traced := by
  cases actor with
  | control restart => exact ⟨kept.tasks, kept.offering, kept.pcs, kept.acks, kept.offsets⟩
  | poll t => exact kept.setPc (pcTraced_idle rfl rfl)

theorem Traced.setStage (kept : s.Traced) {j : Nat} {task : Task} {stage before : Stage}
    (found : s.TaskAt j task before) (finished : stage = .offering → s.Finished task.record) :
    (s.setStage j task stage).Traced := by
  have member := List.mem_of_getElem? found.1
  refine ⟨fun other inTasks => ?_, fun other inTasks offers => ?_, kept.pcs, kept.acks, kept.offsets⟩
  · rcases List.mem_or_eq_of_mem_set inTasks with old | rfl
    · exact kept.tasks other old
    · exact kept.tasks task member
  · rcases List.mem_or_eq_of_mem_set inTasks with old | rfl
    · exact kept.offering other old offers
    · exact finished offers

theorem Traced.submit (kept : s.Traced) (task : Task) (delivered : task.record ∈ s.delivered)
    (fresh : task.stage ≠ .offering) : (s.submit task).Traced := by
  refine ⟨fun other member => ?_, fun other member offers => ?_, kept.pcs, kept.acks, kept.offsets⟩
  · rcases List.mem_append.mp member with old | new
    · exact kept.tasks other old
    · exact List.mem_singleton.mp new ▸ delivered
  · rcases List.mem_append.mp member with old | new
    · exact kept.offering other old offers
    · exact absurd offers (List.mem_singleton.mp new ▸ fresh)

theorem Traced.dropQueued (kept : s.Traced) (p : Nat) : (s.dropQueued p).Traced := by
  refine ⟨fun task member => ?_, fun task member offers => ?_, kept.pcs, kept.acks, kept.offsets⟩
  · obtain ⟨old, inTasks, rfl⟩ := List.mem_map.mp member
    split <;> exact kept.tasks old inTasks
  · obtain ⟨old, inTasks, rfl⟩ := List.mem_map.mp member
    split at offers
    · cases offers
    · rw [if_neg (by assumption)]
      exact kept.offering old inTasks offers

theorem Traced.deliver (kept : s.Traced) (records : List ConsumerRecord) :
    (s.deliver records).Traced := by
  have grown : ∀ r ∈ s.delivered, r ∈ (s.deliver records).delivered :=
    fun _ member => List.mem_append_left _ member
  exact ⟨fun task member => grown _ (kept.tasks task member), kept.offering,
    fun t => (kept.pcs t).mono grown fun _ done => done, kept.acks, kept.offsets⟩

theorem Traced.commitOffsets (kept : s.Traced) (self : Option Nat) : (s.commitOffsets self).Traced :=
  ⟨kept.tasks, kept.offering, kept.pcs, fun _ member => absurd member List.not_mem_nil, rfl⟩

theorem Traced.offer (kept : s.Traced) (record : ConsumerRecord) : (s.offer record).Traced := by
  refine ⟨kept.tasks, kept.offering, kept.pcs, fun r member => ?_, kept.offsets⟩
  rcases List.mem_append.mp member with old | new
  · exact List.mem_append_left _ (kept.acks r old)
  · exact List.mem_append_right _ new

theorem Finished.finish {r : ConsumerRecord} (finished : s.Finished r) (records : List ConsumerRecord)
    (outcome : Outcome) : (s.finish records outcome).Finished r := by
  rw [Finished] at finished ⊢
  exact List.map_append ▸ List.mem_append_left _ finished

theorem finish_finished (records : List ConsumerRecord) (outcome : Outcome) (r : ConsumerRecord) :
    (s.finish records outcome).Finished r ↔ s.Finished r ∨ r ∈ records := by
  simp [Finished, finish, List.map_append, Function.comp_def]

theorem Traced.finish (kept : s.Traced) (records : List ConsumerRecord) (outcome : Outcome) :
    (s.finish records outcome).Traced :=
  ⟨kept.tasks, fun task member offers => (kept.offering task member offers).finish records outcome,
    fun t => (kept.pcs t).mono (fun _ member => member) (fun _ done => done.finish records outcome),
    kept.acks, kept.offsets⟩

theorem mem_commits (kept : s.Traced) {point : TopicPartition × Nat} (member : point ∈ s.commits) :
    ∃ r ∈ s.acks, point = (r.topicPartition, r.offset + 1) := by
  obtain ⟨entry, drained, rfl⟩ := mem_buildCommits.mp member
  rcases mem_handleAcks drained with old | ⟨r, inAcks, rfl⟩
  · rw [kept.offsets] at old
    cases old
  · exact ⟨r, inAcks, rfl⟩

theorem Traced.effect {config : Config} {a : Action} (kept : s.Traced) (enabled : Enabled config s a) :
    (effect s a).Traced := by
  cases a with
  | enterPoll | skipEmpty | await | latchOpen | awaitInterrupted | ackBatchDone =>
    exact kept.setPc (pcTraced_idle rfl rfl)
  | pollRefused | pollThrows | noTopic | noExecutors | leaveLoop => exact kept.leave _ _
  | pollReturns t c records =>
    exact (kept.deliver records).setPc (pcTraced_holding (fun r member => List.mem_append_right _ member) rfl)
  | submitRecords t records topic =>
    have traced := enabled.1 ▸ kept.pcs t
    exact (kept.frame (u := s.newLatch records.length) rfl).setPc
      (pcTraced_holding (fun r member => traced.1 r (List.mem_of_mem_filter member)) rfl)
  | submitBatchRecords t records topic =>
    have traced := enabled.1 ▸ kept.pcs t
    exact kept.setPc (pcTraced_holding (fun r member => traced.1 r (List.mem_of_mem_filter member)) rfl)
  | execute t batch record rest p stage pool =>
    have traced := enabled.1 ▸ kept.pcs t
    have delivered := traced.1 record List.mem_cons_self
    have fresh : stage ≠ .offering := by
      rcases (ThreadPoolExecutor.execute_spec enabled.2.2).1 with rfl | rfl <;> simp
    have pooled := kept.frame (u := s.setPool p pool) rfl
    have submitted := pooled.submit ⟨record, batch, p, stage⟩ delivered fresh
    exact submitted.setPc (pcTraced_holding (fun r member => traced.1 r (List.mem_cons_of_mem _ member)) rfl)
  | listenBatch t records outcome =>
    exact (kept.finish records outcome).setPc
      (pcTraced_acking rfl fun r member => (finish_finished records outcome r).mpr (Or.inr member))
  | ackBatch t record rest =>
    have traced := enabled.1 ▸ kept.pcs t
    exact (kept.offer record).setPc
      (pcTraced_acking rfl fun r member => traced.2 r (List.mem_cons_of_mem _ member))
  | ackBatchFull | offerFull | rebalance => exact kept.commitOffsets _
  | ackBatchThrows | commitThrows => exact (kept.commitOffsets _).leave _ _
  | commit t => exact (kept.commitOffsets _).threads _ (pcTraced_idle rfl rfl)
  | setNotRunning t =>
    exact (kept.frame (u := { s with running := false }) rfl).setPc (pcTraced_idle rfl rfl)
  | closeConsumer actor c =>
    exact (kept.frame (u := { s with closed := Function.update s.closed c true }) rfl).setClosing _ _
  | shutdownPool actor cursor expected p =>
    exact (kept.frame (u := s.setPool p _) rfl).setClosing _ _
  | wakeupConsumer | poolTerminated => exact kept.setClosing _ _
  | unregisterThrows restart => exact kept.endClosing true (.control restart)
  | closeNull | executorsModified => exact kept.endClosing _ _
  | closeThrows actor c =>
    exact (kept.frame (u := { s with closed := Function.update s.closed c true }) rfl).endClosing _ _
  | shutdownNow actor cursor expected p =>
    exact ((kept.frame (u := s.setPool p _) rfl).dropQueued p).setClosing _ _
  | clearExecutors actor expected =>
    exact (kept.frame (u := { s with executors := [], modCount := s.modCount + 1 }) rfl).endClosing _ _
  | take j task => exact kept.setStage enabled.1 (by simp)
  | listen j task outcome =>
    exact (kept.finish [task.record] outcome).setStage enabled fun _ =>
      (finish_finished [task.record] outcome task.record).mpr (Or.inr List.mem_cons_self)
  | offer j task => exact (kept.offer task.record).setStage enabled.1 (by simp)
  | offerThrows j task => exact (kept.commitOffsets none).setStage enabled.1 (by simp)
  | countDown j task =>
    have counted := kept.frame
      (u := { s with latch := Function.update s.latch task.batch (s.latch task.batch - 1) }) rfl
    exact counted.setStage enabled (by simp)
  | spawn =>
    exact (kept.threads ⟨.loop, false, false⟩ (pcTraced_idle rfl rfl)).frame rfl
  | dataChange | shutdown =>
    simp only [Kafka.effect]
    repeat' split
    all_goals exact kept.frame rfl
  | retireWorker | startIgnored | consumerStart | addExecutor | newConsumer | setRunning | startFails
  | startReturns | startThrows => exact kept.frame rfl

/-- What the action books, if anything. -/
def entry (s : State) : Action → Option (Entry ConsumerRecord TopicPartition Nat)
  | .pollReturns _ _ records => some (.deliver {r | r ∈ records})
  | .listenBatch _ records _ => some (.finish {r | r ∈ records})
  | .listen _ task _ => some (.finish {r | r ∈ [task.record]})
  | .ackBatch _ record _ => some (.ack {r | r ∈ [record]})
  | .offer _ task => some (.ack {r | r ∈ [task.record]})
  | .ackBatchFull t _ | .ackBatchThrows t _ | .commit t | .commitThrows t | .rebalance t =>
      if s.Usable (some t) then some (.commit {point | (point.1, point.2 + 1) ∈ s.commits}) else none
  | .offerFull _ _ | .offerThrows _ _ =>
      if s.Usable none then some (.commit {point | (point.1, point.2 + 1) ∈ s.commits}) else none
  | _ => none

theorem ledger_commitOffsets (self : Option Nat) : (s.commitOffsets self).ledger =
    if s.Usable self then s.ledger.enter (.commit {point | (point.1, point.2 + 1) ∈ s.commits})
    else s.ledger := by
  simp only [commitOffsets]
  split
  · simp only [ledger, Ledger.enter, Finished, List.mem_append, Ledger.mk.injEq, true_and]
    rfl
  · rfl

theorem ledger_finish (records : List ConsumerRecord) (outcome : Outcome) :
    (s.finish records outcome).ledger = s.ledger.enter (.finish {r | r ∈ records}) := by
  have grown : {r | (s.finish records outcome).Finished r} = s.ledger.finished ∪ {r | r ∈ records} :=
    Set.ext (finish_finished records outcome)
  exact congrArg (fun finished => Ledger.mk s.ledger.delivered finished s.ledger.acked s.ledger.committed) grown

theorem ledger_offer (record : ConsumerRecord) :
    (s.offer record).ledger = s.ledger.enter (.ack {r | r ∈ [record]}) := by
  have grown : {r | r ∈ s.acked ++ [record]} = s.ledger.acked ∪ {r | r ∈ [record]} :=
    Set.ext fun _ => List.mem_append
  exact congrArg (fun acked => Ledger.mk s.ledger.delivered s.ledger.finished acked s.ledger.committed) grown

theorem ledger_deliver (records : List ConsumerRecord) :
    (s.deliver records).ledger = s.ledger.enter (.deliver {r | r ∈ records}) := by
  have grown : {r | r ∈ s.delivered ++ records} = s.ledger.delivered ∪ {r | r ∈ records} :=
    Set.ext fun _ => List.mem_append
  exact congrArg (fun delivered => Ledger.mk delivered s.ledger.finished s.ledger.acked s.ledger.committed) grown

theorem ledger_setClosing (actor : Actor) (pc : ClosePc) : (s.setClosing actor pc).ledger = s.ledger := by
  cases actor <;> rfl

theorem ledger_endClosing (thrown : Bool) (actor : Actor) :
    (s.endClosing thrown actor).ledger = s.ledger := by
  cases actor <;> rfl

theorem ledger_effect (a : Action) : (Kafka.effect s a).ledger = (s.entry a).elim s.ledger s.ledger.enter := by
  cases a with
  | pollReturns t c records => exact ledger_deliver (s := s) records
  | listenBatch t records outcome => exact ledger_finish (s := s) records outcome
  | listen j task outcome => exact ledger_finish (s := s) [task.record] outcome
  | ackBatch t record rest => exact ledger_offer (s := s) record
  | offer j task => exact ledger_offer (s := s) task.record
  | ackBatchFull t | ackBatchThrows t | commit t | commitThrows t | rebalance t =>
    apply (ledger_commitOffsets (s := s) (some t)).trans
    simp only [entry]
    split <;> rfl
  | offerFull | offerThrows =>
    apply (ledger_commitOffsets (s := s) none).trans
    simp only [entry]
    split <;> rfl
  | closeConsumer | wakeupConsumer | shutdownPool | poolTerminated | shutdownNow =>
    exact ledger_setClosing _ _
  | closeThrows | closeNull | executorsModified | clearExecutors => exact ledger_endClosing _ _
  | dataChange | shutdown =>
    simp only [Kafka.effect]
    repeat' split
    all_goals rfl
  | _ => rfl

theorem mem_delivered_effect {a : Action} {r : ConsumerRecord}
    (delivered : r ∈ (Kafka.effect s a).delivered) :
    r ∈ s.delivered ∨ ∃ t c records, a = .pollReturns t c records ∧ r ∈ records := by
  have booked : r ∈ (Kafka.effect s a).ledger.delivered := delivered
  rw [ledger_effect] at booked
  cases a with
  | pollReturns t c records =>
    exact booked.imp_right fun new => ⟨t, c, records, rfl, new⟩
  | ackBatchFull | ackBatchThrows | commit | commitThrows | rebalance | offerFull | offerThrows =>
    simp only [entry] at booked
    split at booked <;> exact Or.inl booked
  | _ => exact Or.inl booked

theorem finished_of_effect {a : Action} {r : ConsumerRecord} (finished : (Kafka.effect s a).Finished r) :
    s.Finished r ∨ (∃ j task outcome, a = .listen j task outcome ∧ r = task.record) ∨
      ∃ t records outcome, a = .listenBatch t records outcome ∧ r ∈ records := by
  have booked : r ∈ (Kafka.effect s a).ledger.finished := finished
  rw [ledger_effect] at booked
  cases a with
  | listen j task outcome =>
    exact booked.imp_right fun new => Or.inl ⟨j, task, outcome, rfl, List.mem_singleton.mp new⟩
  | listenBatch t records outcome =>
    exact booked.imp_right fun new => Or.inr ⟨t, records, outcome, rfl, new⟩
  | ackBatchFull | ackBatchThrows | commit | commitThrows | rebalance | offerFull | offerThrows =>
    simp only [entry] at booked
    split at booked <;> exact Or.inl booked
  | _ => exact Or.inl booked

theorem acked_effect {r : ConsumerRecord} (acked : r ∈ s.acked) (a : Action) :
    r ∈ (Kafka.effect s a).acked := by
  have booked : r ∈ (Kafka.effect s a).ledger.acked := by
    rw [ledger_effect]
    cases s.entry a with
    | none => exact acked
    | some entry => exact Ledger.acked_enter entry acked
  exact booked

theorem Finished.effect {r : ConsumerRecord} (finished : s.Finished r) (a : Action) :
    (Kafka.effect s a).Finished r := by
  have booked : r ∈ (Kafka.effect s a).ledger.finished := by
    rw [ledger_effect]
    cases s.entry a with
    | none => exact finished
    | some entry => exact Ledger.finished_enter entry finished
  exact booked

theorem Traced.admits {config : Config} {a : Action} (kept : s.Traced) (enabled : Enabled config s a)
    {entry : Entry ConsumerRecord TopicPartition Nat} (books : s.entry a = some entry) :
    s.ledger.Admits place entry := by
  have commit : ∀ self, s.Usable self →
      s.ledger.Admits place (.commit {point | (point.1, point.2 + 1) ∈ s.commits}) := by
    rintro self - ⟨topicPartition, offset⟩ member
    obtain ⟨r, waiting, same⟩ := mem_commits kept member
    simp only [Prod.mk.injEq, Nat.add_right_cancel_iff] at same
    exact ⟨r, kept.acks r waiting, by rw [same.1, same.2]; rfl⟩
  cases a with
  | pollReturns t c records =>
    cases books
    trivial
  | listenBatch t records outcome =>
    cases books
    intro r member
    apply (kept.pcs t).1 r
    rw [show (s.threads t).pc = _ from enabled]
    exact member
  | listen j task outcome =>
    cases books
    intro r member
    rw [List.mem_singleton.mp member]
    exact kept.tasks task (List.mem_of_getElem? enabled.1)
  | ackBatch t record rest =>
    cases books
    intro r member
    apply (kept.pcs t).2 r
    rw [enabled.1, List.mem_singleton.mp member]
    exact List.mem_cons_self
  | offer j task =>
    cases books
    intro r member
    rw [List.mem_singleton.mp member]
    exact kept.offering task (List.mem_of_getElem? enabled.1.1) enabled.1.2
  | commit | commitThrows | ackBatchFull | ackBatchThrows | rebalance | offerFull | offerThrows =>
    simp only [State.entry] at books
    split at books
    · next usable =>
      cases books
      exact commit _ usable
    · cases books
  | _ => cases books

end State

open State

/-- Every run of the machine is a run of the ledger. -/
theorem ledger_simulation (config : Config) : Guarded.Simulation (machine config) (Ledger.book place)
    (fun s ledger => ledger = s.ledger ∧ s.Traced) where
  init := by
    rintro _ ⟨bindingTopic, rfl⟩
    exact ⟨_, ledger_initial bindingTopic, rfl, traced_initial bindingTopic⟩
  step := by
    rintro s _ a ⟨rfl, traced⟩ enabled
    refine ⟨(effect s a).ledger, ?_, rfl, traced.effect enabled⟩
    rw [ledger_effect]
    cases books : s.entry a with
    | none => exact .refl _
    | some entry => exact .one (traced.admits enabled books)

theorem sound_of_reachable (config : Config) {s : State} (reached : (machine config).Reachable s) :
    s.ledger.Sound place := by
  obtain ⟨_, reachedLedger, rfl, -⟩ := (ledger_simulation config).reachable reached
  exact Ledger.sound_of_reachable reachedLedger

end Zms.Client.Consumer.Kafka
