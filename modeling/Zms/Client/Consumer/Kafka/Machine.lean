import Mathlib
import Zms.Client.Consumer.Kafka.Executor
import Zms.Client.Listener
import Zms.Transition.Guarded

/-! `KafkaConsumerProxy` as a transition system: its poll threads, the workers
of its executors, the rebalance callback, and the control thread that runs
`start`, `handleDataChange`, `restart` and `shutdown`.

The fields `running`, `consumer`, `executors`, `acks` and `offsets` belong to
the proxy and are shared; a poll thread that outlives its `shutdown` goes on
with whatever they hold by then. Consumers, pools, tasks and latches are named
by number. The last block of the state is history that no step reads.
-/

set_option autoImplicit false

namespace Zms.Client.Consumer.Kafka

open Zms.Transition

/-- Where `consumerShutdown` stands: `next` and `await` hold the list
iterator's cursor and the modification count it expects. -/
inductive ClosePc where
  | close
  | next (cursor expected : Nat)
  | await (cursor expected pool : Nat)
  deriving DecidableEq, Repr

inductive PollPc where
  | loop
  | polling (consumer : Nat)
  | polled (records : List ConsumerRecord)
  | submitting (batch : Nat) (rest : List ConsumerRecord)
  | awaiting (batch : Nat)
  | listening (records : List ConsumerRecord)
  | acking (rest : List ConsumerRecord)
  | committing
  | exiting
  | closing (pc : ClosePc)
  | terminated
  deriving DecidableEq, Repr

/-- A poll thread with the latch and the error its `register` waits for. -/
structure PollThread where
  pc : PollPc
  opened : Bool
  err : Bool
  deriving DecidableEq, Repr

/-- The control thread: in `consumerShutdown` (`restart` says whether `start`
follows), then in `start`: before it, adding executors, creating the consumer,
before `running = true`, in `register`. -/
inductive ControlPc where
  | idle
  | closing (restart : Bool) (pc : ClosePc)
  | sleeping
  | adding (rest : List ThreadPoolExecutor)
  | registering
  | spawning
  | awaiting (thread : Nat)
  deriving DecidableEq, Repr

/-- `start` may throw here: in `consumerStart`, in the registration with
ZooKeeper, or interrupted while it waits for the poll thread. -/
def ControlPc.canFail : ControlPc → Bool
  | .sleeping | .adding _ | .registering | .awaiting _ => true
  | .idle | .closing _ _ | .spawning => false

structure State where
  bindingTopic : Option String
  running : Bool
  consumer : Option Nat
  consumers : Nat
  closed : Nat → Bool
  executors : List Nat
  modCount : Nat
  pools : Nat → ThreadPoolExecutor
  poolCount : Nat
  tasks : List Task
  latch : Nat → Nat
  batches : Nat
  acks : List ConsumerRecord
  offsets : Offsets
  threads : Nat → PollThread
  threadCount : Nat
  control : ControlPc
  /-- The last `start` returned normally and no `shutdown` was called since. -/
  started : Bool
  /-- Every record any poll returned. -/
  delivered : List ConsumerRecord
  /-- Every finished call of the listener. -/
  finished : List (ConsumerRecord × Outcome)
  /-- Every record that entered `acks`. -/
  acked : List ConsumerRecord
  /-- Every offset handed to `commitAsync`. -/
  committed : List (TopicPartition × Nat)

/-- The constructor, up to its call of `start`. -/
def initial (bindingTopic : Option String) : State where
  bindingTopic := bindingTopic
  running := false
  consumer := none
  consumers := 0
  closed := fun _ => false
  executors := []
  modCount := 0
  pools := fun _ => .new 0 0 0
  poolCount := 0
  tasks := []
  latch := fun _ => 0
  batches := 0
  acks := []
  offsets := []
  threads := fun _ => ⟨.terminated, true, false⟩
  threadCount := 0
  control := .sleeping
  started := false
  delivered := []
  finished := []
  acked := []
  committed := []

/-- Who runs `consumerShutdown`. -/
inductive Actor where
  | control (restart : Bool)
  | poll (thread : Nat)
  deriving DecidableEq, Repr

def Actor.thread : Actor → Option Nat
  | .control _ => none
  | .poll thread => some thread

namespace State

def setPc (s : State) (t : Nat) (pc : PollPc) : State :=
  { s with threads := Function.update s.threads t { s.threads t with pc := pc } }

/-- The `finally` block counts the start latch down, with `err` set or not. -/
def leave (s : State) (t : Nat) (err : Bool) : State :=
  { s with threads := Function.update s.threads t ⟨.exiting, true, err⟩ }

/-- The first round of the loop opens the start latch. -/
def reloop (s : State) (t : Nat) : State :=
  { s with threads := Function.update s.threads t { s.threads t with pc := .loop, opened := true } }

def deliver (s : State) (records : List ConsumerRecord) : State :=
  { s with delivered := s.delivered ++ records }

def newLatch (s : State) (count : Nat) : State :=
  { s with latch := Function.update s.latch s.batches count, batches := s.batches + 1 }

def submit (s : State) (task : Task) : State := { s with tasks := s.tasks ++ [task] }

def setStage (s : State) (j : Nat) (task : Task) (stage : Stage) : State :=
  { s with tasks := s.tasks.set j { task with stage := stage } }

def setPool (s : State) (p : Nat) (pool : ThreadPoolExecutor) : State :=
  { s with pools := Function.update s.pools p pool }

/-- Another poll thread is inside `poll` of the consumer, which refuses every
other caller then. -/
def Held (s : State) (self : Option Nat) (consumer : Nat) : Prop :=
  ∃ t, t < s.threadCount ∧ some t ≠ self ∧ (s.threads t).pc = .polling consumer

instance (s : State) (self : Option Nat) (consumer : Nat) : Decidable (s.Held self consumer) :=
  inferInstanceAs (Decidable (∃ t, t < s.threadCount ∧ _))

def Open (s : State) : Prop := ∃ c ∈ s.consumer, s.closed c = false

instance (s : State) : Decidable s.Open :=
  match found : s.consumer with
  | none => .isFalse (by simp [Open, found])
  | some c => decidable_of_iff (s.closed c = false) (by simp [Open, found])

/-- The current consumer takes a call of the thread. -/
def Usable (s : State) (self : Option Nat) : Prop :=
  ∃ c ∈ s.consumer, s.closed c = false ∧ ¬ s.Held self c

instance (s : State) (self : Option Nat) : Decidable (s.Usable self) :=
  match found : s.consumer with
  | none => .isFalse (by simp [Usable, found])
  | some c => decidable_of_iff (s.closed c = false ∧ ¬ s.Held self c) (by simp [Usable, found])

def commits (s : State) : List (TopicPartition × Nat) := buildCommits (handleAcks s.acks s.offsets)

/-- `commitAsync` is called, unless there is nothing to commit, and throws. -/
def CommitThrows (s : State) (self : Option Nat) : Prop := s.commits ≠ [] ∧ ¬ s.Usable self

instance (s : State) (self : Option Nat) : Decidable (s.CommitThrows self) :=
  inferInstanceAs (Decidable (_ ∧ _))

/-- `commitOffsets`: what it drained is gone even when `commitAsync` throws. -/
def commitOffsets (s : State) (self : Option Nat) : State :=
  { s with
    acks := []
    offsets := []
    committed := if s.Usable self then s.committed ++ s.commits else s.committed }

def offer (s : State) (record : ConsumerRecord) : State :=
  { s with acks := s.acks ++ [record], acked := s.acked ++ [record] }

def finish (s : State) (records : List ConsumerRecord) (outcome : Outcome) : State :=
  { s with finished := s.finished ++ records.map fun record => (record, outcome) }

def dropQueued (s : State) (p : Nat) : State :=
  { s with tasks := s.tasks.map fun task =>
      if task.pool = p ∧ task.stage = .queued then { task with stage := .dropped } else task }

def queuedIn (s : State) (p : Nat) : Nat :=
  s.tasks.countP fun task => task.pool = p ∧ task.stage = .queued

def busyIn (s : State) (p : Nat) : Nat := s.tasks.countP fun task => task.pool = p ∧ task.stage.busy

/-- The actor's position in `consumerShutdown`. -/
def ClosingAt (s : State) : Actor → ClosePc → Prop
  | .control restart, pc => s.control = .closing restart pc
  | .poll t, pc => (s.threads t).pc = .closing pc

instance (s : State) : (actor : Actor) → (pc : ClosePc) → Decidable (s.ClosingAt actor pc)
  | .control restart, pc => inferInstanceAs (Decidable (s.control = .closing restart pc))
  | .poll t, pc => inferInstanceAs (Decidable ((s.threads t).pc = .closing pc))

def setClosing (s : State) : Actor → ClosePc → State
  | .control restart, pc => { s with control := .closing restart pc }
  | .poll t, pc => s.setPc t (.closing pc)

/-- `consumerShutdown` has returned, or thrown, to its caller. -/
def endClosing (s : State) (thrown : Bool) : Actor → State
  | .control restart => { s with control := if restart && !thrown then .sleeping else .idle }
  | .poll t => s.setPc t .terminated

end State

inductive Action where
  -- the loop of a poll thread
  | enterPoll (t consumer : Nat)
  | pollRefused (t consumer : Nat)
  | leaveLoop (t : Nat)
  | pollReturns (t consumer : Nat) (records : List ConsumerRecord)
  | pollThrows (t consumer : Nat)
  | skipEmpty (t : Nat)
  | submitRecords (t : Nat) (records : List ConsumerRecord) (topic : String)
  | submitBatchRecords (t : Nat) (records : List ConsumerRecord) (topic : String)
  | noTopic (t : Nat) (records : List ConsumerRecord)
  | execute (t batch : Nat) (record : ConsumerRecord) (rest : List ConsumerRecord) (p : Nat)
      (stage : Stage) (pool : ThreadPoolExecutor)
  | noExecutors (t batch : Nat) (rest : List ConsumerRecord)
  | await (t batch : Nat)
  | latchOpen (t batch : Nat)
  | awaitInterrupted (t batch : Nat)
  | listenBatch (t : Nat) (records : List ConsumerRecord) (outcome : Outcome)
  | ackBatch (t : Nat) (record : ConsumerRecord) (rest : List ConsumerRecord)
  | ackBatchFull (t : Nat) (rest : List ConsumerRecord)
  | ackBatchThrows (t : Nat) (rest : List ConsumerRecord)
  | ackBatchDone (t : Nat)
  | commit (t : Nat)
  | commitThrows (t : Nat)
  | setNotRunning (t : Nat)
  -- `consumerShutdown`, by the control thread, in its `shutdown`, or a leaving poll thread
  | unregisterThrows (restart : Bool)
  | closeConsumer (actor : Actor) (consumer : Nat)
  | wakeupConsumer (actor : Actor) (consumer : Nat)
  | closeThrows (actor : Actor) (consumer : Nat)
  | closeNull (actor : Actor)
  | shutdownPool (actor : Actor) (cursor expected p : Nat)
  | executorsModified (actor : Actor) (cursor expected : Nat)
  | poolTerminated (actor : Actor) (cursor expected p : Nat)
  | shutdownNow (actor : Actor) (cursor expected p : Nat)
  | clearExecutors (actor : Actor) (expected : Nat)
  -- workers
  | take (j : Nat) (task : Task)
  | listen (j : Nat) (task : Task) (outcome : Outcome)
  | offer (j : Nat) (task : Task)
  | offerFull (j : Nat) (task : Task)
  | offerThrows (j : Nat) (task : Task)
  | countDown (j : Nat) (task : Task)
  | retireWorker (p : Nat)
  | rebalance (t : Nat)
  -- control thread
  | dataChange (bindingTopic : Option String) (restart : Bool)
  | shutdown
  | startIgnored
  | consumerStart (pools : List ThreadPoolExecutor)
  | addExecutor (pool : ThreadPoolExecutor) (rest : List ThreadPoolExecutor)
  | newConsumer
  | setRunning
  | spawn
  | startFails
  | startReturns (t : Nat)
  | startThrows (t : Nat)

def State.TaskAt (s : State) (j : Nat) (task : Task) (stage : Stage) : Prop :=
  s.tasks[j]? = some task ∧ task.stage = stage

instance (s : State) (j : Nat) (task : Task) (stage : Stage) : Decidable (s.TaskAt j task stage) :=
  inferInstanceAs (Decidable (_ ∧ _))

def Enabled (config : Config) (s : State) : Action → Prop
  | .enterPoll t c => (s.threads t).pc = .loop ∧ s.running = true ∧ s.consumer = some c ∧
      s.closed c = false ∧ ¬ s.Held (some t) c
  | .pollRefused t c => (s.threads t).pc = .loop ∧ s.running = true ∧ s.consumer = some c ∧
      (s.closed c = true ∨ s.Held (some t) c)
  | .leaveLoop t => (s.threads t).pc = .loop ∧ s.running = false
  | .pollReturns t c _ => (s.threads t).pc = .polling c
  | .pollThrows t c => (s.threads t).pc = .polling c
  | .skipEmpty t => (s.threads t).pc = .polled []
  | .submitRecords t records topic => (s.threads t).pc = .polled records ∧ records ≠ [] ∧
      config.batchListener = false ∧ s.bindingTopic = some topic
  | .submitBatchRecords t records topic => (s.threads t).pc = .polled records ∧ records ≠ [] ∧
      config.batchListener = true ∧ s.bindingTopic = some topic
  | .noTopic t records => (s.threads t).pc = .polled records ∧ records ≠ [] ∧ s.bindingTopic = none
  | .execute t batch record rest p stage pool =>
      (s.threads t).pc = .submitting batch (record :: rest) ∧
      s.executors[record.partition % s.executors.length]? = some p ∧
      (s.pools p).execute (s.queuedIn p) = some (stage, pool)
  | .noExecutors t batch rest => (s.threads t).pc = .submitting batch rest ∧ rest ≠ [] ∧
      s.executors = []
  | .await t batch => (s.threads t).pc = .submitting batch []
  | .latchOpen t batch => (s.threads t).pc = .awaiting batch ∧ s.latch batch = 0
  | .awaitInterrupted t batch => (s.threads t).pc = .awaiting batch
  | .listenBatch t records _ => (s.threads t).pc = .listening records
  | .ackBatch t record rest => (s.threads t).pc = .acking (record :: rest) ∧
      s.acks.length < acksCapacity
  | .ackBatchFull t rest => (s.threads t).pc = .acking rest ∧ rest ≠ [] ∧
      ¬ s.acks.length < acksCapacity ∧ ¬ s.CommitThrows (some t)
  | .ackBatchThrows t rest => (s.threads t).pc = .acking rest ∧ rest ≠ [] ∧
      ¬ s.acks.length < acksCapacity ∧ s.CommitThrows (some t)
  | .ackBatchDone t => (s.threads t).pc = .acking []
  | .commit t => (s.threads t).pc = .committing ∧ ¬ s.CommitThrows (some t)
  | .commitThrows t => (s.threads t).pc = .committing ∧ s.CommitThrows (some t)
  | .setNotRunning t => (s.threads t).pc = .exiting
  | .unregisterThrows restart => s.ClosingAt (.control restart) .close
  | .closeConsumer actor c | .closeThrows actor c => s.ClosingAt actor .close ∧ s.consumer = some c ∧
      ¬ s.Held actor.thread c
  | .wakeupConsumer actor c => s.ClosingAt actor .close ∧ s.consumer = some c ∧ s.Held actor.thread c
  | .closeNull actor => s.ClosingAt actor .close ∧ s.consumer = none
  | .shutdownPool actor cursor expected p => s.ClosingAt actor (.next cursor expected) ∧
      s.modCount = expected ∧ s.executors[cursor]? = some p
  | .executorsModified actor cursor expected => s.ClosingAt actor (.next cursor expected) ∧
      cursor ≠ s.executors.length ∧ s.modCount ≠ expected
  | .poolTerminated actor cursor expected p => s.ClosingAt actor (.await cursor expected p) ∧
      s.queuedIn p = 0 ∧ s.busyIn p = 0
  | .shutdownNow actor cursor expected p => s.ClosingAt actor (.await cursor expected p)
  | .clearExecutors actor expected => s.ClosingAt actor (.next s.executors.length expected)
  -- the queue of a pool is first in, first out
  | .take j task => s.TaskAt j task .queued ∧ (s.pools task.pool).phase ≠ .stop ∧
      s.busyIn task.pool < (s.pools task.pool).workers ∧
      ∀ earlier ∈ s.tasks.take j, ¬ (earlier.pool = task.pool ∧ earlier.stage = .queued)
  | .listen j task _ => s.TaskAt j task .listening
  | .offer j task => s.TaskAt j task .offering ∧ s.acks.length < acksCapacity
  | .offerFull j task => s.TaskAt j task .offering ∧ ¬ s.acks.length < acksCapacity ∧
      ¬ s.CommitThrows none
  | .offerThrows j task => s.TaskAt j task .offering ∧ ¬ s.acks.length < acksCapacity ∧
      s.CommitThrows none
  | .countDown j task => s.TaskAt j task .counting
  -- an idle worker beyond the core, or of a pool that shuts down
  | .retireWorker p => s.queuedIn p = 0 ∧ s.busyIn p < (s.pools p).workers ∧
      ((s.pools p).corePoolSize < (s.pools p).workers ∨ (s.pools p).phase ≠ .running)
  | .rebalance t => t < s.threadCount
  | .dataChange bindingTopic restart => s.control = .idle ∧
      (bindingTopic ≠ s.bindingTopic → restart = true)
  | .shutdown => s.control = .idle
  | .startIgnored => s.control = .sleeping ∧ s.running = true
  | .consumerStart pools => s.control = .sleeping ∧ s.running = false ∧
      config.executors = some pools
  | .addExecutor pool rest => s.control = .adding (pool :: rest)
  | .newConsumer => s.control = .adding []
  | .setRunning => s.control = .registering
  | .spawn => s.control = .spawning
  | .startFails => s.control.canFail = true
  | .startReturns t => s.control = .awaiting t ∧ (s.threads t).opened = true ∧
      (s.threads t).err = false
  | .startThrows t => s.control = .awaiting t ∧ (s.threads t).opened = true ∧ (s.threads t).err = true

def effect (s : State) : Action → State
  | .enterPoll t c => s.setPc t (.polling c)
  -- any throw ends the loop: `catch` keeps the error, `finally` cleans up
  | .pollRefused t _ => s.leave t true
  | .leaveLoop t => s.leave t false
  | .pollReturns t _ records => (s.deliver records).setPc t (.polled records)
  | .pollThrows t _ => s.leave t true
  | .skipEmpty t => s.setPc t .committing
  -- the latch counts every polled record, the loop submits those of the topic
  | .submitRecords t records topic =>
      (s.newLatch records.length).setPc t
        (.submitting s.batches (records.filter fun record => record.topic = topic))
  | .submitBatchRecords t records topic =>
      s.setPc t (.listening (records.filter fun record => record.topic = topic))
  | .noTopic t _ => s.leave t true
  | .execute t batch record rest p stage pool =>
      ((s.setPool p pool).submit ⟨record, batch, p, stage⟩).setPc t (.submitting batch rest)
  | .noExecutors t _ _ => s.leave t true
  | .await t batch => s.setPc t (.awaiting batch)
  | .latchOpen t _ => s.setPc t .committing
  -- the interruption is only logged, so the round goes on to its commit
  | .awaitInterrupted t _ => s.setPc t .committing
  | .listenBatch t records outcome => (s.finish records outcome).setPc t (.acking records)
  | .ackBatch t record rest => (s.offer record).setPc t (.acking rest)
  -- the offer is tried again, with room in the queue
  | .ackBatchFull t _ => s.commitOffsets (some t)
  | .ackBatchThrows t _ => (s.commitOffsets (some t)).leave t true
  | .ackBatchDone t => s.setPc t .committing
  | .commit t => (s.commitOffsets (some t)).reloop t
  | .commitThrows t => (s.commitOffsets (some t)).leave t true
  | .setNotRunning t => ({ s with running := false } : State).setPc t (.closing .close)
  | .unregisterThrows restart => s.endClosing true (.control restart)
  | .closeConsumer actor c =>
      ({ s with closed := Function.update s.closed c true } : State).setClosing actor (.next 0 s.modCount)
  -- `wakeup` only makes the poll throw, which a poll may do at any time here
  | .wakeupConsumer actor _ => s.setClosing actor (.next 0 s.modCount)
  -- the consumer is closed even when its `close` throws
  | .closeThrows actor c =>
      ({ s with closed := Function.update s.closed c true } : State).endClosing true actor
  -- a null pointer
  | .closeNull actor => s.endClosing true actor
  | .shutdownPool actor cursor expected p =>
      (s.setPool p (s.pools p).shutdown).setClosing actor (.await (cursor + 1) expected p)
  -- a `ConcurrentModificationException` of the iterator
  | .executorsModified actor _ _ => s.endClosing true actor
  | .poolTerminated actor cursor expected _ => s.setClosing actor (.next cursor expected)
  -- a task in a worker runs on, whatever it makes of its interruption
  | .shutdownNow actor cursor expected p =>
      ((s.setPool p (s.pools p).shutdownNow).dropQueued p).setClosing actor (.next cursor expected)
  | .clearExecutors actor _ =>
      ({ s with executors := [], modCount := s.modCount + 1 } : State).endClosing false actor
  | .take j task => s.setStage j task .listening
  | .listen j task outcome => (s.finish [task.record] outcome).setStage j task .offering
  | .offer j task => (s.offer task.record).setStage j task .counting
  | .offerFull _ _ => s.commitOffsets none
  | .offerThrows j task => (s.commitOffsets none).setStage j task .failed
  | .countDown j task =>
      ({ s with latch := Function.update s.latch task.batch (s.latch task.batch - 1) } : State).setStage
        j task .done
  | .retireWorker p => s.setPool p { s.pools p with workers := (s.pools p).workers - 1 }
  -- the coordinator logs what its listener throws
  | .rebalance t => s.commitOffsets (some t)
  -- the `shutdown` of a proxy that is not running does nothing, and `start` follows
  | .dataChange bindingTopic restart =>
      if !restart then { s with bindingTopic := bindingTopic }
      else if s.running then
        { s with bindingTopic := bindingTopic, running := false, started := false,
                 control := .closing true .close }
      else { s with bindingTopic := bindingTopic, started := false, control := .sleeping }
  | .shutdown =>
      if s.running then { s with running := false, started := false, control := .closing false .close }
      else { s with started := false }
  | .startIgnored => { s with control := .idle, started := true }
  | .consumerStart pools => { s with control := .adding pools }
  | .addExecutor pool rest =>
      { s.setPool s.poolCount pool with
        poolCount := s.poolCount + 1
        executors := s.executors ++ [s.poolCount]
        modCount := s.modCount + 1
        control := .adding rest }
  | .newConsumer =>
      { s with consumer := some s.consumers, consumers := s.consumers + 1, control := .registering }
  | .setRunning => { s with running := true, control := .spawning }
  | .spawn =>
      { s with
        threads := Function.update s.threads s.threadCount ⟨.loop, false, false⟩
        threadCount := s.threadCount + 1
        control := .awaiting s.threadCount }
  | .startFails => { s with control := .idle }
  | .startReturns _ => { s with control := .idle, started := true }
  | .startThrows _ => { s with control := .idle }

instance (config : Config) (s : State) (a : Action) : Decidable (Enabled config s a) := by
  apply Action.casesOn (motive := fun a => Decidable (Enabled config s a)) a <;> intros <;>
    dsimp only [Enabled] <;> infer_instance

def machine (config : Config) : Guarded State Action where
  init s := ∃ bindingTopic, s = initial bindingTopic
  guard := Enabled config
  effect := effect

instance (config : Config) (s : State) (a : Action) : Decidable ((machine config).guard s a) :=
  inferInstanceAs (Decidable (Enabled config s a))

end Zms.Client.Consumer.Kafka
