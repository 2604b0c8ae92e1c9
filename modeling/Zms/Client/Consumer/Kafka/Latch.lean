import Zms.Client.Consumer.Kafka.AtLeastOnce

/-! The balance between a batch's latch and the tasks that count it down.

The latch is sized from the whole poll result. It can open as long as every
polled record becomes a task and no task is dropped or fails.
-/

set_option autoImplicit false

namespace Zms.Client.Consumer.Kafka

open Zms.Transition

/-- The batch a poll thread counts for, with the tasks it has yet to submit. -/
def PollPc.owes : PollPc → Option (Nat × Nat)
  | .submitting batch rest => some (batch, rest.length)
  | .awaiting batch => some (batch, 0)
  | .loop | .polling _ | .polled _ | .listening _ | .acking _ | .committing | .exiting | .closing _
  | .terminated => none

/-- How many steps a task is from its end. -/
def Stage.todo : Stage → Nat
  | .queued => 4
  | .listening => 3
  | .offering => 2
  | .counting => 1
  | .done | .dropped | .failed => 0

/-- The task has yet to offer its record to `acks`. -/
def Stage.unoffered : Stage → Bool
  | .queued | .listening | .offering => true
  | .counting | .done | .dropped | .failed => false

namespace State

/-- The tasks of the batch that are queued or running in a pool whose queue was not dropped. -/
def live (s : State) (batch : Nat) : Nat :=
  s.tasks.countP fun task =>
    task.batch = batch && (task.stage.live && (s.pools task.pool).phase != .stop)

/-- Every poll thread that waits on a latch is matched by that many live tasks. -/
def Balanced (s : State) : Prop :=
  ∀ t batch, (s.threads t).pc = .awaiting batch → 0 < s.latch batch → s.live batch = s.latch batch

def toOffer (s : State) : Nat := s.tasks.countP fun task => task.stage.unoffered

/-- The workers need no commit for their records, or the consumer takes it. -/
def Drains (s : State) : Prop := s.Open ∨ s.acks.length + s.toOffer ≤ acksCapacity

/-- Every latch a poll thread waits on can open, if the workers can get their records into `acks`. -/
def CanOpen (config : Config) (s : State) : Prop :=
  ∀ t batch, (s.threads t).pc = .awaiting batch → s.Drains →
    ∃ u, (machine config).Steps s u ∧ u.latch batch = 0

/-- A poll returns records of the current binding topic, `shutdownNow` meets no
live task, and no worker's `commitOffsets` throws. -/
def Lossless (s : State) : Action → Prop
  | .submitRecords _ records topic => ∀ r ∈ records, r.topic = topic
  | .shutdownNow _ _ _ p => ∀ task ∈ s.tasks, task.pool = p → task.stage.live = false
  | .offerThrows _ _ => False
  | _ => True

instance (s : State) (a : Action) : Decidable (s.Lossless a) := by
  apply Action.casesOn (motive := fun a => Decidable (s.Lossless a)) a <;> intros <;>
    dsimp only [Lossless] <;> infer_instance

def count (s : State) (batch : Nat) : Nat :=
  s.tasks.countP fun task => task.batch = batch && task.stage.live

structure Counted (s : State) : Prop where
  batches : ∀ task ∈ s.tasks, task.batch < s.batches
  owes : ∀ t batch n, (s.threads t).pc.owes = some (batch, n) →
    batch < s.batches ∧ s.latch batch = s.count batch + n
  owner : ∀ t u batch n m, (s.threads t).pc.owes = some (batch, n) →
    (s.threads u).pc.owes = some (batch, m) → t = u

/-- Live tasks stand in pools that still work. -/
structure Pooled (s : State) : Prop where
  executors : ∀ p ∈ s.executors, p < s.poolCount
  pools : ∀ task ∈ s.tasks, task.pool < s.poolCount
  working : ∀ task ∈ s.tasks, task.stage.live = true → (s.pools task.pool).phase ≠ .stop
  manned : ∀ task ∈ s.tasks, task.stage = .queued → 0 < (s.pools task.pool).workers

variable {s : State}

theorem Pooled.live_eq_count (pooled : s.Pooled) (batch : Nat) : s.live batch = s.count batch := by
  apply List.countP_congr
  intro task member
  simp only [Bool.and_eq_true, decide_eq_true_eq, bne_iff_ne, and_congr_right_iff]
  exact fun _ => ⟨fun both => both.1, fun live => ⟨live, pooled.working task member live⟩⟩

theorem Counted.balanced (counted : s.Counted) (pooled : s.Pooled) : s.Balanced := by
  intro t batch waits _
  rw [pooled.live_eq_count]
  exact ((counted.owes t batch 0 (by rw [waits]; rfl)).2).symm

theorem countP_setStage (p : Task → Bool) {j : Nat} {task : Task} {before : Stage}
    (found : s.TaskAt j task before) (stage : Stage) :
    (s.setStage j task stage).tasks.countP p + (if p task then 1 else 0) =
      s.tasks.countP p + (if p { task with stage := stage } then 1 else 0) := by
  obtain ⟨bound, same⟩ := List.getElem?_eq_some_iff.mp found.1
  have counts : s.tasks.countP p ≥ if p task then 1 else 0 := by
    split
    · next holds => exact List.countP_pos_iff.mpr ⟨task, List.mem_of_getElem? found.1, holds⟩
    · exact Nat.zero_le _
  have changed := List.countP_set (p := p) (a := { task with stage := stage }) bound
  rw [same] at changed
  simp only [setStage]
  omega

theorem count_setStage {j : Nat} {task : Task} {before : Stage} (found : s.TaskAt j task before)
    (stage : Stage) (batch : Nat) :
    (s.setStage j task stage).count batch + (if task.batch = batch ∧ before.live then 1 else 0) =
      s.count batch + (if task.batch = batch ∧ stage.live then 1 else 0) := by
  have changed := countP_setStage (fun task => task.batch = batch && task.stage.live) found stage
  simp only [found.2, Bool.and_eq_true, decide_eq_true_eq] at changed
  exact changed

theorem setStage_mem {j : Nat} {task other : Task} {stage : Stage}
    (member : other ∈ (s.setStage j task stage).tasks) :
    other ∈ s.tasks ∨ other = { task with stage := stage } := List.mem_or_eq_of_mem_set member

theorem dropQueued_of_drained {p : Nat}
    (drained : ∀ task ∈ s.tasks, task.pool = p → task.stage.live = false) : s.dropQueued p = s := by
  have same : s.tasks.map (fun task =>
      if task.pool = p ∧ task.stage = .queued then { task with stage := .dropped } else task) = s.tasks := by
    refine (List.map_congr_left fun task member => ?_).trans (List.map_id _)
    apply if_neg
    intro queued
    have idle := drained task member queued.1
    rw [queued.2] at idle
    cases idle
  simp only [dropQueued, same]

def counters (s : State) : List Task × Nat × (Nat → Nat) × (Nat → PollThread) :=
  (s.tasks, s.batches, s.latch, s.threads)

theorem Counted.frame (counted : s.Counted) {u : State} (counters : u.counters = s.counters) :
    u.Counted := by
  simp only [State.counters, Prod.mk.injEq] at counters
  obtain ⟨tasks, batches, latch, threads⟩ := counters
  refine ⟨?_, ?_, ?_⟩
  · simpa only [tasks, batches] using counted.batches
  · simpa only [threads, batches, latch, count, tasks] using counted.owes
  · simpa only [threads] using counted.owner

theorem Counted.threads (counted : s.Counted) {t : Nat} {thread : PollThread}
    (keeps : ∀ owed, thread.pc.owes = some owed → (s.threads t).pc.owes = some owed) :
    ({ s with threads := Function.update s.threads t thread } : State).Counted := by
  have before : ∀ u owed, (Function.update s.threads t thread u).pc.owes = some owed →
      (s.threads u).pc.owes = some owed := by
    intro u owed now
    by_cases same : u = t
    · subst same
      rw [Function.update_self] at now
      exact keeps owed now
    · rwa [Function.update_of_ne same] at now
  exact ⟨counted.batches, fun u batch n now => counted.owes u batch n (before u _ now),
    fun u v batch n m now too => counted.owner u v batch n m (before u _ now) (before v _ too)⟩

theorem Counted.idle (counted : s.Counted) (t : Nat) (thread : PollThread) (idle : thread.pc.owes = none) :
    ({ s with threads := Function.update s.threads t thread } : State).Counted :=
  counted.threads fun owed now => by rw [idle] at now; cases now

theorem Counted.setClosing (counted : s.Counted) (actor : Actor) (pc : ClosePc) :
    (s.setClosing actor pc).Counted := by
  cases actor with
  | control restart => exact counted.frame rfl
  | poll t => exact counted.idle t _ rfl

theorem Counted.endClosing (counted : s.Counted) (thrown : Bool) (actor : Actor) :
    (s.endClosing thrown actor).Counted := by
  cases actor with
  | control restart => exact counted.frame rfl
  | poll t => exact counted.idle t _ rfl

theorem Counted.setStage (counted : s.Counted) {j : Nat} {task : Task} {before stage : Stage}
    (found : s.TaskAt j task before) (same : stage.live = before.live) :
    (s.setStage j task stage).Counted := by
  refine ⟨fun other member => ?_, fun t batch n now => ?_, counted.owner⟩
  · rcases setStage_mem member with old | rfl
    · exact counted.batches other old
    · exact counted.batches task (List.mem_of_getElem? found.1)
  · have moved := count_setStage found stage batch
    rw [same, Nat.add_right_cancel_iff] at moved
    rw [moved]
    exact counted.owes t batch n now

/-- The latch of a finished task's batch and the count of its live tasks go down together. -/
theorem Counted.countDown (counted : s.Counted) {j : Nat} {task : Task} (found : s.TaskAt j task .counting) :
    (effect s (.countDown j task)).Counted := by
  have member := List.mem_of_getElem? found.1
  refine ⟨fun other inTasks => ?_, fun t batch n now => ?_, counted.owner⟩
  · rcases setStage_mem inTasks with old | rfl
    · exact counted.batches other old
    · exact counted.batches task member
  · obtain ⟨known, balance⟩ := counted.owes t batch n now
    have moved := count_setStage found .done batch
    have counts : (effect s (.countDown j task)).count batch = (s.setStage j task .done).count batch := rfl
    refine ⟨known, ?_⟩
    rw [counts]
    change Function.update s.latch task.batch (s.latch task.batch - 1) batch = _
    by_cases same : batch = task.batch
    · subst same
      rw [Function.update_self]
      simp only [Stage.live, Stage.busy, true_and] at moved
      simp at moved
      omega
    · rw [Function.update_of_ne same]
      simp only [Ne.symm same, false_and, if_false] at moved
      omega

theorem Counted.newLatch (counted : s.Counted) {t : Nat} {records : List ConsumerRecord} :
    ((s.newLatch records.length).setPc t (.submitting s.batches records)).Counted := by
  -- batches are numbered upwards, so no task counts the new latch down yet
  have fresh : s.count s.batches = 0 := by
    apply List.countP_eq_zero.mpr
    intro task member both
    have older := counted.batches task member
    simp only [Bool.and_eq_true, decide_eq_true_eq] at both
    omega
  have others : ∀ u batch n, u ≠ t →
      (((s.newLatch records.length).setPc t (.submitting s.batches records)).threads u).pc.owes =
        some (batch, n) → (s.threads u).pc.owes = some (batch, n) := by
    intro u batch n other now
    rwa [threads_setPc_of_ne other] at now
  have own : ∀ batch n,
      (((s.newLatch records.length).setPc t (.submitting s.batches records)).threads t).pc.owes =
        some (batch, n) → batch = s.batches ∧ n = records.length := by
    intro batch n now
    simp only [pc_setPc_self, PollPc.owes, Option.some.injEq, Prod.mk.injEq] at now
    exact ⟨now.1.symm, now.2.symm⟩
  refine ⟨fun task member => Nat.lt_succ_of_lt (counted.batches task member), fun u batch n now => ?_,
    fun u v batch n m now too => ?_⟩
  · by_cases same : u = t
    · subst same
      obtain ⟨rfl, rfl⟩ := own batch n now
      refine ⟨Nat.lt_succ_self _, ?_⟩
      change Function.update s.latch s.batches records.length s.batches = s.count s.batches + _
      rw [Function.update_self, fresh, Nat.zero_add]
    · obtain ⟨known, balance⟩ := counted.owes u batch n (others u batch n same now)
      refine ⟨Nat.lt_succ_of_lt known, ?_⟩
      change Function.update s.latch s.batches records.length batch = s.count batch + n
      rwa [Function.update_of_ne (Nat.ne_of_lt known)]
  · by_cases same : u = t <;> by_cases sameToo : v = t
    · rw [same, sameToo]
    · have known := (counted.owes v batch m (others v batch m sameToo too)).1
      have := (own batch n (same ▸ now)).1
      omega
    · have known := (counted.owes u batch n (others u batch n same now)).1
      have := (own batch m (sameToo ▸ too)).1
      omega
    · exact counted.owner u v batch n m (others u batch n same now) (others v batch m sameToo too)

theorem Counted.submit (counted : s.Counted) {t : Nat} (task : Task) {rest : List ConsumerRecord}
    (live : task.stage.live = true)
    (submits : (s.threads t).pc.owes = some (task.batch, rest.length + 1)) :
    ((s.submit task).setPc t (.submitting task.batch rest)).Counted := by
  have grown : ∀ batch, (s.submit task).count batch =
      s.count batch + if task.batch = batch then 1 else 0 := by
    intro batch
    simp [count, State.submit, List.countP_append, List.countP_cons, live]
  have before : ∀ u batch n,
      (((s.submit task).setPc t (.submitting task.batch rest)).threads u).pc.owes = some (batch, n) →
      (u = t ∧ batch = task.batch ∧ n = rest.length) ∨
        (u ≠ t ∧ (s.threads u).pc.owes = some (batch, n)) := by
    intro u batch n now
    by_cases same : u = t
    · subst same
      simp only [pc_setPc_self, PollPc.owes, Option.some.injEq, Prod.mk.injEq] at now
      exact Or.inl ⟨rfl, now.1.symm, now.2.symm⟩
    · rw [threads_setPc_of_ne same] at now
      exact Or.inr ⟨same, now⟩
  obtain ⟨known, balance⟩ := counted.owes t _ _ submits
  refine ⟨fun other member => ?_, fun u batch n now => ?_, fun u v batch n m now too => ?_⟩
  · rcases List.mem_append.mp member with old | new
    · exact counted.batches other old
    · rw [List.mem_singleton.mp new]
      exact known
  · have counts : ((s.submit task).setPc t (.submitting task.batch rest)).count batch =
        (s.submit task).count batch := rfl
    rw [counts, grown]
    rcases before u batch n now with ⟨rfl, rfl, rfl⟩ | ⟨other, was⟩
    · refine ⟨known, ?_⟩
      simp only [if_true]
      change s.latch task.batch = _
      omega
    · obtain ⟨knownToo, balanceToo⟩ := counted.owes u batch n was
      -- no other thread waits for this batch
      have apart : task.batch ≠ batch := fun same => other (counted.owner u t batch n _ was (same ▸ submits))
      rw [if_neg apart]
      exact ⟨knownToo, balanceToo⟩
  · have was : ∀ w k, (((s.submit task).setPc t (.submitting task.batch rest)).threads w).pc.owes =
        some (batch, k) → ∃ l, (s.threads w).pc.owes = some (batch, l) := by
      intro w k here
      rcases before w batch k here with ⟨rfl, rfl, -⟩ | ⟨-, old⟩
      · exact ⟨_, submits⟩
      · exact ⟨k, old⟩
    obtain ⟨l, old⟩ := was u n now
    obtain ⟨l', oldToo⟩ := was v m too
    exact counted.owner u v batch l l' old oldToo

theorem Counted.effect {config : Config} {a : Action} (counted : s.Counted) (enabled : Enabled config s a)
    (lossless : s.Lossless a) : (effect s a).Counted := by
  cases a with
  | enterPoll t | pollRefused t | leaveLoop t | pollThrows t | skipEmpty t | submitBatchRecords t
  | noTopic t | noExecutors t | latchOpen t | awaitInterrupted t | ackBatchDone t => exact counted.idle t _ rfl
  | pollReturns t c records =>
    exact (counted.frame (u := s.deliver records) rfl).idle t _ rfl
  | listenBatch t records outcome =>
    exact (counted.frame (u := s.finish records outcome) rfl).idle t _ rfl
  | ackBatch t record rest => exact (counted.frame (u := s.offer record) rfl).idle t _ rfl
  | ackBatchThrows t | commit t | commitThrows t =>
    exact (counted.frame (u := s.commitOffsets (some t)) rfl).idle t _ rfl
  | setNotRunning t => exact (counted.frame (u := { s with running := false }) rfl).idle t _ rfl
  | submitRecords t records topic =>
    have whole : records.filter (fun record => record.topic = topic) = records :=
      List.filter_eq_self.mpr fun r member => decide_eq_true (lossless r member)
    simp only [Kafka.effect, whole]
    exact counted.newLatch
  | execute t batch record rest p stage pool =>
    have accepted := ThreadPoolExecutor.execute_spec enabled.2.2
    have live : stage.live = true := by
      rcases accepted.1 with rfl | rfl <;> rfl
    exact (counted.frame (u := s.setPool p pool) rfl).submit ⟨record, batch, p, stage⟩ live
      (congrArg PollPc.owes enabled.1)
  | await t batch =>
    apply counted.threads
    intro owed now
    rw [show (s.threads t).pc = _ from enabled]
    exact now
  | closeConsumer actor c =>
    exact (counted.frame (u := { s with closed := Function.update s.closed c true }) rfl).setClosing _ _
  | shutdownPool actor cursor expected p =>
    exact (counted.frame (u := s.setPool p (s.pools p).shutdown) rfl).setClosing _ _
  | shutdownNow actor cursor expected p =>
    simp only [Kafka.effect]
    rw [dropQueued_of_drained (s := s.setPool p (s.pools p).shutdownNow) lossless]
    exact (counted.frame (u := s.setPool p (s.pools p).shutdownNow) rfl).setClosing _ _
  | clearExecutors actor expected =>
    exact (counted.frame (u := { s with executors := [], modCount := s.modCount + 1 }) rfl).endClosing _ _
  | wakeupConsumer | poolTerminated => exact counted.setClosing _ _
  | closeThrows actor c =>
    exact (counted.frame (u := { s with closed := Function.update s.closed c true }) rfl).endClosing _ _
  | unregisterThrows restart => exact counted.endClosing true (.control restart)
  | closeNull | executorsModified => exact counted.endClosing _ _
  | take j task => exact counted.setStage enabled.1 rfl
  | listen j task outcome =>
    exact (counted.frame (u := s.finish [task.record] outcome) rfl).setStage enabled rfl
  | offer j task => exact (counted.frame (u := s.offer task.record) rfl).setStage enabled.1 rfl
  | offerThrows => exact lossless.elim
  | countDown j task => exact counted.countDown enabled
  | spawn =>
    exact (counted.idle s.threadCount ⟨.loop, false, false⟩ rfl).frame rfl
  | dataChange | shutdown =>
    simp only [Kafka.effect]
    repeat' split
    all_goals exact counted.frame rfl
  | ackBatchFull | offerFull | retireWorker | rebalance | startIgnored | consumerStart | addExecutor
  | newConsumer | setRunning | startFails | startReturns | startThrows =>
    exact counted.frame rfl

section Pools

def workshop (s : State) : List Nat × Nat × List Task × (Nat → ThreadPoolExecutor) :=
  (s.executors, s.poolCount, s.tasks, s.pools)

theorem Pooled.frame (pooled : s.Pooled) {u : State} (workshop : u.workshop = s.workshop) : u.Pooled := by
  simp only [State.workshop, Prod.mk.injEq] at workshop
  obtain ⟨executors, poolCount, tasks, pools⟩ := workshop
  refine ⟨?_, ?_, ?_, ?_⟩
  · simpa only [executors, poolCount] using pooled.executors
  · simpa only [tasks, poolCount] using pooled.pools
  · simpa only [tasks, pools] using pooled.working
  · simpa only [tasks, pools] using pooled.manned

theorem Pooled.setClosing (pooled : s.Pooled) (actor : Actor) (pc : ClosePc) :
    (s.setClosing actor pc).Pooled := by
  cases actor <;> exact pooled.frame rfl

theorem Pooled.endClosing (pooled : s.Pooled) (thrown : Bool) (actor : Actor) :
    (s.endClosing thrown actor).Pooled := by
  cases actor <;> exact pooled.frame rfl

theorem Pooled.setStage (pooled : s.Pooled) {j : Nat} {task : Task} {before stage : Stage}
    (found : s.TaskAt j task before) (live : before.live = true) (taken : stage ≠ .queued) :
    (s.setStage j task stage).Pooled := by
  have member := List.mem_of_getElem? found.1
  refine ⟨pooled.executors, fun other inTasks => ?_, fun other inTasks liveNow => ?_,
    fun other inTasks queued => ?_⟩
  · rcases setStage_mem inTasks with old | rfl
    · exact pooled.pools other old
    · exact pooled.pools task member
  · rcases setStage_mem inTasks with old | rfl
    · exact pooled.working other old liveNow
    · exact pooled.working task member (found.2 ▸ live)
  · rcases setStage_mem inTasks with old | rfl
    · exact pooled.manned other old queued
    · exact absurd queued taken

theorem Pooled.setPool (pooled : s.Pooled) {p : Nat} {pool : ThreadPoolExecutor}
    (working : ∀ task ∈ s.tasks, task.pool = p → task.stage.live = true → pool.phase ≠ .stop)
    (manned : ∀ task ∈ s.tasks, task.pool = p → task.stage = .queued → 0 < pool.workers) :
    (s.setPool p pool).Pooled := by
  refine ⟨pooled.executors, pooled.pools, fun task member live => ?_, fun task member queued => ?_⟩
  · by_cases same : task.pool = p
    · simp only [State.setPool, same, Function.update_self]
      exact working task member same live
    · simp only [State.setPool, Function.update_of_ne same]
      exact pooled.working task member live
  · by_cases same : task.pool = p
    · simp only [State.setPool, same, Function.update_self]
      exact manned task member same queued
    · simp only [State.setPool, Function.update_of_ne same]
      exact pooled.manned task member queued

theorem Pooled.submit (pooled : s.Pooled) (task : Task) (known : task.pool < s.poolCount)
    (working : (s.pools task.pool).phase ≠ .stop) (manned : 0 < (s.pools task.pool).workers) :
    (s.submit task).Pooled := by
  refine ⟨pooled.executors, fun other member => ?_, fun other member live => ?_,
    fun other member queued => ?_⟩
  · rcases List.mem_append.mp member with old | new
    · exact pooled.pools other old
    · exact List.mem_singleton.mp new ▸ known
  · rcases List.mem_append.mp member with old | new
    · exact pooled.working other old live
    · exact List.mem_singleton.mp new ▸ working
  · rcases List.mem_append.mp member with old | new
    · exact pooled.manned other old queued
    · exact List.mem_singleton.mp new ▸ manned

theorem Pooled.addExecutor (pooled : s.Pooled) (pool : ThreadPoolExecutor) (rest : List ThreadPoolExecutor) :
    (effect s (.addExecutor pool rest)).Pooled := by
  have others : ∀ task ∈ s.tasks, Function.update s.pools s.poolCount pool task.pool = s.pools task.pool :=
    fun task member => Function.update_of_ne (Nat.ne_of_lt (pooled.pools task member)) _ _
  refine ⟨fun p member => ?_, fun task member => Nat.lt_succ_of_lt (pooled.pools task member),
    fun task member live => ?_, fun task member queued => ?_⟩
  · rcases List.mem_append.mp member with old | new
    · exact Nat.lt_succ_of_lt (pooled.executors p old)
    · exact List.mem_singleton.mp new ▸ Nat.lt_succ_self _
  · exact (congrArg ThreadPoolExecutor.phase (others task member)).trans_ne (pooled.working task member live)
  · exact (pooled.manned task member queued).trans_eq
      (congrArg ThreadPoolExecutor.workers (others task member)).symm

theorem Pooled.effect {config : Config} {a : Action} (pooled : s.Pooled) (enabled : Enabled config s a)
    (lossless : s.Lossless a) : (effect s a).Pooled := by
  cases a with
  | execute t batch record rest p stage pool =>
    obtain ⟨-, -, running, worker⟩ := ThreadPoolExecutor.execute_spec enabled.2.2
    have known := pooled.executors p (List.mem_of_getElem? enabled.2.1)
    have working : pool.phase ≠ .stop := by simp [running]
    have replaced : (s.setPool p pool).Pooled :=
      pooled.setPool (fun _ _ _ _ => working) fun _ _ _ _ => worker
    have same : (s.setPool p pool).pools p = pool := Function.update_self _ _ _
    have submitted := replaced.submit ⟨record, batch, p, stage⟩ known
      (by rw [same]; exact working) (by rw [same]; exact worker)
    exact submitted.frame rfl
  | shutdownPool actor cursor expected p =>
    have replaced : (s.setPool p (s.pools p).shutdown).Pooled := by
      refine pooled.setPool (fun task member same live => ?_) fun task member same queued => ?_
      · have working := same ▸ pooled.working task member live
        simp only [ThreadPoolExecutor.shutdown]
        split
        · simp
        · exact working
      · exact same ▸ pooled.manned task member queued
    exact replaced.setClosing _ _
  | shutdownNow actor cursor expected p =>
    have replaced : (s.setPool p (s.pools p).shutdownNow).Pooled := by
      refine pooled.setPool (fun task member same live => ?_) fun task member same queued => ?_
      · rw [lossless task member same] at live
        cases live
      · exact same ▸ pooled.manned task member queued
    simp only [Kafka.effect]
    rw [dropQueued_of_drained (s := s.setPool p (s.pools p).shutdownNow) lossless]
    exact replaced.setClosing _ _
  | retireWorker p =>
    refine pooled.setPool (fun task member same live => same ▸ pooled.working task member live)
      fun task member same queued => ?_
    exact absurd enabled.1 (Nat.ne_of_gt (List.countP_pos_iff.mpr ⟨task, member, by simp [same, queued]⟩))
  | addExecutor pool rest => exact pooled.addExecutor pool rest
  | clearExecutors actor expected =>
    have cleared : ({ s with executors := [], modCount := s.modCount + 1 } : State).Pooled :=
      ⟨fun p member => absurd member List.not_mem_nil, pooled.pools, pooled.working, pooled.manned⟩
    exact cleared.endClosing _ _
  | take j task => exact pooled.setStage enabled.1 rfl (by simp)
  | listen j task outcome =>
    exact (pooled.frame (u := s.finish [task.record] outcome) rfl).setStage enabled rfl (by simp)
  | offer j task => exact (pooled.frame (u := s.offer task.record) rfl).setStage enabled.1 rfl (by simp)
  | countDown j task =>
    have counted := pooled.frame
      (u := { s with latch := Function.update s.latch task.batch (s.latch task.batch - 1) }) rfl
    exact counted.setStage enabled rfl (by simp)
  | offerThrows => exact lossless.elim
  | closeConsumer actor c =>
    exact (pooled.frame (u := { s with closed := Function.update s.closed c true }) rfl).setClosing _ _
  | wakeupConsumer | poolTerminated => exact pooled.setClosing _ _
  | closeThrows actor c =>
    exact (pooled.frame (u := { s with closed := Function.update s.closed c true }) rfl).endClosing _ _
  | unregisterThrows restart => exact pooled.endClosing true (.control restart)
  | closeNull | executorsModified => exact pooled.endClosing _ _
  | dataChange | shutdown =>
    simp only [Kafka.effect]
    repeat' split
    all_goals exact pooled.frame rfl
  | _ => exact pooled.frame rfl

end Pools

section Progress

theorem sum_map_set_lt {α : Type} (f : α → Nat) {l : List α} {j : Nat} {old new : α}
    (found : l[j]? = some old) (less : f new < f old) : ((l.set j new).map f).sum < (l.map f).sum := by
  induction l generalizing j with
  | nil => cases found
  | cons head rest ih =>
    cases j with
    | zero =>
      cases found
      simp only [List.set_cons_zero, List.map_cons, List.sum_cons]
      omega
    | succ j =>
      have below := ih (j := j) (by simpa using found)
      simp only [List.set_cons_succ, List.map_cons, List.sum_cons]
      omega

def work (s : State) : Nat := (s.tasks.map fun task => task.stage.todo).sum

theorem work_setStage {j : Nat} {task : Task} {before stage : Stage} (found : s.TaskAt j task before)
    (less : stage.todo < before.todo) : (s.setStage j task stage).work < s.work :=
  sum_map_set_lt _ found.1 (by rw [found.2]; exact less)

/-- The workers got a bit further. -/
structure Advanced (config : Config) (s u : State) : Prop where
  steps : ((machine config).restrict Lossless).Steps s u
  less : u.work < s.work
  waits : ∀ t batch, (s.threads t).pc = .awaiting batch → (u.threads t).pc = .awaiting batch
  drains : u.Drains

variable (config : Config)

theorem lossless_step {a : Action} (enabled : Enabled config s a) (lossless : s.Lossless a) :
    ((machine config).restrict Lossless).Steps s (effect s a) := .one ⟨enabled, lossless⟩

theorem toOffer_setStage {j : Nat} {task : Task} {before : Stage} (found : s.TaskAt j task before)
    (stage : Stage) : (s.setStage j task stage).toOffer + (if before.unoffered then 1 else 0) =
      s.toOffer + (if stage.unoffered then 1 else 0) := by
  have changed := countP_setStage (fun task => task.stage.unoffered) found stage
  rwa [found.2] at changed

theorem Drains.setStage {j : Nat} {task : Task} {before : Stage} (drains : s.Drains)
    (found : s.TaskAt j task before) {stage : Stage} (same : stage.unoffered = before.unoffered) :
    (s.setStage j task stage).Drains := by
  refine drains.imp id fun room => ?_
  have moved := toOffer_setStage found stage
  rw [same, Nat.add_right_cancel_iff] at moved
  rwa [moved]

/-- `u` is `s` with pollers of the consumer gone from `poll`. -/
structure Returned (s u : State) : Prop where
  tasks : u.tasks = s.tasks
  acks : u.acks = s.acks
  consumer : u.consumer = s.consumer
  closed : u.closed = s.closed
  threadCount : u.threadCount = s.threadCount
  waits : ∀ t batch, (s.threads t).pc = .awaiting batch → (u.threads t).pc = .awaiting batch

/-- Polls of the consumer can return, with no records, one thread after the other. -/
theorem exists_returned (c k : Nat) : ∃ u, ((machine config).restrict Lossless).Steps s u ∧
    Returned s u ∧ ∀ t, t < k → (u.threads t).pc ≠ .polling c := by
  induction k with
  | zero =>
    refine ⟨s, .refl s, ⟨rfl, rfl, rfl, rfl, rfl, fun _ _ => id⟩, fun t below => ?_⟩
    exact absurd below (Nat.not_lt_zero t)
  | succ k ih =>
    obtain ⟨u, steps, returned, quiet⟩ := ih
    by_cases polls : (u.threads k).pc = .polling c
    · have enabled : Enabled config u (.pollReturns k c []) := polls
      have others : ∀ t, t ≠ k → (Kafka.effect u (.pollReturns k c [])).threads t = u.threads t :=
        fun t other => threads_setPc_of_ne (s := u.deliver []) other _
      refine ⟨_, steps.trans (lossless_step config enabled trivial), ?_, fun t below => ?_⟩
      · refine ⟨returned.tasks, returned.acks, returned.consumer, returned.closed, returned.threadCount, ?_⟩
        intro t batch waits
        have still := returned.waits t batch waits
        rw [others]
        · exact still
        · rintro rfl
          rw [polls] at still
          cases still
      · by_cases last : t = k
        · subst last
          rw [show (Kafka.effect u (.pollReturns t c [])).threads t = _ from Function.update_self _ _ _]
          simp
        · rw [others t last]
          exact quiet t (by omega)
    · refine ⟨u, steps, returned, fun t below => ?_⟩
      by_cases last : t = k
      · rwa [last]
      · exact quiet t (by omega)

/-- The consumer of an open proxy is free for a worker's commit once the polls have returned. -/
theorem exists_usable (opened : s.Open) : ∃ u, ((machine config).restrict Lossless).Steps s u ∧
    Returned s u ∧ u.Usable none := by
  obtain ⟨c, current, notClosed⟩ := opened
  obtain ⟨u, steps, returned, quiet⟩ := exists_returned (s := s) config c s.threadCount
  refine ⟨u, steps, returned, c, ?_, ?_, ?_⟩
  · rwa [returned.consumer]
  · rwa [returned.closed]
  · rintro ⟨t, known, -, polls⟩
    rw [returned.threadCount] at known
    exact quiet t known polls

/-- A worker that is done listening gets its record into `acks`, after a commit if they are full. -/
theorem advance_offering {j : Nat} {task : Task} (found : s.TaskAt j task .offering) (drains : s.Drains) :
    ∃ u, Advanced config s u := by
  have moved := toOffer_setStage found .counting
  by_cases room : s.acks.length < acksCapacity
  · have enabled : Enabled config s (.offer j task) := ⟨found, room⟩
    refine ⟨effect s (.offer j task), lossless_step config enabled trivial, ?_, fun _ _ => id, ?_⟩
    · exact work_setStage (s := s.offer task.record) found (by decide)
    · refine drains.imp id fun fits => ?_
      have grown : (effect s (.offer j task)).acks.length = s.acks.length + 1 := List.length_append
      have fewer : (effect s (.offer j task)).toOffer = (s.setStage j task .counting).toOffer := rfl
      simp only [Stage.unoffered, if_true, Bool.false_eq_true, if_false] at moved
      omega
  · have opened : s.Open := by
      refine drains.resolve_right fun fits => ?_
      simp only [Stage.unoffered, if_true, Bool.false_eq_true, if_false] at moved
      omega
    -- `commitOffsets` empties the queue, and the next offer succeeds
    obtain ⟨u, steps, returned, usable⟩ := exists_usable config opened
    have here : u.TaskAt j task .offering := ⟨by rw [returned.tasks]; exact found.1, found.2⟩
    have full : Enabled config u (.offerFull j task) :=
      ⟨here, by rwa [returned.acks], fun throws => throws.2 usable⟩
    have emptied : Enabled config (u.commitOffsets none) (.offer j task) :=
      ⟨here, by simp [commitOffsets, acksCapacity]⟩
    refine ⟨effect (u.commitOffsets none) (.offer j task), ?_, ?_, returned.waits, .inl ?_⟩
    · exact steps.trans ((lossless_step config full trivial).trans (lossless_step config emptied trivial))
    · have same : u.work = s.work := by rw [work, returned.tasks]; rfl
      rw [← same]
      exact work_setStage (s := (u.commitOffsets none).offer task.record) here (by decide)
    · obtain ⟨c, current, notClosed, -⟩ := usable
      exact ⟨c, current, notClosed⟩

theorem advance_busy {j : Nat} {task : Task} (found : s.tasks[j]? = some task)
    (busy : task.stage.busy = true) (drains : s.Drains) : ∃ u, Advanced config s u := by
  cases stage : task.stage with
  | listening =>
    have enabled : Enabled config s (.listen j task .threw) := ⟨found, stage⟩
    refine ⟨effect s (.listen j task .threw), lossless_step config enabled trivial, ?_, fun _ _ => id, ?_⟩
    · exact work_setStage (s := s.finish [task.record] .threw) ⟨found, stage⟩ (by decide)
    · exact Drains.setStage (s := s.finish [task.record] .threw) drains ⟨found, stage⟩ rfl
  | offering => exact advance_offering config ⟨found, stage⟩ drains
  | counting =>
    have enabled : Enabled config s (.countDown j task) := ⟨found, stage⟩
    refine ⟨effect s (.countDown j task), lossless_step config enabled trivial, ?_, fun _ _ => id, ?_⟩
    · exact work_setStage (s := s) ⟨found, stage⟩ (by decide)
    · exact Drains.setStage (s := { s with latch := _ }) drains ⟨found, stage⟩ rfl
  | queued | done | dropped | failed =>
    rw [stage] at busy
    cases busy

theorem advance_queued (pooled : s.Pooled) (free : ∀ task ∈ s.tasks, task.stage.busy = false)
    (queued : ∃ task ∈ s.tasks, task.stage = .queued) (drains : s.Drains) :
    ∃ u, Advanced config s u := by
  -- the first queued task of all is also the first of its pool
  have some_queued : ∃ task ∈ s.tasks, (fun task : Task => decide (task.stage = .queued)) task = true := by
    obtain ⟨task, member, stage⟩ := queued
    exact ⟨task, member, decide_eq_true stage⟩
  have bound := List.findIdx_lt_length_of_exists some_queued
  generalize first : s.tasks.findIdx (fun task => decide (task.stage = .queued)) = j at bound
  have found : s.TaskAt j s.tasks[j] .queued := by
    refine ⟨List.getElem?_eq_getElem bound, ?_⟩
    subst first
    exact of_decide_eq_true (List.findIdx_getElem (w := bound))
  have member : s.tasks[j] ∈ s.tasks := List.getElem_mem bound
  have live : s.tasks[j].stage.live = true := by rw [found.2]; rfl
  have idle : s.busyIn s.tasks[j].pool = 0 :=
    List.countP_eq_zero.mpr fun task inTasks both => by simp [free task inTasks] at both
  have earliest : ∀ earlier ∈ s.tasks.take j, ¬ (earlier.pool = s.tasks[j].pool ∧ earlier.stage = .queued) := by
    intro earlier before both
    obtain ⟨i, inTake, rfl⟩ := List.mem_iff_getElem.mp before
    rw [List.getElem_take] at both
    have below : i < s.tasks.findIdx (fun task => decide (task.stage = .queued)) := by
      rw [first]
      exact Nat.lt_of_lt_of_le inTake (List.length_take_le _ _)
    exact of_decide_eq_false (List.not_of_lt_findIdx below) both.2
  have enabled : Enabled config s (.take j s.tasks[j]) :=
    ⟨found, pooled.working _ member live, by rw [idle]; exact pooled.manned _ member found.2, earliest⟩
  exact ⟨effect s (.take j s.tasks[j]), lossless_step config enabled trivial,
    work_setStage (s := s) found (by decide), fun _ _ => id, drains.setStage found rfl⟩

theorem advance (pooled : s.Pooled) (live : ∃ task ∈ s.tasks, task.stage.live = true)
    (drains : s.Drains) : ∃ u, Advanced config s u := by
  by_cases busy : ∃ task ∈ s.tasks, task.stage.busy = true
  · obtain ⟨task, member, isBusy⟩ := busy
    obtain ⟨j, found⟩ := List.mem_iff_getElem?.mp member
    exact advance_busy config found isBusy drains
  · have free : ∀ task ∈ s.tasks, task.stage.busy = false := fun task member =>
      Bool.eq_false_of_not_eq_true fun isBusy => busy ⟨task, member, isBusy⟩
    refine advance_queued config pooled free ?_ drains
    obtain ⟨task, member, isLive⟩ := live
    refine ⟨task, member, ?_⟩
    simpa [Stage.live, free task member] using isLive

/-- The workers can bring every latch a poll thread waits on down to zero. -/
theorem opens {t batch : Nat} (counted : s.Counted) (pooled : s.Pooled)
    (waits : (s.threads t).pc = .awaiting batch) (drains : s.Drains) :
    ∃ u, ((machine config).restrict Lossless).Steps s u ∧ u.latch batch = 0 := by
  -- on the steps left to all tasks, of whatever batch: a pool may have to work through others first
  induction left : s.work using Nat.strong_induction_on generalizing s with
  | _ left ih =>
  by_cases live : ∃ task ∈ s.tasks, task.stage.live = true
  · obtain ⟨u, steps, less, waitsToo, drainsToo⟩ := advance config pooled live drains
    have kept : u.Counted ∧ u.Pooled :=
      steps.invariant (fun s => s.Counted ∧ s.Pooled)
        (fun s a both enabled => ⟨both.1.effect enabled.1 enabled.2, both.2.effect enabled.1 enabled.2⟩)
        ⟨counted, pooled⟩
    obtain ⟨v, more, opened⟩ :=
      ih u.work (left ▸ less) kept.1 kept.2 (waitsToo t batch waits) drainsToo rfl
    exact ⟨v, steps.trans more, opened⟩
  · have none_left : s.count batch = 0 := List.countP_eq_zero.mpr fun task member both => by
      simp only [Bool.and_eq_true] at both
      exact live ⟨task, member, both.2⟩
    have balance := (counted.owes t batch 0 (by rw [waits]; rfl)).2
    exact ⟨s, .refl s, balance.trans (by rw [none_left])⟩

end Progress

end State

open State

/-- In lossless runs the latch of every waiting poll thread matches its live
tasks and can open. -/
theorem balanced_of_lossless (config : Config) {s : State}
    (reached : ((machine config).restrict Lossless).Reachable s) : s.Balanced ∧ s.CanOpen config := by
  have kept : s.Counted ∧ s.Pooled := by
    refine reached.invariant (fun s => s.Counted ∧ s.Pooled) ?_ fun s a both enabled =>
      ⟨both.1.effect enabled.1 enabled.2, both.2.effect enabled.1 enabled.2⟩
    rintro _ ⟨bindingTopic, rfl⟩
    constructor <;> constructor <;> simp [initial, PollPc.owes]
  refine ⟨kept.1.balanced kept.2, fun t batch waits drains => ?_⟩
  obtain ⟨u, steps, opened⟩ := opens config kept.1 kept.2 waits drains
  exact ⟨u, steps.of_restrict, opened⟩

open Run in
set_option maxRecDepth 4000 in
theorem balanced_of_lossless_batch : ∃ s, ((machine config).restrict Lossless).Reachable s ∧
    (s.threads 0).pc = .awaiting 0 ∧ s.latch 0 = 1 ∧ s.Balanced ∧ s.CanOpen config := by
  have run : ∃ s, ((machine config).restrict Lossless).Reachable s ∧
      (s.threads 0).pc = .awaiting 0 ∧ s.latch 0 = 1 :=
    Guarded.exists_reachable (start 0 ++ batch ++ consume 1) ⟨some "orders", rfl⟩ (by decide)
  obtain ⟨s, reached, waits, one⟩ := run
  exact ⟨s, reached, waits, one, balanced_of_lossless config reached⟩

open Run in
set_option maxRecDepth 4000 in
/-- The binding topic changes between the poll and the submission. -/
theorem not_balanced : ¬ ∀ (config : Config) (s : State), (machine config).Reachable s →
    s.Balanced ∧ s.CanOpen config := by
  intro always
  have run : ∃ s, (machine config).Reachable s ∧
      (s.threads 0).pc = .awaiting 0 ∧ s.latch 0 = 1 ∧ s.live 0 = 0 :=
    Guarded.exists_reachable
      (start 0 ++ [.enterPoll 0 0, .pollReturns 0 0 [order 0], .dataChange (some "refunds") true,
        .submitRecords 0 [order 0] "refunds", .await 0 0])
      ⟨some "orders", rfl⟩ (by decide)
  obtain ⟨s, reached, waits, one, none_live⟩ := run
  have balanced := (always config s reached).1 0 0 waits (by omega)
  omega

end Zms.Client.Consumer.Kafka
