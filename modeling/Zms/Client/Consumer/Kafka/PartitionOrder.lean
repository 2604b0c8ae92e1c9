import Zms.Client.Consumer.Kafka.Restart
import Zms.Client.Consumer.Kafka.SingleThread
import Zms.Transition.Runs

/-! In which order an orderly proxy gives the records of a partition to the
listener, from the start of a poll thread to its shutdown.
-/

set_option autoImplicit false

namespace Zms.Client.Consumer.Kafka

open Zms.Transition

/-- A call of the listener begins, or it ends. -/
inductive Call where
  | begins (record : ConsumerRecord)
  | ends (record : ConsumerRecord)
  deriving DecidableEq, Repr

def Call.record : Call → ConsumerRecord
  | .begins record | .ends record => record

def ConsumerRecord.call (record : ConsumerRecord) : List Call := [.begins record, .ends record]

def Action.polled : Action → List ConsumerRecord
  | .pollReturns _ _ records => records
  | _ => []

/-- The listener is called for tasks from number `first` on; a batch listener gets its records
in one call, in their order. -/
def Action.calls (first : Nat) : Action → List Call
  | .execute _ _ record _ _ .listening _ => [.begins record]
  | .take j task => if first ≤ j then [.begins task.record] else []
  | .listen j task _ => if first ≤ j then [.ends task.record] else []
  | .listenBatch _ records _ => records.flatMap ConsumerRecord.call
  | _ => []

def polledOn (actions : List Action) (topicPartition : TopicPartition) : List ConsumerRecord :=
  (actions.flatMap Action.polled).filter fun record => record.topicPartition = topicPartition

def callsOn (first : Nat) (actions : List Action) (topicPartition : TopicPartition) : List Call :=
  (actions.flatMap (Action.calls first)).filter fun call => call.record.topicPartition = topicPartition

namespace State

/-- Nobody begins to shut the proxy down, and the polls return records of the topic subscribed to. -/
def Lives (s : State) : Action → Prop
  | .shutdown | .setNotRunning _ => False
  | .dataChange _ restart => restart = false
  | .pollReturns _ _ records => ∀ r ∈ records, s.bindingTopic = some r.topic
  | _ => True

instance (s : State) (a : Action) : Decidable (s.Lives a) := by
  apply Action.casesOn (motive := fun a => Decidable (s.Lives a)) a <;> intros <;>
    dsimp only [Lives] <;> infer_instance

/-- No record of the poll thread or of a task from number `first` on waits for the listener. -/
def Quiescent (s : State) (first thread : Nat) : Prop :=
  (s.threads thread).pc.held = [] ∧ ∀ task ∈ s.tasks.drop first, Leg.toListener.carries task.stage = false

instance (s : State) (first thread : Nat) : Decidable (s.Quiescent first thread) :=
  inferInstanceAs (Decidable (_ ∧ _))

end State

open State

/-- The calls for the partition do not overlap and come in the order of the polls; once nothing
is under way there has been one for each record. -/
structure KeepsOrder (first thread : Nat) (actions : List Action) (u : State) (topicPartition : TopicPartition) :
    Prop where
  ordered : callsOn first actions topicPartition <+: (polledOn actions topicPartition).flatMap ConsumerRecord.call
  once : u.Quiescent first thread →
    callsOn first actions topicPartition = (polledOn actions topicPartition).flatMap ConsumerRecord.call

/-- The calls made for a task so far. -/
def Task.calls (task : Task) : List Call :=
  match task.stage with
  | .queued | .dropped => []
  | .listening => [.begins task.record]
  | .offering | .counting | .done | .failed => task.record.call

def Task.callsOn (topicPartition : TopicPartition) (task : Task) : List Call :=
  if task.record.topicPartition = topicPartition then task.calls else []

section Lists
variable {α β : Type} {f : α → List β} {l : List α} {k : Nat} {old new : α}

theorem flatMap_set_same (found : l[k]? = some old) (same : f new = f old) : (l.set k new).flatMap f = l.flatMap f := by
  induction l generalizing k with
  | nil => cases found
  | cons head rest ih =>
    cases k with
    | zero =>
      cases found
      simp only [List.set_cons_zero, List.flatMap_cons, same]
    | succ k =>
      simp only [List.set_cons_succ, List.flatMap_cons, ih (k := k) (by simpa using found)]

theorem flatMap_set_last {extra : List β} (found : l[k]? = some old) (more : f new = f old ++ extra)
    (later : ∀ i a, k < i → l[i]? = some a → f a = []) : (l.set k new).flatMap f = l.flatMap f ++ extra := by
  induction l generalizing k with
  | nil => cases found
  | cons head rest ih =>
    cases k with
    | zero =>
      cases found
      have none : rest.flatMap f = [] := by
        apply List.flatMap_eq_nil_iff.mpr
        intro a member
        obtain ⟨i, here⟩ := List.mem_iff_getElem?.mp member
        exact later (i + 1) a (Nat.succ_pos i) (by simpa using here)
      simp only [List.set_cons_zero, List.flatMap_cons, more, none, List.append_nil]
    | succ k =>
      have ends := ih (k := k) (by simpa using found) fun i a below here =>
        later (i + 1) a (Nat.succ_lt_succ below) (by simpa using here)
      simp only [List.set_cons_succ, List.flatMap_cons, ends, List.append_assoc]

end Lists

theorem calls_start {tasks : List Task} (kept : ∀ task ∈ tasks, task.stage ≠ .dropped)
    (sorted : tasks.Pairwise fun earlier later => later.stage.started = true → earlier.stage.live = false) :
    tasks.flatMap Task.calls <+: (tasks.map Task.record).flatMap ConsumerRecord.call := by
  induction tasks with
  | nil => exact List.prefix_refl _
  | cons task rest ih =>
    obtain ⟨first, others⟩ := List.pairwise_cons.mp sorted
    simp only [List.flatMap_cons, List.map_cons]
    cases live : task.stage.live with
    | false =>
      have whole : task.calls = task.record.call := by
        have notDropped := kept task List.mem_cons_self
        unfold Task.calls
        cases stage : task.stage with
        | queued | listening =>
          rw [stage] at live
          cases live
        | dropped => exact absurd stage notDropped
        | _ => rfl
      rw [whole]
      exact (List.prefix_append_right_inj _).mpr (ih (fun other member => kept other (List.mem_cons_of_mem _ member)) others)
    | true =>
      have none : rest.flatMap Task.calls = [] := by
        apply List.flatMap_eq_nil_iff.mpr
        intro other member
        have notStarted : other.stage.started = false := by
          by_contra begun
          have ended := first other member (Bool.eq_true_of_not_eq_false begun)
          rw [live] at ended
          cases ended
        have queued := Stage.live_of_not_started notStarted (kept other (List.mem_cons_of_mem _ member))
        simp only [Task.calls, queued]
      rw [none, List.append_nil]
      refine List.IsPrefix.trans ?_ (List.prefix_append task.record.call _)
      unfold Task.calls
      cases stage : task.stage with
      | queued => exact List.nil_prefix
      | listening => exact ⟨[.ends task.record], rfl⟩
      | dropped => exact absurd stage (kept task List.mem_cons_self)
      | _ => exact List.prefix_refl _

theorem flatMap_callsOn (tasks : List Task) (topicPartition : TopicPartition) :
    tasks.flatMap (Task.callsOn topicPartition) =
      (tasks.filter fun task => task.record.topicPartition = topicPartition).flatMap Task.calls := by
  induction tasks with
  | nil => rfl
  | cons task rest ih =>
    by_cases same : task.record.topicPartition = topicPartition <;>
      simp [Task.callsOn, same, ih]

theorem mem_drop_iff {α : Type} {l : List α} {n : Nat} {a : α} : a ∈ l.drop n ↔ ∃ j, n ≤ j ∧ l[j]? = some a := by
  rw [List.mem_iff_getElem?]
  constructor
  · rintro ⟨i, here⟩
    rw [List.getElem?_drop] at here
    exact ⟨n + i, Nat.le_add_right n i, here⟩
  · rintro ⟨j, beyond, here⟩
    refine ⟨j - n, ?_⟩
    rwa [List.getElem?_drop, Nat.add_sub_cancel' beyond]

/-- What an action can be while nobody shuts the proxy down or starts it. -/
def Action.serves : Action → Bool
  | .setNotRunning _ | .unregisterThrows _ | .closeConsumer _ _ | .wakeupConsumer _ _ | .closeThrows _ _ | .closeNull _
  | .shutdownPool _ _ _ _ | .executorsModified _ _ _ | .poolTerminated _ _ _ _ | .shutdownNow _ _ _ _
  | .clearExecutors _ _ | .shutdown | .startIgnored | .consumerStart _ | .addExecutor _ _ | .newConsumer | .setRunning
  | .spawn => false
  | .dataChange _ restart => !restart
  | _ => true

/-- One poll thread serves the proxy, with the executors it was started with. -/
structure Alive (thread : Nat) (executors : List Nat) (u : State) : Prop where
  control : u.control = .idle ∨ u.control = .awaiting thread
  others : ∀ t, t ≠ thread → (u.threads t).pc = .terminated
  serving : ∀ pc, (u.threads thread).pc ≠ .closing pc
  executors : u.executors = executors

section Alive
variable {config : Config} {u : State} {a : Action} {thread : Nat} {executors : List Nat}

theorem Alive.not_closingAt (alive : Alive thread executors u) (actor : Actor) (pc : ClosePc) :
    ¬ u.ClosingAt actor pc := by
  intro closing
  cases actor with
  | control restart =>
    have control : u.control = .closing restart pc := closing
    rcases alive.control with idle | awaiting
    · rw [idle] at control
      cases control
    · rw [awaiting] at control
      cases control
  | poll t =>
    by_cases own : t = thread
    · exact alive.serving pc (own ▸ closing)
    · have ended := alive.others t own
      rw [show (u.threads t).pc = _ from closing] at ended
      cases ended

theorem Alive.serves (alive : Alive thread executors u) (enabled : Enabled config u a) (lives : u.Lives a) :
    a.serves = true := by
  have starting : ∀ pc : ControlPc, u.control = pc → pc = .idle ∨ pc = .awaiting thread := by
    rintro pc rfl
    exact alive.control
  cases a with
  | shutdown | setNotRunning => exact lives.elim
  | dataChange bindingTopic restart =>
    have kept : restart = false := lives
    rw [kept]
    rfl
  | unregisterThrows restart => exact absurd enabled (alive.not_closingAt (.control restart) .close)
  | closeConsumer | wakeupConsumer | closeThrows | closeNull | shutdownPool | executorsModified | poolTerminated =>
    exact absurd enabled.1 (alive.not_closingAt _ _)
  | shutdownNow | clearExecutors => exact absurd enabled (alive.not_closingAt _ _)
  | startIgnored | consumerStart =>
    rcases starting _ enabled.1 with same | same <;> cases same
  | addExecutor | newConsumer | setRunning | spawn =>
    rcases starting _ enabled with same | same <;> cases same
  | _ => rfl

theorem Alive.mover (alive : Alive thread executors u) (enabled : Enabled config u a) {t : Nat}
    (moves : a.mover = some t) : t = thread := by
  by_contra other
  exact mover_live enabled moves (alive.others t other)

theorem Alive.effect (alive : Alive thread executors u) (enabled : Enabled config u a) (lives : u.Lives a) :
    Alive thread executors (effect u a) := by
  have serves := alive.serves enabled lives
  have others : ∀ t, t ≠ thread → ((Kafka.effect u a).threads t).pc = .terminated := by
    intro t other
    rw [threads_of_not_mover]
    · exact alive.others t other
    · intro moves
      exact other (alive.mover enabled moves)
    · rintro rfl
      cases serves
  have unmoved : a.mover = none → ∀ place, ((Kafka.effect u a).threads thread).pc ≠ .closing place := by
    intro rests
    rw [threads_of_not_mover]
    · exact alive.serving
    · rw [rests]
      intro moves
      cases moves
    · rintro rfl
      cases serves
  cases a with
  | setNotRunning | unregisterThrows | closeConsumer | wakeupConsumer | closeThrows | closeNull | shutdownPool
  | executorsModified | poolTerminated | shutdownNow | clearExecutors | shutdown | startIgnored | consumerStart
  | addExecutor | newConsumer | setRunning | spawn => cases serves
  | dataChange bindingTopic restart =>
    obtain rfl : restart = false := lives
    exact ⟨alive.control, others, unmoved rfl, alive.executors⟩
  | startFails | startReturns | startThrows => exact ⟨.inl rfl, others, unmoved rfl, alive.executors⟩
  | ackBatchFull | take | listen | offer | offerFull | offerThrows | countDown | retireWorker | rebalance =>
    exact ⟨alive.control, others, unmoved rfl, alive.executors⟩
  | enterPoll t | pollRefused t | leaveLoop t | pollReturns t | pollThrows t | skipEmpty t | submitRecords t
  | submitBatchRecords t | noTopic t | execute t | noExecutors t | await t | latchOpen t | awaitInterrupted t
  | listenBatch t | ackBatch t | ackBatchThrows t | ackBatchDone t | commit t | commitThrows t =>
    obtain rfl := alive.mover enabled rfl
    refine ⟨alive.control, others, fun place => ?_, alive.executors⟩
    simp only [Kafka.effect, State.setPc, State.leave, State.reloop, Function.update_self]
    intro same
    cases same

end Alive

/-- What a poll thread at the position says about the listener. -/
def PollPc.Fits (pc : PollPc) (batchListener : Bool) : Prop :=
  match pc with
  | .submitting _ _ => batchListener = false
  | .listening _ => batchListener = true
  | _ => True

/-- The records polled for the partition, in their order: those of finished batch calls, those of
tasks, and those still in the poll thread's hands. -/
structure Accounts (first : Nat) (held : List ConsumerRecord) (tasks : List Task) (actions : List Action)
    (topicPartition : TopicPartition) (batches : List ConsumerRecord) : Prop where
  polled : polledOn actions topicPartition = batches ++
    (((tasks.map Task.record).drop first).filter fun record => record.topicPartition = topicPartition) ++
      held.filter fun record => record.topicPartition = topicPartition
  calls : callsOn first actions topicPartition =
    batches.flatMap ConsumerRecord.call ++ (tasks.drop first).flatMap (Task.callsOn topicPartition)

/-- The way of the records since the start of the poll thread. -/
structure Flow (config : Config) (first thread : Nat) (executors : List Nat) (actions : List Action) (u : State) :
    Prop where
  onTopic : ∀ r ∈ (u.threads thread).pc.held, u.bindingTopic = some r.topic
  fits : (u.threads thread).pc.Fits config.batchListener
  grown : first ≤ u.tasks.length
  noTasks : config.batchListener = true → u.tasks.length = first
  kept : ∀ j task, first ≤ j → u.tasks[j]? = some task → task.stage ≠ .dropped
  routed : ∀ j task, first ≤ j → u.tasks[j]? = some task →
    executors[task.record.partition % executors.length]? = some task.pool
  accounts : ∀ topicPartition, ∃ batches,
    Accounts first (u.threads thread).pc.held u.tasks actions topicPartition batches

theorem polledOn_append (actions : List Action) (a : Action) (topicPartition : TopicPartition) :
    polledOn (actions ++ [a]) topicPartition =
      polledOn actions topicPartition ++ a.polled.filter fun record => record.topicPartition = topicPartition := by
  simp [polledOn]

theorem callsOn_append (first : Nat) (actions : List Action) (a : Action) (topicPartition : TopicPartition) :
    callsOn first (actions ++ [a]) topicPartition = callsOn first actions topicPartition ++
      (a.calls first).filter fun call => call.record.topicPartition = topicPartition := by
  simp [callsOn]

theorem filter_own {calls : List Call} {record : ConsumerRecord} (own : ∀ call ∈ calls, call.record = record)
    (topicPartition : TopicPartition) : (calls.filter fun call => call.record.topicPartition = topicPartition) =
      if record.topicPartition = topicPartition then calls else [] := by
  split
  · next same =>
    apply List.filter_eq_self.mpr
    intro call member
    rw [own call member]
    exact decide_eq_true same
  · next other =>
    apply List.filter_eq_nil_iff.mpr
    intro call member
    rw [own call member]
    simpa using other

theorem ConsumerRecord.record_of_mem_call (record : ConsumerRecord) : ∀ call ∈ record.call, call.record = record := by
  intro call member
  simp only [ConsumerRecord.call, List.mem_cons, List.not_mem_nil, or_false] at member
  rcases member with rfl | rfl <;> rfl

theorem Task.record_of_mem_calls (task : Task) : ∀ call ∈ task.calls, call.record = task.record := by
  intro call member
  unfold Task.calls at member
  cases stage : task.stage with
  | queued | dropped =>
    rw [stage] at member
    cases member
  | listening =>
    rw [stage] at member
    rw [List.mem_singleton.mp member]
    rfl
  | _ =>
    rw [stage] at member
    exact task.record.record_of_mem_call call member

theorem filter_calls (records : List ConsumerRecord) (topicPartition : TopicPartition) :
    ((records.flatMap ConsumerRecord.call).filter fun call => call.record.topicPartition = topicPartition) =
      (records.filter fun record => record.topicPartition = topicPartition).flatMap ConsumerRecord.call := by
  induction records with
  | nil => rfl
  | cons record rest ih =>
    rw [List.flatMap_cons, List.filter_append, filter_own record.record_of_mem_call, ih]
    by_cases same : record.topicPartition = topicPartition <;> simp [same]

section Flow
variable {config : Config} {u v : State} {a : Action} {first thread : Nat} {executors : List Nat}
  {actions : List Action}

/-- The poll thread takes over `fresh` records, and nothing reaches the listener. -/
theorem Flow.move (flow : Flow config first thread executors actions u) (fresh : List ConsumerRecord)
    (tasks : v.tasks = u.tasks) (topic : v.bindingTopic = u.bindingTopic) (polled : a.polled = fresh)
    (calls : a.calls first = []) (held : (v.threads thread).pc.held = (u.threads thread).pc.held ++ fresh)
    (onTopic : ∀ r ∈ fresh, u.bindingTopic = some r.topic)
    (fits : (v.threads thread).pc.Fits config.batchListener) :
    Flow config first thread executors (actions ++ [a]) v := by
  refine ⟨fun r member => ?_, fits, ?_, ?_, ?_, ?_, fun topicPartition => ?_⟩
  · rw [held] at member
    rw [topic]
    rcases List.mem_append.mp member with old | new
    · exact flow.onTopic r old
    · exact onTopic r new
  · rw [tasks]
    exact flow.grown
  · rw [tasks]
    exact flow.noTasks
  · rw [tasks]
    exact flow.kept
  · rw [tasks]
    exact flow.routed
  · obtain ⟨batches, accounts⟩ := flow.accounts topicPartition
    refine ⟨batches, ?_, ?_⟩
    · rw [polledOn_append, accounts.polled, polled, tasks, held, List.filter_append, ← List.append_assoc]
    · rw [callsOn_append, accounts.calls, calls, tasks, List.filter_nil, List.append_nil]

theorem Flow.rest (flow : Flow config first thread executors actions u) (tasks : v.tasks = u.tasks)
    (topic : v.bindingTopic = u.bindingTopic) (polled : a.polled = []) (calls : a.calls first = [])
    (held : (v.threads thread).pc.held = (u.threads thread).pc.held)
    (fits : (v.threads thread).pc.Fits config.batchListener) :
    Flow config first thread executors (actions ++ [a]) v :=
  flow.move [] tasks topic polled calls (by rw [held, List.append_nil]) (fun r member => absurd member List.not_mem_nil)
    fits

/-- The calls made for a task of the run grow at the end, since the later ones of its partition wait. -/
theorem Flow.callsOn_restage (flow : Flow config first thread executors actions u) {j : Nat} {task : Task}
    {before stage : Stage} {extra : List Call} (found : u.TaskAt j task before) (mine : first ≤ j)
    (more : Task.calls { task with stage := stage } = task.calls ++ extra)
    (last : extra = [] ∨ ∀ k later, j < k → u.tasks[k]? = some later → later.pool = task.pool →
      later.stage.started = false) (topicPartition : TopicPartition) :
    ((u.setStage j task stage).tasks.drop first).flatMap (Task.callsOn topicPartition) =
      (u.tasks.drop first).flatMap (Task.callsOn topicPartition) ++
        if task.record.topicPartition = topicPartition then extra else [] := by
  have inDrop : (u.tasks.drop first)[j - first]? = some task := by
    rw [List.getElem?_drop, Nat.add_sub_cancel' mine]
    exact found.1
  rw [setStage, List.drop_set, if_neg (Nat.not_lt.mpr mine)]
  by_cases same : task.record.topicPartition = topicPartition
  · rw [if_pos same]
    have grows : Task.callsOn topicPartition { task with stage := stage } =
        Task.callsOn topicPartition task ++ extra := by
      simp only [Task.callsOn, same, if_true, more]
    rcases last with none | last
    · subst none
      rw [List.append_nil] at grows ⊢
      exact flatMap_set_same inDrop grows
    · refine flatMap_set_last inDrop grows fun i later below inLater => ?_
      rw [List.getElem?_drop] at inLater
      by_cases sameLater : later.record.topicPartition = topicPartition
      · -- a later task of the partition is in the same pool
        have samePartition : later.record.partition = task.record.partition := by
          have places := sameLater.trans same.symm
          simp only [ConsumerRecord.topicPartition, TopicPartition.mk.injEq] at places
          exact places.2
        have routedLater := flow.routed (first + i) later (Nat.le_add_right _ _) inLater
        have routedTask := flow.routed j task mine found.1
        rw [samePartition, routedTask] at routedLater
        have notStarted := last (first + i) later (by omega) inLater (Option.some.inj routedLater).symm
        have queued := Stage.live_of_not_started notStarted
          (flow.kept (first + i) later (Nat.le_add_right _ _) inLater)
        simp only [Task.callsOn, Task.calls, queued, ite_self]
      · simp only [Task.callsOn, sameLater, if_false]
  · rw [if_neg same, List.append_nil]
    apply flatMap_set_same inDrop
    simp only [Task.callsOn, same, if_false]

theorem Flow.restage (flow : Flow config first thread executors actions u) {j : Nat} {task : Task}
    {before : Stage} (stage : Stage) (extra : List Call) (found : u.TaskAt j task before)
    (tasks : v.tasks = (u.setStage j task stage).tasks) (topic : v.bindingTopic = u.bindingTopic)
    (threads : v.threads = u.threads) (polled : a.polled = []) (calls : a.calls first = if first ≤ j then extra else [])
    (own : ∀ call ∈ extra, call.record = task.record)
    (more : Task.calls { task with stage := stage } = task.calls ++ extra) (kept : stage ≠ .dropped)
    (last : extra = [] ∨ ∀ k later, j < k → u.tasks[k]? = some later → later.pool = task.pool →
      later.stage.started = false) : Flow config first thread executors (actions ++ [a]) v := by
  have length : v.tasks.length = u.tasks.length := by rw [tasks, setStage, List.length_set]
  have records : v.tasks.map Task.record = u.tasks.map Task.record := by
    rw [tasks, setStage, List.map_set]
    refine List.ext_getElem? fun i => ?_
    by_cases same : j = i
    · obtain ⟨bound, -⟩ := List.getElem?_eq_some_iff.mp found.1
      subst same
      rw [List.getElem?_set_self (by simpa using bound), List.getElem?_map, found.1]
      rfl
    · rw [List.getElem?_set_ne same]
  refine ⟨?_, ?_, length ▸ flow.grown, length ▸ flow.noTasks, fun i other beyond member => ?_,
    fun i other beyond member => ?_, fun topicPartition => ?_⟩
  · rw [threads, topic]
    exact flow.onTopic
  · rw [threads]
    exact flow.fits
  · rw [tasks] at member
    rcases getElem?_setStage found stage member with ⟨-, old⟩ | ⟨-, rfl⟩
    · exact flow.kept i other beyond old
    · exact kept
  · rw [tasks] at member
    rcases getElem?_setStage found stage member with ⟨-, old⟩ | ⟨rfl, rfl⟩
    · exact flow.routed i other beyond old
    · exact flow.routed i task beyond found.1
  · obtain ⟨batches, accounts⟩ := flow.accounts topicPartition
    refine ⟨batches, ?_, ?_⟩
    · rw [polledOn_append, accounts.polled, polled, records, threads, List.filter_nil, List.append_nil]
    · rw [callsOn_append, accounts.calls, calls, tasks, List.append_assoc]
      congr 1
      by_cases mine : first ≤ j
      · rw [flow.callsOn_restage found mine more last, if_pos mine]
        rw [filter_own own]
      · rw [setStage, List.drop_set, if_pos (Nat.lt_of_not_le mine), if_neg mine, List.filter_nil, List.append_nil]

theorem Flow.submit (flow : Flow config first thread executors actions u) {batch : Nat} {record : ConsumerRecord}
    {rest : List ConsumerRecord} (task : Task) (stands : (u.threads thread).pc = .submitting batch (record :: rest))
    (sameRecord : task.record = record) (tasks : v.tasks = u.tasks ++ [task]) (topic : v.bindingTopic = u.bindingTopic)
    (moved : (v.threads thread).pc = .submitting batch rest) (polled : a.polled = [])
    (calls : a.calls first = task.calls) (kept : task.stage ≠ .dropped)
    (routed : executors[record.partition % executors.length]? = some task.pool) :
    Flow config first thread executors (actions ++ [a]) v := by
  have fits := flow.fits
  rw [stands] at fits
  have onTopic := flow.onTopic
  rw [stands] at onTopic
  have latest : ∀ j other, first ≤ j → v.tasks[j]? = some other → u.tasks[j]? = some other ∨ other = task := by
    intro j other beyond member
    rw [tasks] at member
    by_cases old : j < u.tasks.length
    · rw [List.getElem?_append_left old] at member
      exact .inl member
    · obtain ⟨bound, -⟩ := List.getElem?_eq_some_iff.mp member
      rw [List.length_append, List.length_singleton] at bound
      obtain rfl : j = u.tasks.length := by omega
      rw [List.getElem?_concat_length] at member
      exact .inr (Option.some.inj member).symm
  refine ⟨fun r member => ?_, ?_, ?_, fun batched => ?_, fun j other beyond member => ?_,
    fun j other beyond member => ?_, fun topicPartition => ?_⟩
  · rw [moved] at member
    rw [topic]
    exact onTopic r (List.mem_cons_of_mem _ member)
  · rw [moved]
    exact fits
  · rw [tasks, List.length_append]
    exact flow.grown.trans (Nat.le_add_right _ _)
  · rw [show config.batchListener = false from fits] at batched
    cases batched
  · rcases latest j other beyond member with old | rfl
    · exact flow.kept j other beyond old
    · exact kept
  · rcases latest j other beyond member with old | rfl
    · exact flow.routed j other beyond old
    · rw [sameRecord]
      exact routed
  · obtain ⟨batches, accounts⟩ := flow.accounts topicPartition
    have polledBefore := accounts.polled
    rw [stands] at polledBefore
    refine ⟨batches, ?_, ?_⟩
    · rw [polledOn_append, polledBefore, polled, moved, tasks, List.map_append,
        List.drop_append_of_le_length (by simpa using flow.grown)]
      by_cases same : record.topicPartition = topicPartition <;>
        simp [PollPc.held, sameRecord, same]
    · rw [callsOn_append, accounts.calls, calls, tasks, List.drop_append_of_le_length flow.grown, List.flatMap_append,
        List.append_assoc]
      congr 2
      rw [filter_own task.record_of_mem_calls]
      simp only [List.flatMap_cons, List.flatMap_nil, List.append_nil, Task.callsOn]

theorem Flow.listenBatch (flow : Flow config first thread executors actions u) {records : List ConsumerRecord}
    (stands : (u.threads thread).pc = .listening records) (tasks : v.tasks = u.tasks) (moved : (v.threads thread).pc = .acking records)
    (polled : a.polled = []) (calls : a.calls first = records.flatMap ConsumerRecord.call) :
    Flow config first thread executors (actions ++ [a]) v := by
  have fits := flow.fits
  rw [stands] at fits
  have none : u.tasks.drop first = [] := List.drop_eq_nil_of_le (le_of_eq (flow.noTasks fits))
  have noRecords : (u.tasks.map Task.record).drop first = [] := by rw [← List.map_drop, none, List.map_nil]
  refine ⟨fun r member => ?_, ?_, tasks ▸ flow.grown, tasks ▸ flow.noTasks, tasks ▸ flow.kept, tasks ▸ flow.routed,
    fun topicPartition => ?_⟩
  · rw [moved] at member
    cases member
  · rw [moved]
    trivial
  · obtain ⟨batches, accounts⟩ := flow.accounts topicPartition
    have polledBefore := accounts.polled
    have callsBefore := accounts.calls
    rw [stands, noRecords] at polledBefore
    rw [none] at callsBefore
    refine ⟨batches ++ records.filter fun record => record.topicPartition = topicPartition, ?_, ?_⟩
    · rw [polledOn_append, polledBefore, polled, tasks, noRecords, moved]
      simp [PollPc.held]
    · rw [callsOn_append, callsBefore, calls, tasks, none, filter_calls, List.flatMap_append]
      simp

theorem filter_topic {records : List ConsumerRecord} {topic : String}
    (onTopic : ∀ r ∈ records, some topic = some r.topic) :
    (records.filter fun record => record.topic = topic) = records :=
  List.filter_eq_self.mpr fun r member => decide_eq_true (Option.some.inj (onTopic r member)).symm

/-- Every step of a proxy that serves keeps the account of its records. -/
theorem Flow.effect (flow : Flow config first thread executors actions u) (alive : Alive thread executors u)
    (single : u.SingleThreaded) (nonempty : executors ≠ []) (enabled : Enabled config u a) (lives : u.Lives a) :
    Flow config first thread executors (actions ++ [a]) (effect u a) := by
  have serves := alive.serves enabled lives
  have onTopic := flow.onTopic
  have fits := flow.fits
  cases a with
  | setNotRunning | unregisterThrows | closeConsumer | wakeupConsumer | closeThrows | closeNull | shutdownPool
  | executorsModified | poolTerminated | shutdownNow | clearExecutors | shutdown | startIgnored | consumerStart
  | addExecutor | newConsumer | setRunning | spawn => cases serves
  | pollReturns t c records =>
    obtain rfl := alive.mover enabled rfl
    have stands : (u.threads t).pc = .polling c := enabled
    refine flow.move records rfl rfl rfl rfl ?_ lives ?_
    · simp only [Kafka.effect, pc_setPc_self, stands, PollPc.held, List.nil_append]
    · simp only [Kafka.effect, pc_setPc_self, PollPc.Fits]
  | submitRecords t records topic =>
    obtain rfl := alive.mover enabled rfl
    obtain ⟨stands, -, notBatch, bound⟩ := enabled
    rw [stands, bound] at onTopic
    refine flow.rest rfl rfl rfl rfl ?_ ?_
    · simp only [Kafka.effect, pc_setPc_self, stands, PollPc.held]
      exact filter_topic onTopic
    · simp only [Kafka.effect, pc_setPc_self, PollPc.Fits, notBatch]
  | submitBatchRecords t records topic =>
    obtain rfl := alive.mover enabled rfl
    obtain ⟨stands, -, batched, bound⟩ := enabled
    rw [stands, bound] at onTopic
    refine flow.rest rfl rfl rfl rfl ?_ ?_
    · simp only [Kafka.effect, pc_setPc_self, stands, PollPc.held]
      exact filter_topic onTopic
    · simp only [Kafka.effect, pc_setPc_self, PollPc.Fits, batched]
  | noTopic t records =>
    obtain rfl := alive.mover enabled rfl
    obtain ⟨stands, some, unbound⟩ := enabled
    rw [stands, unbound] at onTopic
    obtain ⟨r, member⟩ := List.exists_mem_of_ne_nil records some
    cases onTopic r member
  | execute t batch record rest p stage pool =>
    obtain rfl := alive.mover enabled rfl
    obtain ⟨stands, routed, accepted⟩ := enabled
    rw [alive.executors] at routed
    rcases (ThreadPoolExecutor.execute_spec accepted).1 with rfl | rfl
    · exact flow.submit ⟨record, batch, p, .queued⟩ stands rfl rfl rfl (pc_setPc_self _) rfl rfl (by simp)
        routed
    · exact flow.submit ⟨record, batch, p, .listening⟩ stands rfl rfl rfl (pc_setPc_self _) rfl rfl
        (by simp) routed
  | noExecutors t batch rest => exact absurd (alive.executors.symm.trans enabled.2.2) nonempty
  | listenBatch t records outcome =>
    obtain rfl := alive.mover enabled rfl
    exact flow.listenBatch enabled rfl (pc_setPc_self _) rfl rfl
  | take j task =>
    have found : u.TaskAt j task .queued := enabled.1
    refine flow.restage .listening [.begins task.record] found rfl rfl rfl
      rfl rfl (fun call member => ?_) ?_ (by simp) (.inr fun k later below inLater samePool => ?_)
    · rw [List.mem_singleton.mp member]
      rfl
    · simp only [Task.calls, found.2, List.nil_append]
    · -- were a later one taken, this one would not be queued
      by_contra begun
      have ended := single.sorted j k task later below found.1 inLater samePool.symm (Bool.eq_true_of_not_eq_false begun)
      rw [found.2] at ended
      cases ended
  | listen j task outcome =>
    have found : u.TaskAt j task .listening := enabled
    refine flow.restage .offering [.ends task.record] found rfl rfl rfl
      rfl rfl (fun call member => ?_) ?_ (by simp) (.inr fun k later below inLater samePool => ?_)
    · rw [List.mem_singleton.mp member]
      rfl
    · simp only [Task.calls, found.2, ConsumerRecord.call, List.cons_append, List.nil_append]
    · by_contra begun
      have ended := single.sorted j k task later below found.1 inLater samePool.symm (Bool.eq_true_of_not_eq_false begun)
      rw [found.2] at ended
      cases ended
  | offer j task =>
    have found : u.TaskAt j task .offering := enabled.1
    refine flow.restage .counting [] found rfl rfl rfl rfl (by simp [Action.calls]) (by simp) ?_
      (by simp) (.inl rfl)
    simp only [Task.calls, found.2, List.append_nil]
  | offerThrows j task =>
    have found : u.TaskAt j task .offering := enabled.1
    refine flow.restage .failed [] found rfl rfl rfl rfl (by simp [Action.calls]) (by simp) ?_
      (by simp) (.inl rfl)
    simp only [Task.calls, found.2, List.append_nil]
  | countDown j task =>
    have found : u.TaskAt j task .counting := enabled
    refine flow.restage .done [] found rfl rfl rfl rfl (by simp [Action.calls]) (by simp) ?_
      (by simp) (.inl rfl)
    simp only [Task.calls, found.2, List.append_nil]
  | dataChange bindingTopic restart =>
    obtain rfl : restart = false := lives
    have same : bindingTopic = u.bindingTopic := by
      by_contra changed
      cases enabled.2 changed
    exact flow.rest rfl same rfl rfl rfl fits
  | ackBatchFull | offerFull | retireWorker | rebalance | startFails | startReturns | startThrows =>
    exact flow.rest rfl rfl rfl rfl rfl fits
  | enterPoll t | pollRefused t | leaveLoop t | pollThrows t | skipEmpty t | await t | latchOpen t | awaitInterrupted t
  | ackBatch t | ackBatchThrows t | ackBatchDone t | commit t | commitThrows t =>
    obtain rfl := alive.mover enabled rfl
    have stands := pc_of_mover enabled rfl
    refine flow.rest rfl rfl rfl rfl ?_ ?_
    · rw [stands]
      simp only [Kafka.effect, State.setPc, State.leave, State.reloop, Function.update_self]
      rfl
    · simp only [Kafka.effect, State.setPc, State.leave, State.reloop, Function.update_self, PollPc.Fits]

theorem Flow.keepsOrder (flow : Flow config first thread executors actions u) (single : u.SingleThreaded)
    (topicPartition : TopicPartition) : KeepsOrder first thread actions u topicPartition := by
  obtain ⟨batches, polled, calls⟩ := flow.accounts topicPartition
  generalize mine : ((u.tasks.drop first).filter fun task => task.record.topicPartition = topicPartition) = tasks at *
  have inTasks : ∀ task ∈ tasks, ∃ j, first ≤ j ∧ u.tasks[j]? = some task ∧
      task.record.topicPartition = topicPartition := by
    intro task member
    rw [← mine] at member
    obtain ⟨inDrop, same⟩ := List.mem_filter.mp member
    obtain ⟨j, beyond, here⟩ := mem_drop_iff.mp inDrop
    exact ⟨j, beyond, here, of_decide_eq_true same⟩
  have records : ((u.tasks.map Task.record).drop first).filter (fun record => record.topicPartition = topicPartition) =
      tasks.map Task.record := by
    rw [← mine, ← List.map_drop, List.filter_map]
    rfl
  rw [records] at polled
  rw [flatMap_callsOn, mine] at calls
  constructor
  · rw [polled, calls, List.flatMap_append, List.flatMap_append, List.append_assoc]
    apply (List.prefix_append_right_inj _).mpr
    refine List.IsPrefix.trans (calls_start (fun task member => ?_) ?_) (List.prefix_append _ _)
    · obtain ⟨j, beyond, here, -⟩ := inTasks task member
      exact flow.kept j task beyond here
    · -- the tasks of one partition are in one pool
      have sorted : u.tasks.Pairwise fun earlier later =>
          earlier.pool = later.pool → later.stage.started = true → earlier.stage.live = false := by
        apply List.pairwise_iff_getElem.mpr
        intro i k inFirst inSecond below
        exact single.sorted i k _ _ below (List.getElem?_eq_getElem inFirst) (List.getElem?_eq_getElem inSecond)
      have sub : tasks.Sublist u.tasks := by
        rw [← mine]
        exact List.filter_sublist.trans (List.drop_sublist _ _)
      refine (sorted.sublist sub).imp_of_mem fun {earlier later} inFirst inSecond ended => ended ?_
      obtain ⟨i, beyond, here, same⟩ := inTasks earlier inFirst
      obtain ⟨k, beyondToo, hereToo, sameToo⟩ := inTasks later inSecond
      have routed := flow.routed i earlier beyond here
      have places := same.trans sameToo.symm
      simp only [ConsumerRecord.topicPartition, TopicPartition.mk.injEq] at places
      rw [places.2, flow.routed k later beyondToo hereToo] at routed
      exact (Option.some.inj routed).symm
  · rintro ⟨noneHeld, ended⟩
    rw [polled, calls, noneHeld, List.filter_nil, List.append_nil, List.flatMap_append, List.flatMap_map]
    congr 1
    apply List.flatMap_congr
    intro task member
    obtain ⟨j, beyond, here, -⟩ := inTasks task member
    have notCarried := ended task (mem_drop_iff.mpr ⟨j, beyond, here⟩)
    unfold Task.calls
    cases stage : task.stage with
    | queued | listening | dropped =>
      rw [stage] at notCarried
      cases notCarried
    | _ => rfl

end Flow

namespace Run

def oneThread : ThreadPoolExecutor := .new 1 1 1000

def oneWorker : ThreadPoolExecutor := { oneThread with workers := 1 }

/-- Orderly, with two pools. -/
def orderlyConfig : Config := ⟨true, some ⟨some 1, some 2⟩, 4, false⟩

/-- Orderly, without properties. -/
def bareConfig : Config := ⟨true, none, 4, false⟩

/-- `start` with two pools, up to the poll thread. -/
def startTwo : List Action :=
  [.consumerStart [oneThread, oneThread], .addExecutor oneThread [oneThread], .addExecutor oneThread [], .newConsumer,
    .setRunning]

/-- Three orders of one partition: the first is listened to while the second is submitted. -/
def threeOrders : List Action :=
  [.enterPoll 0 0, .pollReturns 0 0 [order 0, order 1, order 2],
    .submitRecords 0 [order 0, order 1, order 2] "orders",
    .execute 0 0 (order 0) [order 1, order 2] 0 .listening oneWorker,
    .execute 0 0 (order 1) [order 2] 0 .queued oneWorker,
    .listen 0 ⟨order 0, 0, 0, .listening⟩ .threw,
    .execute 0 0 (order 2) [] 0 .queued oneWorker,
    .offer 0 ⟨order 0, 0, 0, .offering⟩, .countDown 0 ⟨order 0, 0, 0, .counting⟩,
    .take 1 ⟨order 1, 0, 0, .queued⟩]

def startBare : List Action := [.consumerStart [], .newConsumer, .setRunning]

/-- An order is polled, and there is no executor for it. -/
def noExecutor : List Action :=
  [.enterPoll 0 0, .pollReturns 0 0 [order 0], .submitRecords 0 [order 0] "orders", .noExecutors 0 0 [order 0]]

end Run

theorem alone_of_threadCount {config : Config} {s : State} (reached : (machine config).Reachable s)
    (none : s.threadCount = 0) : s.Alone := by
  have fresh : s.ThreadsFresh := by
    refine reached.invariant State.ThreadsFresh ?_ fun s a before enabled => before.effect enabled
    rintro _ ⟨bindingTopic, rfl⟩
    exact fun t _ => rfl
  intro t
  exact fresh t (none ▸ Nat.zero_le t)

end Zms.Client.Consumer.Kafka
