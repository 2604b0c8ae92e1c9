import Zms.Client.Consumer.Kafka.Frame

/-! Where a record is between two points of its way through the proxy: in the
hands of a poll thread, or carried by a task.
-/

set_option autoImplicit false

namespace Zms.Client.Consumer.Kafka

/-- The part of the way on which the given hands and stages are. -/
structure Leg where
  hand : PollPc → List ConsumerRecord
  carries : Stage → Bool

/-- The records a poll thread has and no listener call was made for. -/
def PollPc.held : PollPc → List ConsumerRecord
  | .polled records | .submitting _ records | .listening records => records
  | .loop | .polling _ | .awaiting _ | .acking _ | .committing | .exiting | .closing _ | .terminated => []

/-- The records a poll thread has yet to put into `acks`. -/
def PollPc.unacked : PollPc → List ConsumerRecord
  | .acking rest => rest
  | .loop | .polling _ | .polled _ | .submitting _ _ | .awaiting _ | .listening _ | .committing
  | .exiting | .closing _ | .terminated => []

/-- From the poll to the end of the listener call; dropped tasks are stuck on it. -/
def Leg.toListener : Leg where
  hand := PollPc.held
  carries
    | .queued | .listening | .dropped => true
    | .offering | .counting | .done | .failed => false

/-- From there to `acks`. -/
def Leg.toAcks : Leg where
  hand := PollPc.unacked
  carries
    | .offering => true
    | .queued | .listening | .counting | .done | .dropped | .failed => false

/-- The task the action moves to another stage. -/
def Action.restage : Action → Option (Nat × Stage)
  | .take j _ => some (j, .listening)
  | .listen j _ _ => some (j, .offering)
  | .offer j _ => some (j, .counting)
  | .offerThrows j _ => some (j, .failed)
  | .countDown j _ => some (j, .done)
  | _ => none

variable {config : Config} {s : State} {a : Action} {leg : Leg} {r : ConsumerRecord} {j : Nat} {task : Task}

theorem task_setStage (found : s.tasks[j]? = some task) (i : Nat) (other : Task) (stage : Stage) :
    ∃ after, (s.setStage i other stage).tasks[j]? = some after ∧
      (after = task ∨ i = j ∧ after = { other with stage := stage }) := by
  obtain ⟨bound, -⟩ := List.getElem?_eq_some_iff.mp found
  by_cases same : i = j
  · subst same
    exact ⟨_, List.getElem?_set_self bound, Or.inr ⟨rfl, rfl⟩⟩
  · exact ⟨task, (List.getElem?_set_ne same).trans found, Or.inl rfl⟩

theorem State.TaskAt.same {other : Task} {stage : Stage} (here : s.TaskAt j other stage)
    (found : s.tasks[j]? = some task) : other = task ∧ task.stage = stage := by
  obtain rfl : other = task := Option.some.inj (here.1.symm.trans found)
  exact ⟨rfl, here.2⟩

theorem tasks_setClosing (actor : Actor) (pc : ClosePc) : (s.setClosing actor pc).tasks = s.tasks := by
  cases actor <;> rfl

theorem tasks_endClosing (thrown : Bool) (actor : Actor) : (s.endClosing thrown actor).tasks = s.tasks := by
  cases actor <;> rfl

/-- A task stays where it is and keeps its record; its stage changes by its own
action, or when it is dropped from its pool's queue. -/
theorem task_effect (enabled : Enabled config s a) (found : s.tasks[j]? = some task) :
    ∃ after, (effect s a).tasks[j]? = some after ∧ after.record = task.record ∧
      (after.stage = task.stage ∨ (task.stage = .queued ∧ after.stage = .dropped) ∨
        a.restage = some (j, after.stage)) := by
  -- the five actions of a task write the stage of task `i`, after other changes
  have restaged : ∀ (u : State) (i : Nat) (other : Task) (before stage : Stage), u.tasks = s.tasks →
      s.TaskAt i other before → a.restage = some (i, stage) →
      ∃ after, (u.setStage i other stage).tasks[j]? = some after ∧ after.record = task.record ∧
        (after.stage = task.stage ∨ (task.stage = .queued ∧ after.stage = .dropped) ∨
          a.restage = some (j, after.stage)) := by
    intro u i other before stage sameTasks here moves
    obtain ⟨after, foundAfter, rfl | ⟨rfl, rfl⟩⟩ := task_setStage (s := u) (sameTasks ▸ found) i other stage
    · exact ⟨after, foundAfter, rfl, Or.inl rfl⟩
    · obtain ⟨rfl, -⟩ := here.same found
      exact ⟨_, foundAfter, rfl, Or.inr (Or.inr moves)⟩
  have unchanged : (effect s a).tasks = s.tasks → ∃ after, (effect s a).tasks[j]? = some after ∧
      after.record = task.record ∧ (after.stage = task.stage ∨
        (task.stage = .queued ∧ after.stage = .dropped) ∨ a.restage = some (j, after.stage)) :=
    fun same => ⟨task, by rw [same]; exact found, rfl, Or.inl rfl⟩
  cases a with
  | take i other => exact restaged s i other .queued .listening rfl enabled.1 rfl
  | listen i other outcome =>
    exact restaged (s.finish [other.record] outcome) i other .listening .offering rfl enabled rfl
  | offer i other => exact restaged (s.offer other.record) i other .offering .counting rfl enabled.1 rfl
  | offerThrows i other =>
    exact restaged (s.commitOffsets none) i other .offering .failed rfl enabled.1 rfl
  | countDown i other => exact restaged { s with latch := _ } i other .counting .done rfl enabled rfl
  | execute t batch record rest p stage pool =>
    obtain ⟨bound, -⟩ := List.getElem?_eq_some_iff.mp found
    exact ⟨task, (List.getElem?_append_left bound).trans found, rfl, Or.inl rfl⟩
  | shutdownNow actor cursor expected p =>
    have dropped : ((s.setPool p (s.pools p).shutdownNow).dropQueued p).tasks[j]? =
        some (if task.pool = p ∧ task.stage = .queued then { task with stage := .dropped } else task) := by
      simp only [State.dropQueued, State.setPool, List.getElem?_map, found, Option.map_some]
    refine ⟨_, (congrArg (fun tasks : List Task => tasks[j]?) (tasks_setClosing actor _)).trans dropped, ?_⟩
    split
    · next queued => exact ⟨rfl, Or.inr (Or.inl ⟨queued.2, rfl⟩)⟩
    · exact ⟨rfl, Or.inl rfl⟩
  | closeConsumer | wakeupConsumer | shutdownPool | poolTerminated =>
    exact unchanged (tasks_setClosing _ _)
  | closeThrows | closeNull | executorsModified | clearExecutors => exact unchanged (tasks_endClosing _ _)
  | dataChange | shutdown =>
    apply unchanged
    simp only [effect]
    repeat' split
    all_goals rfl
  | _ => exact unchanged rfl

namespace State

/-- The records on the leg. -/
def carried (s : State) (leg : Leg) : List ConsumerRecord :=
  ((List.range s.threadCount).flatMap fun t => leg.hand (s.threads t).pc) ++
    (s.tasks.filter fun task => leg.carries task.stage).map Task.record

theorem mem_carried : r ∈ s.carried leg ↔
    (∃ t, t < s.threadCount ∧ r ∈ leg.hand (s.threads t).pc) ∨
      ∃ task ∈ s.tasks, leg.carries task.stage = true ∧ task.record = r := by
  simp only [carried, List.mem_append, List.mem_flatMap, List.mem_range, List.mem_map,
    List.mem_filter, and_assoc]

theorem mem_carried_effect {gone : Prop} (enabled : Enabled config s a) (carried : r ∈ s.carried leg)
    (drops : leg.carries .queued = true → leg.carries .dropped = true)
    (hands : ∀ t, a.mover = some t → r ∈ leg.hand (s.threads t).pc →
      gone ∨ r ∈ leg.hand ((effect s a).threads t).pc ∨
        ∃ task ∈ (effect s a).tasks, leg.carries task.stage = true ∧ task.record = r)
    (stages : ∀ j task stage, a.restage = some (j, stage) → s.tasks[j]? = some task → task.record = r →
      leg.carries task.stage = true → gone ∨ leg.carries stage = true) :
    gone ∨ r ∈ (effect s a).carried leg := by
  rcases mem_carried.mp carried with ⟨t, known, inHand⟩ | ⟨task, member, carries, same⟩
  · have stillKnown : t < (effect s a).threadCount := by
      by_cases spawns : a = .spawn
      · subst spawns
        exact Nat.lt_succ_of_lt known
      · rwa [threadCount_of_ne_spawn spawns]
    -- only the thread that moves can hand its record on
    by_cases moves : a.mover = some t
    · rcases hands t moves inHand with left | stays | handedOn
      · exact Or.inl left
      · exact Or.inr (mem_carried.mpr (Or.inl ⟨t, stillKnown, stays⟩))
      · exact Or.inr (mem_carried.mpr (Or.inr handedOn))
    · refine Or.inr (mem_carried.mpr (Or.inl ⟨t, stillKnown, ?_⟩))
      rw [threads_of_not_mover moves fun _ => Nat.ne_of_lt known]
      exact inHand
  · obtain ⟨j, found⟩ := List.mem_iff_getElem?.mp member
    obtain ⟨after, foundAfter, sameRecord, moved⟩ := task_effect enabled found
    have onTask : leg.carries after.stage = true → r ∈ (effect s a).carried leg := fun stillCarries =>
      mem_carried.mpr (Or.inr ⟨after, List.mem_of_getElem? foundAfter, stillCarries, sameRecord.trans same⟩)
    rcases moved with still | ⟨queued, dropped⟩ | moves
    · exact Or.inr (onTask (still ▸ carries))
    · exact Or.inr (onTask (dropped ▸ drops (queued ▸ carries)))
    · exact (stages j task after.stage moves found same carries).imp_right onTask

end State

end Zms.Client.Consumer.Kafka
