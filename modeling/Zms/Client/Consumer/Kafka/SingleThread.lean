import Zms.Client.Consumer.Kafka.Latch

/-! The pools of an orderly proxy run one task at a time, in the order of submission. -/

set_option autoImplicit false

namespace Zms.Client.Consumer.Kafka

open Zms.Transition

/-- A worker has taken the task. -/
def Stage.started : Stage → Bool
  | .listening | .offering | .counting | .done | .failed => true
  | .queued | .dropped => false

theorem Stage.live_of_not_started {stage : Stage} (notStarted : stage.started = false)
    (kept : stage ≠ .dropped) : stage = .queued := by
  cases stage with
  | queued => rfl
  | dropped => exact absurd rfl kept
  | _ => cases notStarted

theorem ThreadPoolExecutor.execute_single {pool pool' : ThreadPoolExecutor} {queued : Nat} {stage : Stage}
    (core : pool.corePoolSize = 1) (most : pool.maximumPoolSize = 1) (workers : pool.workers ≤ 1)
    (accepted : pool.execute queued = some (stage, pool')) :
    pool'.corePoolSize = 1 ∧ pool'.maximumPoolSize = 1 ∧ pool'.workers = 1 ∧
      (stage = .listening ∧ pool.workers = 0 ∨ stage = .queued ∧ pool.workers = 1) := by
  unfold execute at accepted
  rw [core, most] at accepted
  repeat' split at accepted
  all_goals cases accepted
  · exact ⟨rfl, rfl, by simp only; omega, .inl ⟨rfl, by omega⟩⟩
  · exact ⟨rfl, rfl, by simp only; omega, .inr ⟨rfl, by omega⟩⟩

theorem orderly_executors {config : Config} {pools : List ThreadPoolExecutor} (orderly : config.isOrderly = true)
    (executors : config.executors = some pools) : ∀ pool ∈ pools, pool = .new 1 1 1000 := by
  unfold Config.executors at executors
  cases properties : config.customizedProperties with
  | none =>
    rw [properties] at executors
    cases executors
    intro pool member
    cases member
  | some customized =>
    rw [properties] at executors
    simp only [addUserDefinedProperties, orderly, Bool.not_true, Bool.false_eq_true, if_false] at executors
    cases executors
    intro pool member
    exact List.eq_of_mem_replicate member

namespace State

variable {config : Config} {s : State} {a : Action}

/-- `start` adds pools of one thread. -/
def AddsSingle (s : State) : Prop := ∀ rest, s.control = .adding rest → ∀ pool ∈ rest, pool = .new 1 1 1000

theorem control_setClosing (actor : Actor) (pc : ClosePc) (rest : List ThreadPoolExecutor)
    (adding : (s.setClosing actor pc).control = .adding rest) : s.control = .adding rest := by
  cases actor with
  | control => cases adding
  | poll => exact adding

theorem control_endClosing (thrown : Bool) (actor : Actor) (rest : List ThreadPoolExecutor)
    (adding : (s.endClosing thrown actor).control = .adding rest) : s.control = .adding rest := by
  cases actor with
  | control restart =>
    simp only [endClosing] at adding
    split at adding <;> cases adding
  | poll => exact adding

theorem AddsSingle.effect (orderly : config.isOrderly = true) (adds : s.AddsSingle) (enabled : Enabled config s a) :
    (effect s a).AddsSingle := by
  intro rest adding
  cases a with
  | consumerStart pools =>
    cases adding
    exact orderly_executors orderly enabled.2.2
  | addExecutor pool later =>
    cases adding
    intro other member
    exact adds _ enabled other (List.mem_cons_of_mem _ member)
  | closeConsumer | wakeupConsumer | shutdownPool | poolTerminated | shutdownNow =>
    have before := control_setClosing _ _ rest adding
    exact adds rest before
  | closeThrows | closeNull | executorsModified | clearExecutors | unregisterThrows =>
    have before := control_endClosing _ _ rest adding
    exact adds rest before
  | dataChange | shutdown =>
    simp only [Kafka.effect] at adding
    repeat' split at adding
    all_goals first
      | exact adds rest adding
      | cases adding
  | startIgnored | newConsumer | setRunning | spawn | startFails | startReturns | startThrows => cases adding
  | _ => exact adds rest adding

/-- Every pool has one thread at most, which takes the tasks in the order of their submission. -/
structure SingleThreaded (s : State) : Prop where
  executors : ∀ p ∈ s.executors, p < s.poolCount
  pools : ∀ task ∈ s.tasks, task.pool < s.poolCount
  sizes : ∀ p, p < s.poolCount → (s.pools p).corePoolSize = 1 ∧ (s.pools p).maximumPoolSize = 1
  workers : ∀ p, p < s.poolCount → (s.pools p).workers ≤ 1
  busy : ∀ p, p < s.poolCount → s.busyIn p ≤ (s.pools p).workers
  manned : ∀ p, p < s.poolCount → (s.pools p).workers = 0 → s.queuedIn p = 0
  /-- When a task was taken, the earlier ones of its pool have ended. -/
  sorted : ∀ (i k : Nat) (earlier later : Task), i < k → s.tasks[i]? = some earlier → s.tasks[k]? = some later →
    earlier.pool = later.pool → later.stage.started = true → earlier.stage.live = false

theorem SingleThreaded.frame (single : s.SingleThreaded) {u : State} (workshop : u.workshop = s.workshop) :
    u.SingleThreaded := by
  simp only [State.workshop, Prod.mk.injEq] at workshop
  obtain ⟨executors, poolCount, tasks, pools⟩ := workshop
  refine ⟨?_, ?_, ?_, ?_, ?_, ?_, ?_⟩
  · simpa only [executors, poolCount] using single.executors
  · simpa only [tasks, poolCount] using single.pools
  · simpa only [pools, poolCount] using single.sizes
  · simpa only [pools, poolCount] using single.workers
  · simpa only [busyIn, tasks, pools, poolCount] using single.busy
  · simpa only [queuedIn, tasks, pools, poolCount] using single.manned
  · simpa only [tasks] using single.sorted

theorem SingleThreaded.setClosing (single : s.SingleThreaded) (actor : Actor) (pc : ClosePc) :
    (s.setClosing actor pc).SingleThreaded := by
  cases actor <;> exact single.frame rfl

theorem SingleThreaded.endClosing (single : s.SingleThreaded) (thrown : Bool) (actor : Actor) :
    (s.endClosing thrown actor).SingleThreaded := by
  cases actor <;> exact single.frame rfl

section Stages
variable {j : Nat} {task : Task} {before : Stage}

theorem busyIn_setStage (found : s.TaskAt j task before) (stage : Stage) (p : Nat) :
    (s.setStage j task stage).busyIn p + (if task.pool = p ∧ before.busy = true then 1 else 0) =
      s.busyIn p + (if task.pool = p ∧ stage.busy = true then 1 else 0) := by
  have moved := countP_setStage (fun task => decide (task.pool = p ∧ task.stage.busy = true)) found stage
  simp only [found.2, decide_eq_true_eq] at moved
  exact moved

theorem queuedIn_setStage (found : s.TaskAt j task before) (stage : Stage) (p : Nat) :
    (s.setStage j task stage).queuedIn p + (if task.pool = p ∧ before = .queued then 1 else 0) =
      s.queuedIn p + (if task.pool = p ∧ stage = .queued then 1 else 0) := by
  have moved := countP_setStage (fun task => decide (task.pool = p ∧ task.stage = .queued)) found stage
  simp only [found.2, decide_eq_true_eq] at moved
  exact moved

theorem getElem?_setStage {i : Nat} {after : Task} (found : s.TaskAt j task before) (stage : Stage)
    (here : (s.setStage j task stage).tasks[i]? = some after) :
    i ≠ j ∧ s.tasks[i]? = some after ∨ i = j ∧ after = { task with stage := stage } := by
  obtain ⟨bound, -⟩ := List.getElem?_eq_some_iff.mp found.1
  simp only [setStage] at here
  by_cases same : i = j
  · rw [same, List.getElem?_set_self bound] at here
    exact .inr ⟨same, (Option.some.inj here).symm⟩
  · rw [List.getElem?_set_ne (Ne.symm same)] at here
    exact .inl ⟨same, here⟩

theorem SingleThreaded.proceed (single : s.SingleThreaded) (found : s.TaskAt j task before) {stage : Stage}
    (busy : before.busy = true) (taken : stage ≠ .queued) : (s.setStage j task stage).SingleThreaded := by
  have member := List.mem_of_getElem? found.1
  have started : before.started = true := by cases before <;> first | rfl | cases busy
  have live : before.live = true := by simp [Stage.live, busy]
  have notQueued : before ≠ .queued := by
    rintro rfl
    cases busy
  refine ⟨single.executors, fun other inTasks => ?_, single.sizes, single.workers, fun p known => ?_,
    fun p known none => ?_, ?_⟩
  · rcases setStage_mem inTasks with old | rfl
    · exact single.pools other old
    · exact single.pools task member
  · have moved := busyIn_setStage found stage p
    have least := single.busy p known
    change (s.setStage j task stage).busyIn p ≤ (s.pools p).workers
    by_cases same : task.pool = p
    · simp only [same, busy, and_self, if_true, true_and] at moved
      split at moved <;> omega
    · simp only [same, false_and, if_false] at moved
      omega
  · have moved := queuedIn_setStage found stage p
    simp only [taken, notQueued, and_false, if_false] at moved
    exact moved.trans (single.manned p known none)
  · intro i k earlier later below first second samePool begun
    rcases getElem?_setStage found stage first with ⟨-, inFirst⟩ | ⟨rfl, rfl⟩ <;>
      rcases getElem?_setStage found stage second with ⟨-, inSecond⟩ | ⟨rfl, rfl⟩
    · exact single.sorted i k earlier later below inFirst inSecond samePool begun
    · exact single.sorted i k earlier task below inFirst found.1 samePool (found.2 ▸ started)
    · have ended := single.sorted i k task later below found.1 inSecond samePool begun
      rw [found.2, live] at ended
      cases ended
    · omega

theorem SingleThreaded.take (single : s.SingleThreaded) (found : s.TaskAt j task .queued)
    (idle : s.busyIn task.pool < (s.pools task.pool).workers)
    (first : ∀ earlier ∈ s.tasks.take j, ¬ (earlier.pool = task.pool ∧ earlier.stage = .queued)) :
    (s.setStage j task .listening).SingleThreaded := by
  have member := List.mem_of_getElem? found.1
  have known := single.pools task member
  have one := single.workers task.pool known
  refine ⟨single.executors, fun other inTasks => ?_, single.sizes, single.workers, fun p knownPool => ?_,
    fun p knownPool none => ?_, ?_⟩
  · rcases setStage_mem inTasks with old | rfl
    · exact single.pools other old
    · exact single.pools task member
  · have moved := busyIn_setStage found .listening p
    have least := single.busy p knownPool
    change (s.setStage j task .listening).busyIn p ≤ (s.pools p).workers
    simp only [Stage.busy, and_true, Bool.false_eq_true, and_false, if_false] at moved
    split at moved
    · next same =>
      subst same
      omega
    · omega
  · have moved := queuedIn_setStage found .listening p
    have empty := single.manned p knownPool none
    change (s.setStage j task .listening).queuedIn p = 0
    simp only [reduceCtorEq, and_false, if_false] at moved
    omega
  · intro i k earlier later below here there samePool begun
    rcases getElem?_setStage found .listening here with ⟨-, inFirst⟩ | ⟨rfl, rfl⟩ <;>
      rcases getElem?_setStage found .listening there with ⟨-, inSecond⟩ | ⟨rfl, rfl⟩
    · exact single.sorted i k earlier later below inFirst inSecond samePool begun
    · -- the worker is idle, and the task is the first that is queued
      have inTake : earlier ∈ s.tasks.take k := by
        refine List.mem_of_getElem? (i := i) ?_
        rw [List.getElem?_take_of_lt below]
        exact inFirst
      have notQueued : earlier.stage ≠ .queued := fun queued => first earlier inTake ⟨samePool, queued⟩
      have none : s.busyIn task.pool = 0 := by omega
      have notBusy : earlier.stage.busy = false := by
        have notCounted := List.countP_eq_zero.mp none earlier (List.mem_of_getElem? inFirst)
        simpa [show earlier.pool = task.pool from samePool] using notCounted
      simp [Stage.live, notQueued, notBusy]
    · have ended := single.sorted i k task later below found.1 inSecond samePool begun
      rw [found.2] at ended
      cases ended
    · omega

end Stages

theorem SingleThreaded.submit (single : s.SingleThreaded) (task : Task) {pool : ThreadPoolExecutor}
    (known : task.pool < s.poolCount)
    (accepted : (s.pools task.pool).execute (s.queuedIn task.pool) = some (task.stage, pool)) :
    ((s.setPool task.pool pool).submit task).SingleThreaded := by
  obtain ⟨core, most⟩ := single.sizes task.pool known
  obtain ⟨core', most', one, which⟩ :=
    ThreadPoolExecutor.execute_single core most (single.workers task.pool known) accepted
  have at_pool : Function.update s.pools task.pool pool task.pool = pool := Function.update_self _ _ _
  have elsewhere : ∀ p, p ≠ task.pool → Function.update s.pools task.pool pool p = s.pools p :=
    fun p other => Function.update_of_ne other _ _
  have grownBusy : ∀ p, ((s.setPool task.pool pool).submit task).busyIn p =
      s.busyIn p + if task.pool = p ∧ task.stage.busy = true then 1 else 0 := by
    intro p
    simp [busyIn, State.submit, setPool, List.countP_append, List.countP_cons]
  have grownQueued : ∀ p, ((s.setPool task.pool pool).submit task).queuedIn p =
      s.queuedIn p + if task.pool = p ∧ task.stage = .queued then 1 else 0 := by
    intro p
    simp [queuedIn, State.submit, setPool, List.countP_append, List.countP_cons]
  refine ⟨single.executors, fun other member => ?_, fun p knownPool => ?_, fun p knownPool => ?_,
    fun p knownPool => ?_, fun p knownPool none => ?_, ?_⟩
  · rcases List.mem_append.mp member with old | new
    · exact single.pools other old
    · exact List.mem_singleton.mp new ▸ known
  · by_cases same : p = task.pool
    · simpa only [State.submit, setPool, same, at_pool] using And.intro core' most'
    · simpa only [State.submit, setPool, elsewhere p same] using single.sizes p knownPool
  · by_cases same : p = task.pool
    · simp only [State.submit, setPool, same, at_pool, one, le_refl]
    · simpa only [State.submit, setPool, elsewhere p same] using single.workers p knownPool
  · rw [grownBusy]
    by_cases same : p = task.pool
    · subst same
      have least := single.busy task.pool known
      simp only [State.submit, setPool, at_pool, one, true_and]
      rcases which with ⟨stage, empty⟩ | ⟨stage, full⟩
      · simp only [stage, Stage.busy, if_true]
        omega
      · simp only [stage, Stage.busy, Bool.false_eq_true, if_false]
        omega
    · simpa only [State.submit, setPool, elsewhere p same, Ne.symm same, false_and, if_false, Nat.add_zero] using
        single.busy p knownPool
  · rw [grownQueued]
    by_cases same : p = task.pool
    · simp only [State.submit, setPool, same, at_pool, one] at none
      omega
    · simp only [State.submit, setPool, elsewhere p same] at none
      simp only [Ne.symm same, false_and, if_false, Nat.add_zero]
      exact single.manned p knownPool none
  · intro i k earlier later below first second samePool begun
    obtain ⟨bound, -⟩ := List.getElem?_eq_some_iff.mp second
    simp only [State.submit, setPool, List.length_append, List.length_singleton] at first second bound
    rw [List.getElem?_append_left (by omega)] at first
    by_cases old : k < s.tasks.length
    · rw [List.getElem?_append_left old] at second
      exact single.sorted i k earlier later below first second samePool begun
    · obtain rfl : k = s.tasks.length := by omega
      rw [List.getElem?_concat_length] at second
      cases second
      rcases which with ⟨-, empty⟩ | ⟨stage, -⟩
      · -- the pool had no thread, so none of its tasks is queued or running
        have none := single.manned task.pool known empty
        have least := single.busy task.pool known
        have member := List.mem_of_getElem? first
        have idle : s.busyIn task.pool = 0 := by omega
        have notBusy := List.countP_eq_zero.mp idle earlier member
        have notQueued := List.countP_eq_zero.mp none earlier member
        simp only [samePool, true_and, decide_eq_true_eq, Bool.not_eq_true] at notBusy notQueued
        simp [Stage.live, notBusy, notQueued]
      · rw [stage] at begun
        cases begun

theorem SingleThreaded.setPool (single : s.SingleThreaded) {p : Nat} {pool : ThreadPoolExecutor}
    (core : pool.corePoolSize = (s.pools p).corePoolSize) (most : pool.maximumPoolSize = (s.pools p).maximumPoolSize)
    (workers : pool.workers ≤ (s.pools p).workers) (busy : p < s.poolCount → s.busyIn p ≤ pool.workers)
    (manned : p < s.poolCount → pool.workers = 0 → s.queuedIn p = 0) : (s.setPool p pool).SingleThreaded := by
  have at_pool : Function.update s.pools p pool p = pool := Function.update_self _ _ _
  have elsewhere : ∀ q, q ≠ p → Function.update s.pools p pool q = s.pools q :=
    fun q other => Function.update_of_ne other _ _
  refine ⟨single.executors, single.pools, fun q known => ?_, fun q known => ?_, fun q known => ?_,
    fun q known none => ?_, single.sorted⟩ <;> by_cases same : q = p
  · subst same
    simpa only [State.setPool, at_pool, core, most] using single.sizes q known
  · simpa only [State.setPool, elsewhere q same] using single.sizes q known
  · subst same
    simpa only [State.setPool, at_pool] using workers.trans (single.workers q known)
  · simpa only [State.setPool, elsewhere q same] using single.workers q known
  · subst same
    exact (busy known).trans_eq (congrArg ThreadPoolExecutor.workers at_pool).symm
  · exact (single.busy q known).trans_eq (congrArg ThreadPoolExecutor.workers (elsewhere q same)).symm
  · subst same
    simp only [State.setPool, at_pool] at none
    exact manned known none
  · simp only [State.setPool, elsewhere q same] at none
    exact single.manned q known none

theorem SingleThreaded.addExecutor (single : s.SingleThreaded) (rest : List ThreadPoolExecutor) :
    (effect s (.addExecutor (.new 1 1 1000) rest)).SingleThreaded := by
  -- no task is in the pool yet
  have fresh : ∀ task ∈ s.tasks, task.pool ≠ s.poolCount := fun task member =>
    Nat.ne_of_lt (single.pools task member)
  have noneBusy : s.busyIn s.poolCount = 0 :=
    List.countP_eq_zero.mpr fun task member => by simp [fresh task member]
  have noneQueued : s.queuedIn s.poolCount = 0 :=
    List.countP_eq_zero.mpr fun task member => by simp [fresh task member]
  have at_pool : Function.update s.pools s.poolCount (.new 1 1 1000) s.poolCount = .new 1 1 1000 :=
    Function.update_self _ _ _
  have elsewhere : ∀ q, q ≠ s.poolCount →
      Function.update s.pools s.poolCount (.new 1 1 1000) q = s.pools q :=
    fun q other => Function.update_of_ne other _ _
  have older : ∀ q, q < s.poolCount + 1 → q ≠ s.poolCount → q < s.poolCount := fun q known other => by omega
  refine ⟨fun p member => ?_, fun task member => Nat.lt_succ_of_lt (single.pools task member),
    fun q known => ?_, fun q known => ?_, fun q known => ?_, fun q known none => ?_, single.sorted⟩
  · rcases List.mem_append.mp member with old | new
    · exact Nat.lt_succ_of_lt (single.executors p old)
    · exact List.mem_singleton.mp new ▸ Nat.lt_succ_self _
  all_goals by_cases same : q = s.poolCount
  · subst same
    simp only [Kafka.effect, State.setPool, at_pool]
    exact ⟨rfl, rfl⟩
  · simpa only [Kafka.effect, State.setPool, elsewhere q same] using single.sizes q (older q known same)
  · subst same
    simp only [Kafka.effect, State.setPool, at_pool]
    exact Nat.zero_le 1
  · simpa only [Kafka.effect, State.setPool, elsewhere q same] using single.workers q (older q known same)
  · subst same
    exact (le_of_eq noneBusy).trans (Nat.zero_le _)
  · refine (single.busy q (older q known same)).trans (le_of_eq ?_)
    simp only [Kafka.effect, State.setPool, elsewhere q same]
  · subst same
    exact noneQueued
  · simp only [Kafka.effect, State.setPool, elsewhere q same] at none
    exact single.manned q (older q known same) none

theorem SingleThreaded.dropQueued (single : s.SingleThreaded) (p : Nat) : (s.dropQueued p).SingleThreaded := by
  have before : ∀ (i : Nat) (after : Task), (s.dropQueued p).tasks[i]? = some after →
      ∃ task, s.tasks[i]? = some task ∧ after.pool = task.pool ∧
        (after.stage = task.stage ∨ task.stage = .queued ∧ after.stage = .dropped) := by
    intro i after here
    simp only [State.dropQueued, List.getElem?_map, Option.map_eq_some_iff] at here
    obtain ⟨task, found, rfl⟩ := here
    refine ⟨task, found, ?_⟩
    split
    · next queued => exact ⟨rfl, .inr ⟨queued.2, rfl⟩⟩
    · exact ⟨rfl, .inl rfl⟩
  have sameBusy : ∀ q, (s.dropQueued p).busyIn q = s.busyIn q := by
    intro q
    simp only [busyIn, State.dropQueued, List.countP_map]
    apply List.countP_congr
    intro task _
    simp only [Function.comp]
    split
    · next queued => simp [queued.2, Stage.busy]
    · rfl
  have fewerQueued : ∀ q, (s.dropQueued p).queuedIn q ≤ s.queuedIn q := by
    intro q
    simp only [queuedIn, State.dropQueued, List.countP_map]
    apply List.countP_mono_left
    intro task _
    simp only [Function.comp]
    split
    · simp
    · exact id
  refine ⟨single.executors, fun other member => ?_, single.sizes, single.workers, fun q known => ?_,
    fun q known none => ?_, ?_⟩
  · obtain ⟨i, here⟩ := List.mem_iff_getElem?.mp member
    obtain ⟨task, found, samePool, -⟩ := before i other here
    rw [samePool]
    exact single.pools task (List.mem_of_getElem? found)
  · rw [sameBusy]
    exact single.busy q known
  · have empty := single.manned q known none
    have fewer := fewerQueued q
    omega
  · intro i k earlier later below first second samePool begun
    obtain ⟨task, foundFirst, poolFirst, stageFirst⟩ := before i earlier first
    obtain ⟨other, foundSecond, poolSecond, stageSecond⟩ := before k later second
    rcases stageSecond with sameSecond | ⟨-, droppedSecond⟩
    · have ended := single.sorted i k task other below foundFirst foundSecond
        (poolFirst.symm.trans (samePool.trans poolSecond)) (sameSecond ▸ begun)
      rcases stageFirst with sameFirst | ⟨-, droppedFirst⟩
      · rw [sameFirst]
        exact ended
      · rw [droppedFirst]
        rfl
    · rw [droppedSecond] at begun
      cases begun

theorem SingleThreaded.effect (single : s.SingleThreaded) (adds : s.AddsSingle) (enabled : Enabled config s a) :
    (effect s a).SingleThreaded := by
  cases a with
  | execute t batch record rest p stage pool =>
    have known := single.executors p (List.mem_of_getElem? enabled.2.1)
    have submitted := single.submit ⟨record, batch, p, stage⟩ known enabled.2.2
    exact submitted.frame rfl
  | take j task => exact single.take enabled.1 enabled.2.2.1 enabled.2.2.2
  | listen j task outcome =>
    exact (single.frame (u := s.finish [task.record] outcome) rfl).proceed enabled rfl (by simp)
  | offer j task => exact (single.frame (u := s.offer task.record) rfl).proceed enabled.1 rfl (by simp)
  | offerThrows j task => exact (single.frame (u := s.commitOffsets none) rfl).proceed enabled.1 rfl (by simp)
  | countDown j task =>
    have counted := single.frame
      (u := { s with latch := Function.update s.latch task.batch (s.latch task.batch - 1) }) rfl
    exact counted.proceed enabled rfl (by simp)
  | addExecutor pool rest =>
    obtain rfl := adds _ enabled pool List.mem_cons_self
    exact single.addExecutor rest
  | retireWorker p =>
    obtain ⟨none, idle, -⟩ := enabled
    refine single.setPool rfl rfl (Nat.sub_le _ _) (fun _ => ?_) fun _ _ => none
    change s.busyIn p ≤ (s.pools p).workers - 1
    omega
  | shutdownPool actor cursor expected p =>
    have replaced : (s.setPool p (s.pools p).shutdown).SingleThreaded :=
      single.setPool rfl rfl le_rfl (single.busy p) (single.manned p)
    exact replaced.setClosing _ _
  | shutdownNow actor cursor expected p =>
    have replaced : (s.setPool p (s.pools p).shutdownNow).SingleThreaded :=
      single.setPool rfl rfl le_rfl (single.busy p) (single.manned p)
    exact (replaced.dropQueued p).setClosing _ _
  | clearExecutors actor expected =>
    have cleared : ({ s with executors := [], modCount := s.modCount + 1 } : State).SingleThreaded :=
      ⟨fun p member => absurd member List.not_mem_nil, single.pools, single.sizes, single.workers, single.busy,
        single.manned, single.sorted⟩
    exact cleared.endClosing _ _
  | closeConsumer actor c =>
    exact (single.frame (u := { s with closed := Function.update s.closed c true }) rfl).setClosing _ _
  | wakeupConsumer | poolTerminated => exact single.setClosing _ _
  | closeThrows actor c =>
    exact (single.frame (u := { s with closed := Function.update s.closed c true }) rfl).endClosing _ _
  | unregisterThrows restart => exact single.endClosing true (.control restart)
  | closeNull | executorsModified => exact single.endClosing _ _
  | dataChange | shutdown =>
    simp only [Kafka.effect]
    repeat' split
    all_goals exact single.frame rfl
  | _ => exact single.frame rfl

end State

open State

theorem singleThreaded_of_orderly {config : Config} (orderly : config.isOrderly = true) {s : State}
    (reached : (machine config).Reachable s) : s.SingleThreaded := by
  have kept : s.SingleThreaded ∧ s.AddsSingle := by
    refine reached.invariant (fun s => s.SingleThreaded ∧ s.AddsSingle) ?_ fun s a both enabled =>
      ⟨both.1.effect both.2 enabled, both.2.effect orderly enabled⟩
    rintro _ ⟨bindingTopic, rfl⟩
    refine ⟨⟨?_, ?_, ?_, ?_, ?_, ?_, ?_⟩, fun rest adding => ?_⟩
    · exact fun p member => absurd member List.not_mem_nil
    · exact fun task member => absurd member List.not_mem_nil
    · exact fun p known => absurd known (Nat.not_lt_zero p)
    · exact fun p known => absurd known (Nat.not_lt_zero p)
    · exact fun p known => absurd known (Nat.not_lt_zero p)
    · exact fun p known => absurd known (Nat.not_lt_zero p)
    · intro i k earlier later _ first
      cases first
    · cases adding
  exact kept.1

end Zms.Client.Consumer.Kafka
