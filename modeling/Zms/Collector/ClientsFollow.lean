import Zms.Collector.Clients
import Zms.Collector.ConsumersApart
import Zms.Collector.LiveExecutors

/-! When the tasks of the collector get clients of their own cluster's address, and none is left
of a cluster that is removed. -/

set_option autoImplicit false

namespace Zms.Collector.Clients

open Zms.Transition KConsumerPoolManager

/-! ### Sound clients -/

def AllClosed (s : State) (name : String) : Prop :=
  (∀ type, ∀ cluster ∈ (s.producers type).created, cluster.clusterName ≠ name) ∧
    ∀ kConsumer < s.consumers.created, (s.createdFor kConsumer).clusterName = name → kConsumer ∈ s.consumers.closed

/-- The cluster is removed, and no task of it runs or will run. -/
structure Gone (s : State) (name : String) : Prop where
  removed : s.runner.currentClusters.containsKey name = false
  live : ∀ executor ∈ s.runner.live, executor.cluster.clusterName ≠ name
  tasks : ∀ id task, s.tasks id = some task → task.executor.cluster.clusterName ≠ name

structure Sound (s : State) : Prop where
  producers : ∀ id task type, s.tasks id = some task → task.executor.cluster.brokerType = some type →
    ∀ producer ∈ task.producers, ∃ cluster, (s.producers type).created[producer]? = some cluster ∧
      cluster.bootAddr = task.executor.cluster.bootAddr
  consumers : ∀ id task kConsumer, s.tasks id = some task → Lent s.consumers id kConsumer →
    kConsumer ∉ s.consumers.closed ∧ (s.createdFor kConsumer).bootAddr = task.executor.cluster.bootAddr
  removed : ∀ name, Gone s name → AllClosed s name

/-! ### The condition -/

/-- The managers: of producers for a broker type, and of consumers. -/
inductive Manager where
  | producers (type : BrokerType)
  | consumers

def Manager.type : Manager → BrokerType
  | .producers type => type
  | .consumers => .KAFKA

def Asks : Manager → Executor → Prop
  | .producers type => AsksProducer type
  | .consumers => AsksConsumer

/-- The manager has a client under the name that was created for the cluster. -/
def Keeps (s : State) (name : String) (cluster : ClusterMetadata) : Manager → Prop
  | .producers type => ∃ producer, (s.producers type).producers name = some producer ∧
      (s.producers type).created[producer]? = some cluster
  | .consumers => ∃ kConsumer, Held s.consumers name kConsumer ∧ s.createdFor kConsumer = cluster

/-- Its tasks may still ask for clients. -/
def Active (s : State) (executor : Executor) : Prop :=
  executor ∈ s.runner.live ∨ ∃ task, Runs s task ∧ task.executor = executor

/-- A client for the cluster suits all who may ask the manager for it, and the cluster is not removed. -/
structure Suits (s : State) (manager : Manager) (cluster : ClusterMetadata) : Prop where
  address : ∀ executor, Active s executor → Asks manager executor →
    executor.cluster.clusterName = cluster.clusterName → cluster.bootAddr = executor.cluster.bootAddr
  present : s.runner.currentClusters.containsKey cluster.clusterName = true ∨
    ∃ executor ∈ s.runner.live, executor.cluster.clusterName = cluster.clusterName

/-- A refresh goes through that takes the cluster out of the known ones, and none of its executors
has another broker type and so outlives it. -/
def TakesAway (isIgnoreCluster : String → Bool) (s : Runner) (event : Event) (name : String) : Prop :=
  ∃ newClusters throws, event = .childChange newClusters throws ∧ Completes isIgnoreCluster throws s newClusters ∧
    ∃ old ∈ s.dropped newClusters, old.clusterName = name ∧
      ∀ executor ∈ s.live, executor.cluster.clusterName = name → executor.cluster.brokerType = old.brokerType

/-- An event schedules an address under a name only while each manager that will be asked for it keeps
no client of another, and takes a cluster away only when its clients are closed; a client is created
only where it suits. -/
def Careful (isIgnoreCluster : String → Bool) (s : State) : Action → Prop
  | .event event =>
      (∀ cluster, Schedules isIgnoreCluster s.runner event cluster → ∀ manager,
        cluster.brokerType = some manager.type → ∀ kept, Keeps s cluster.clusterName kept manager →
          kept.bootAddr = cluster.bootAddr) ∧
        ∀ name, TakesAway isIgnoreCluster s.runner event name → AllClosed s name
  | .newProducer type task works => works = true → Suits s (.producers type) task.executor.cluster
  | .getKafkaConsumerClient task works =>
      (∀ pooled, ¬Pooled s.consumers task.executor.cluster.clusterName pooled) →
        (∃ i < K_CONSUMER_POOL_SIZE, works i = true) → Suits s .consumers task.executor.cluster
  | _ => True

/-! ### What keeps the clients sound -/

structure Follows (s : State) : Prop where
  mapped : Mapped s.runner
  apart : Apart s.consumers
  agree : ∀ manager name kept, Keeps s name kept manager → ∀ executor, Active s executor → Asks manager executor →
    executor.cluster.clusterName = name → kept.bootAddr = executor.cluster.bootAddr
  valid : ∀ type name producer, (s.producers type).producers name = some producer →
    producer < (s.producers type).created.length
  got : ∀ task type, Runs s task → task.executor.cluster.brokerType = some type → ∀ producer ∈ task.producers,
    ∃ cluster, (s.producers type).created[producer]? = some cluster ∧
      cluster.bootAddr = task.executor.cluster.bootAddr
  key : ∀ id task, s.tasks id = some task → task.executor.id = id
  call : ∀ id call, s.consumers.calls id = some call → ∃ task, s.tasks id = some task ∧ AsksConsumer task.executor ∧
    call.clusterName = task.executor.cluster.clusterName
  alive : ∀ name, s.runner.currentClusters.containsKey name = false →
    (∀ executor ∈ s.runner.live, executor.cluster.clusterName ≠ name) → AllClosed s name
  fresh : s.runner.phase = .created → s.runner.live = [] ∧ (∀ id, s.tasks id = none) ∧ ∀ name, AllClosed s name

section Steps
variable {s : State} {isIgnoreCluster : String → Bool}

theorem Follows.runs (follows : Follows s) {id : Nat} {task : Task} (found : s.tasks id = some task) :
    Runs s task := by
  unfold Runs
  rw [follows.key id task found]
  exact found

theorem Follows.sound (follows : Follows s) : Sound s where
  producers id task type found := follows.got task type (follows.runs found)
  consumers id task kConsumer found lent := by
    refine ⟨follows.apart.open lent, ?_⟩
    obtain ⟨name, lent⟩ := lent
    obtain ⟨user, isUser, asks, named⟩ := follows.call id _ lent
    obtain rfl := Option.some.inj (isUser.symm.trans found)
    have active : Active s user.executor := .inr ⟨user, follows.runs found, rfl⟩
    exact follows.agree .consumers name _ ⟨kConsumer, .inr ⟨id, lent⟩, rfl⟩ user.executor active asks named.symm
  removed name gone := follows.alive name gone.removed gone.live

theorem type_of_asks {manager : Manager} {executor : Executor} (asks : Asks manager executor) :
    executor.cluster.brokerType = some manager.type := by
  cases manager with
  | producers type => exact asks.2
  | consumers => exact asks.2

/-! ### Events -/

theorem follows_event (follows : Follows s) {event : Event} (enabled : s.runner.guard event)
    (careful : Careful isIgnoreCluster s (.event event)) :
    Follows { s with runner := s.runner.effect isIgnoreCluster event } := by
  have leaves := runner_leaves isIgnoreCluster follows.mapped enabled
  obtain ⟨suits, closes⟩ := careful
  refine ⟨leaves.mapped, follows.apart, ?_, follows.valid, follows.got, follows.key, follows.call, ?_,
    fun created => absurd created leaves.started⟩
  · intro manager name kept keeps executor active asks named
    rcases active with live | runs
    · rcases leaves.only executor live with before | scheduled
      · exact follows.agree manager name kept keeps executor (.inl before) asks named
      · rw [← named] at keeps
        exact suits executor.cluster scheduled manager (type_of_asks asks) kept keeps
    · exact follows.agree manager name kept keeps executor (.inr runs) asks named
  · intro name removed none
    by_cases known : s.runner.currentClusters.containsKey name = true
    · rcases leaves.currentClusters with same | created | ⟨newClusters, throws, rfl, completes, isNew⟩
      · rw [same, known] at removed
        cases removed
      · exact (follows.fresh created).2.2 name
      · rw [isNew] at removed
        obtain ⟨old, member, isName⟩ := Clusters.containsKey_iff.mp known
        have dropped : old ∈ s.runner.dropped newClusters := mem_dropped.mpr ⟨member, isName ▸ removed⟩
        by_cases alike : ∀ executor ∈ s.runner.live, executor.cluster.clusterName = name →
            executor.cluster.brokerType = old.brokerType
        · exact closes name ⟨newClusters, throws, rfl, completes, old, dropped, isName, alike⟩
        · -- an executor of another type outlives the cluster
          obtain ⟨executor, live, named, differs⟩ : ∃ executor ∈ s.runner.live, executor.cluster.clusterName = name ∧
              executor.cluster.brokerType ≠ old.brokerType := by
            by_contra nobody
            exact alike fun executor live named => by_contra fun differs => nobody ⟨executor, live, named, differs⟩
          have started : s.runner.phase ≠ .created := fun created => by cases created.symm.trans enabled
          rcases leaves.stays started executor live with stays | ⟨other, isKnown, sameName, sameType⟩
          · exact absurd named (none executor stays)
          · have isOld : other = old := List.inj_on_of_nodup_map s.runner.currentClusters.once isKnown member
              (sameName.trans (named.trans isName.symm))
            exact absurd (isOld ▸ sameType).symm differs
    · by_cases created : s.runner.phase = .created
      · exact (follows.fresh created).2.2 name
      · refine follows.alive name (Bool.eq_false_of_not_eq_true known) fun executor live named => ?_
        rcases leaves.stays created executor live with stays | ⟨old, isKnown, sameName, _⟩
        · exact none executor stays named
        · exact known (Clusters.containsKey_iff.mpr ⟨old, isKnown, sameName.trans named⟩)

/-! ### Tasks -/

theorem tasks_setTask (task : Task) :
    (s.setTask task).tasks = Function.update s.tasks task.executor.id (some task) := rfl

theorem runs_setTask {task other : Task} (runs : Runs (s.setTask task) other) :
    other = task ∨ other.executor.id ≠ task.executor.id ∧ Runs s other := by
  unfold Runs at runs
  rw [tasks_setTask] at runs
  by_cases same : other.executor.id = task.executor.id
  · rw [same, Function.update_self] at runs
    exact .inl (Option.some.inj runs).symm
  · rw [Function.update_of_ne same] at runs
    exact .inr ⟨same, runs⟩

theorem Follows.started (follows : Follows s) {executor : Executor} (active : Active s executor) :
    s.runner.phase ≠ .created := by
  intro created
  obtain ⟨nobody, idle, _⟩ := follows.fresh created
  rcases active with live | ⟨task, runs, _⟩
  · rw [nobody] at live
    cases live
  · cases (idle task.executor.id).symm.trans runs

theorem follows_setTask (follows : Follows s) {executor : Executor} {creating : Bool} {producers : List Nat}
    (active : Active s executor)
    (asks : ∀ call, s.consumers.calls executor.id = some call →
      AsksConsumer executor ∧ call.clusterName = executor.cluster.clusterName)
    (got : ∀ type, executor.cluster.brokerType = some type → ∀ producer ∈ producers,
      ∃ cluster, (s.producers type).created[producer]? = some cluster ∧ cluster.bootAddr = executor.cluster.bootAddr) :
    Follows (s.setTask ⟨executor, creating, producers⟩) := by
  have wasActive {other : Executor} (isActive : Active (s.setTask ⟨executor, creating, producers⟩) other) :
      Active s other := by
    rcases isActive with live | ⟨other, runs, rfl⟩
    · exact .inl live
    · rcases runs_setTask runs with rfl | ⟨_, before⟩
      · exact active
      · exact .inr ⟨other, before, rfl⟩
  refine ⟨follows.mapped, follows.apart, ?_, follows.valid, ?_, ?_, ?_, follows.alive, ?_⟩
  · exact fun manager name kept keeps other isActive => follows.agree manager name kept keeps other (wasActive isActive)
  · intro other type runs own
    rcases runs_setTask runs with rfl | ⟨_, before⟩
    · exact got type own
    · exact follows.got other type before own
  · intro id other found
    rw [tasks_setTask] at found
    by_cases own : id = executor.id
    · rw [own, Function.update_self] at found
      rw [← Option.some.inj found, own]
    · rw [Function.update_of_ne own] at found
      exact follows.key id other found
  · intro id call called
    by_cases own : id = executor.id
    · rw [own] at called ⊢
      exact ⟨_, Function.update_self _ _ _, asks call called⟩
    · obtain ⟨user, found, asksFor⟩ := follows.call id call called
      exact ⟨user, (Function.update_of_ne own _ _).trans found, asksFor⟩
  · exact fun created => absurd created (follows.started active)

theorem Follows.calls (follows : Follows s) {task : Task} (runs : Runs s task) (call : Call)
    (called : s.consumers.calls task.executor.id = some call) :
    AsksConsumer task.executor ∧ call.clusterName = task.executor.cluster.clusterName := by
  obtain ⟨user, found, asks⟩ := follows.call _ call called
  obtain rfl := Option.some.inj (found.symm.trans runs)
  exact asks

theorem follows_run (follows : Follows s) {executor : Executor} (enabled : guard s (.run executor)) :
    Follows (s.setTask ⟨executor, false, []⟩) := by
  obtain ⟨live, idle⟩ := enabled
  refine follows_setTask follows (.inl live) ?_ fun _ _ _ impossible => by cases impossible
  intro call called
  obtain ⟨user, found, _⟩ := follows.call _ call called
  cases idle.symm.trans found

theorem follows_getProducer (follows : Follows s) {type : BrokerType} {task : Task}
    (enabled : guard s (.getProducer type task)) : Follows (s.getProducer type task) := by
  obtain ⟨runs, _, asks⟩ := enabled
  have active : Active s task.executor := .inr ⟨task, runs, rfl⟩
  unfold State.getProducer
  split
  · next producer found =>
      refine follows_setTask follows active (follows.calls runs) ?_
      intro type' own other member
      rcases List.mem_cons.mp member with rfl | before
      · obtain rfl := Option.some.inj (asks.2.symm.trans own)
        have isCreated := List.getElem?_eq_getElem (follows.valid type _ other found)
        refine ⟨_, isCreated, ?_⟩
        exact follows.agree (.producers type) _ _ ⟨other, found, isCreated⟩ task.executor active asks rfl
      · exact follows.got task type' runs own other before
  · exact follows_setTask follows active (follows.calls runs) (follows.got task · runs)

section Put
variable {type : BrokerType} {cluster : ClusterMetadata} {producers : BrokerType → Producers}

theorem producers_of_put (put : producers = Function.update s.producers type ((s.producers type).put cluster))
    {other : BrokerType} {name : String} {producer : Nat} (found : (producers other).producers name = some producer) :
    other = type ∧ name = cluster.clusterName ∧ producer = (s.producers type).created.length ∨
      (s.producers other).producers name = some producer := by
  rw [put] at found
  by_cases same : other = type
  · rw [same, Function.update_self] at found
    change Function.update (s.producers type).producers cluster.clusterName _ name = some producer at found
    by_cases own : name = cluster.clusterName
    · rw [own, Function.update_self] at found
      exact .inl ⟨same, own, (Option.some.inj found).symm⟩
    · rw [Function.update_of_ne own] at found
      exact .inr (same ▸ found)
  · rw [Function.update_of_ne same] at found
    exact .inr found

theorem created_of_put (put : producers = Function.update s.producers type ((s.producers type).put cluster))
    (other : BrokerType) :
    (producers other).created = (s.producers other).created ++ if other = type then [cluster] else [] := by
  rw [put]
  by_cases same : other = type
  · rw [same, Function.update_self, if_pos rfl]
    rfl
  · rw [Function.update_of_ne same, if_neg same, List.append_nil]

theorem getElem?_of_put (put : producers = Function.update s.producers type ((s.producers type).put cluster))
    {other : BrokerType} {producer : Nat} (bound : producer < (s.producers other).created.length) :
    (producers other).created[producer]? = (s.producers other).created[producer]? := by
  rw [created_of_put put, List.getElem?_append_left bound]

theorem follows_put (follows : Follows s) (suits : Suits s (.producers type) cluster)
    (started : s.runner.phase ≠ .created)
    (put : producers = Function.update s.producers type ((s.producers type).put cluster)) :
    Follows { s with producers } := by
  refine ⟨follows.mapped, follows.apart, ?_, ?_, ?_, follows.key, follows.call, ?_,
    fun created => absurd created started⟩
  · intro manager name kept keeps executor active asks named
    cases manager with
    | producers other =>
        obtain ⟨producer, found, isCreated⟩ := keeps
        rcases producers_of_put put found with ⟨rfl, rfl, rfl⟩ | before
        · rw [created_of_put put, if_pos rfl, List.getElem?_concat_length] at isCreated
          rw [← Option.some.inj isCreated]
          exact suits.address executor active asks named
        · rw [getElem?_of_put put (follows.valid other name producer before)] at isCreated
          exact follows.agree (.producers other) name kept ⟨producer, before, isCreated⟩ executor active asks named
    | consumers => exact follows.agree .consumers name kept keeps executor active asks named
  · intro other name producer found
    dsimp only
    rw [created_of_put put, List.length_append]
    rcases producers_of_put put found with ⟨rfl, rfl, rfl⟩ | before
    · rw [if_pos rfl, List.length_singleton]
      exact Nat.lt_succ_self _
    · exact Nat.lt_add_right _ (follows.valid other name producer before)
  · intro task other runs own producer member
    obtain ⟨made, isCreated, same⟩ := follows.got task other runs own producer member
    refine ⟨made, ?_, same⟩
    dsimp only
    rw [getElem?_of_put put (List.getElem?_eq_some_iff.mp isCreated).1, isCreated]
  · intro name removed none
    obtain ⟨noProducer, closed⟩ := follows.alive name removed none
    refine ⟨fun other made member named => ?_, closed⟩
    dsimp only at member
    rw [created_of_put put] at member
    rcases List.mem_append.mp member with before | isNew
    · exact noProducer other made before named
    · have isCluster : made = cluster := by
        split at isNew
        · exact List.mem_singleton.mp isNew
        · cases isNew
      rw [isCluster] at named
      rcases suits.present with present | ⟨executor, live, same⟩
      · rw [named, removed] at present
        cases present
      · exact none executor live (same.trans named)

end Put

theorem follows_newProducer (follows : Follows s) {type : BrokerType} {task : Task} {works : Bool}
    (enabled : guard s (.newProducer type task works))
    (careful : works = true → Suits s (.producers type) task.executor.cluster) :
    Follows (s.newProducer type task works) := by
  obtain ⟨runs, _, asks⟩ := enabled
  have active : Active s task.executor := .inr ⟨task, runs, rfl⟩
  cases works with
  | false => exact follows_setTask follows active (follows.calls runs) (follows.got task · runs)
  | true =>
      have put := follows_put follows (careful rfl) (follows.started active) rfl
      refine follows_setTask put active (follows.calls runs) ?_
      intro other own producer member
      rcases List.mem_cons.mp member with rfl | before
      · obtain rfl := Option.some.inj (asks.2.symm.trans own)
        refine ⟨task.executor.cluster, ?_, rfl⟩
        dsimp only
        rw [created_of_put rfl, if_pos rfl, List.getElem?_concat_length]
      · exact put.got task other runs own producer before

theorem follows_consumers (follows : Follows s) {consumers : KConsumerPoolManager.State Nat}
    {createdFor : Nat → ClusterMetadata} (started : s.runner.phase ≠ .created) (apart : Apart consumers)
    (agree : ∀ name kept, Keeps { s with consumers, createdFor } name kept .consumers → ∀ executor, Active s executor →
      AsksConsumer executor → executor.cluster.clusterName = name → kept.bootAddr = executor.cluster.bootAddr)
    (call : ∀ id call, consumers.calls id = some call → ∃ task, s.tasks id = some task ∧ AsksConsumer task.executor ∧
      call.clusterName = task.executor.cluster.clusterName)
    (alive : ∀ name, s.runner.currentClusters.containsKey name = false →
      (∀ executor ∈ s.runner.live, executor.cluster.clusterName ≠ name) →
        ∀ kConsumer < consumers.created, (createdFor kConsumer).clusterName = name → kConsumer ∈ consumers.closed) :
    Follows { s with consumers, createdFor } where
  mapped := follows.mapped
  apart := apart
  agree manager name kept keeps executor active asks named := by
    cases manager with
    | producers type => exact follows.agree (.producers type) name kept keeps executor active asks named
    | consumers => exact agree name kept keeps executor active asks named
  valid := follows.valid
  got := follows.got
  key := follows.key
  call := call
  alive name removed none := ⟨(follows.alive name removed none).1, alive name removed none⟩
  fresh created := absurd created started

theorem follows_getKafkaConsumerClient (follows : Follows s) {task : Task} {works : Nat → Bool}
    (enabled : guard s (.getKafkaConsumerClient task works))
    (careful : Careful isIgnoreCluster s (.getKafkaConsumerClient task works)) :
    Follows (s.getKafkaConsumerClient task works) := by
  obtain ⟨runs, _, asksConsumer⟩ := enabled
  have got := acquired follows.apart task.executor.id task.executor.cluster.clusterName works
  have suits (creates : s.consumers.created < (KConsumerPoolManager.effect s.consumers
      (.acquire task.executor.id task.executor.cluster.clusterName works)).created) :
      Suits s .consumers task.executor.cluster := careful (got.creates creates).1 (got.creates creates).2
  refine follows_consumers follows (follows.started (.inr ⟨task, runs, rfl⟩)) got.apart ?_ ?_ ?_
  · rintro name kept ⟨kConsumer, held, rfl⟩ executor active asks named
    dsimp only at held ⊢
    rcases got.held name kConsumer held with before | ⟨rfl, isNew, bound⟩
    · have old : kConsumer < s.consumers.created := by
        rcases before with pooled | ⟨id, lent⟩
        · exact follows.apart.created kConsumer (.pooled name) pooled
        · exact follows.apart.created kConsumer (.lent id) ⟨name, lent⟩
      rw [if_neg (fun isNew => absurd old (not_lt.mpr isNew.1))]
      exact follows.agree .consumers name _ ⟨kConsumer, before, rfl⟩ executor active asks named
    · rw [if_pos ⟨isNew, bound⟩]
      exact (suits (isNew.trans_lt bound)).address executor active asks named
  · intro id call called
    obtain ⟨pooled, calls⟩ := got.calls
    rw [calls] at called
    by_cases own : id = task.executor.id
    · rw [own, Function.update_self] at called
      rw [own, ← Option.some.inj called]
      exact ⟨task, runs, asksConsumer, rfl⟩
    · rw [Function.update_of_ne own] at called
      exact follows.call id call called
  · intro name removed none kConsumer bound named
    rw [got.closed]
    split at named
    · next isNew =>
        rcases (suits (isNew.1.trans_lt isNew.2)).present with present | ⟨executor, live, same⟩
        · rw [named, removed] at present
          cases present
        · exact absurd (same.trans named) (none executor live)
    · next notNew =>
        refine (follows.alive name removed none).2 kConsumer ?_ named
        by_contra isNew
        exact notNew ⟨not_lt.mp isNew, bound⟩

theorem follows_release (follows : Follows s) {task : Task} (enabled : guard s (.release task)) :
    Follows (s.release task) := by
  obtain ⟨runs, calls⟩ := enabled
  obtain ⟨⟨name, kConsumer⟩, lent⟩ := Option.isSome_iff_exists.mp calls
  have gave := released follows.apart lent
  refine follows_consumers follows (follows.started (.inr ⟨task, runs, rfl⟩)) gave.apart ?_ ?_ ?_
  · rintro name kept ⟨kConsumer, held, rfl⟩ executor active asks named
    exact follows.agree .consumers name _ ⟨kConsumer, gave.held name kConsumer held, rfl⟩ executor active asks named
  · intro id call called
    rw [gave.calls] at called
    by_cases own : id = task.executor.id
    · rw [own, Function.update_self] at called
      cases called
    · rw [Function.update_of_ne own] at called
      exact follows.call id call called
  · intro name removed none kConsumer bound named
    rw [gave.created] at bound
    exact gave.closed kConsumer ((follows.alive name removed none).2 kConsumer bound named)

theorem follows_finish (follows : Follows s) {task : Task} (enabled : guard s (.finish task)) :
    Follows { s with tasks := Function.update s.tasks task.executor.id none } := by
  obtain ⟨runs, _, idle⟩ := enabled
  have started := follows.started (.inr ⟨task, runs, rfl⟩)
  have others {id : Nat} {other : Task} (found : Function.update s.tasks task.executor.id none id = some other) :
      s.tasks id = some other := by
    by_cases own : id = task.executor.id
    · rw [own, Function.update_self] at found
      cases found
    · rwa [Function.update_of_ne own] at found
  refine ⟨follows.mapped, follows.apart, ?_, follows.valid, ?_, ?_, ?_, follows.alive,
    fun created => absurd created started⟩
  · intro manager name kept keeps executor active
    refine follows.agree manager name kept keeps executor ?_
    rcases active with live | ⟨other, runsOther, same⟩
    · exact .inl live
    · exact .inr ⟨other, others runsOther, same⟩
  · exact fun other type runsOther => follows.got other type (others runsOther)
  · exact fun id other found => follows.key id other (others found)
  · intro id call called
    obtain ⟨user, found, asks⟩ := follows.call id call called
    refine ⟨user, ?_, asks⟩
    by_cases own : id = task.executor.id
    · rw [own, idle] at called
      cases called
    · exact (Function.update_of_ne own _ _).trans found

theorem follows_effect (follows : Follows s) {a : Action} (enabled : guard s a)
    (careful : Careful isIgnoreCluster s a) : Follows (effect isIgnoreCluster s a) := by
  cases a with
  | event event => exact follows_event follows enabled careful
  | run executor => exact follows_run follows enabled
  | getProducer type task => exact follows_getProducer follows enabled
  | newProducer type task works => exact follows_newProducer follows enabled careful
  | getKafkaConsumerClient task works => exact follows_getKafkaConsumerClient follows enabled careful
  | release task => exact follows_release follows enabled
  | finish task => exact follows_finish follows enabled

theorem not_keeps_of_initial (initial : Initial s) (name : String) (kept : ClusterMetadata) (manager : Manager) :
    ¬Keeps s name kept manager := by
  obtain ⟨_, _, producers, consumers⟩ := initial
  intro keeps
  cases manager with
  | producers type =>
      obtain ⟨producer, impossible, _⟩ := keeps
      rw [producers] at impossible
      cases impossible
  | consumers =>
      obtain ⟨kConsumer, held, _⟩ := keeps
      rw [consumers] at held
      exact not_held_start name kConsumer held

theorem follows_initial (initial : Initial s) : Follows s := by
  have keepsNothing := not_keeps_of_initial initial
  obtain ⟨runner, tasks, producers, consumers⟩ := initial
  have closed (name : String) : AllClosed s name := by
    constructor
    · rw [producers]
      exact fun _ _ impossible => by cases impossible
    · rw [consumers]
      exact fun kConsumer impossible => absurd impossible (Nat.not_lt_zero kConsumer)
  constructor
  · rw [runner]
    exact fun _ _ impossible => by cases impossible
  · rw [consumers]
    exact apart_start
  · exact fun manager name kept keeps => absurd keeps (keepsNothing name kept manager)
  · rw [producers]
    exact fun _ _ _ impossible => by cases impossible
  · intro task type runs
    unfold Runs at runs
    rw [tasks] at runs
    cases runs
  · intro id task found
    rw [tasks] at found
    cases found
  · intro id call called
    rw [consumers] at called
    cases called
  · exact fun name _ _ => closed name
  · intro _
    rw [runner, tasks]
    exact ⟨rfl, fun _ => rfl, closed⟩

/-- In every run whose steps are careful. -/
theorem sound_of_careful (reached : ((system isIgnoreCluster).restrict (Careful isIgnoreCluster)).Reachable s) :
    Sound s := by
  have follows : Follows s := by
    apply reached.invariant Follows
    · exact fun s initial => follows_initial initial
    · exact fun s a follows enabled => follows_effect follows enabled.1 enabled.2
  exact follows.sound

end Steps

/-! ### A change of address -/

section Example

def kafkaA (address : String) : ClusterMetadata := ⟨"kafkaA", some address, some .KAFKA, none⟩

def start : State where
  runner := .created
  tasks _ := none
  producers _ := ⟨fun _ => none, []⟩
  consumers := KConsumerPoolManager.start
  createdFor _ := kafkaA ""

def started : Action := .event (.run (one (kafkaA "10.0.0.1:9092")) fun _ => false)

def rt (id : Nat) (address : String) : Executor :=
  ⟨id, serviceName .RT "kafkaA" .KAFKA, .RT, kafkaA address⟩

def first : Executor := rt 2 "10.0.0.1:9092"

/-- The executors of the new address have the numbers 5 to 9. -/
def second : Executor := rt 7 "10.0.0.2:9092"

instance (type : BrokerType) (executor : Executor) : Decidable (AsksProducer type executor) :=
  inferInstanceAs (Decidable (_ ∧ _))

instance (executor : Executor) : Decidable (AsksConsumer executor) := inferInstanceAs (Decidable (_ ∧ _))

instance (s : State) (task : Task) : Decidable (Runs s task) := inferInstanceAs (Decidable (_ = _))

instance (s : State) (a : Action) : Decidable (guard s a) := by
  apply Action.casesOn (motive := fun a => Decidable (guard s a)) a <;> intros <;> dsimp only [guard] <;> infer_instance

instance (isIgnoreCluster : String → Bool) (s : State) (a : Action) : Decidable ((system isIgnoreCluster).guard s a) :=
  inferInstanceAs (Decidable (guard s a))

def measured : List Action :=
  [started, .run first, .getProducer .KAFKA ⟨first, false, []⟩, .newProducer .KAFKA ⟨first, true, []⟩ true]

theorem initial_start : Initial start := ⟨rfl, rfl, rfl, rfl⟩

/-- The state in which the first task creates its producer. -/
def looked : State :=
  let running := (effect (fun _ => false) start started).setTask ⟨first, false, []⟩
  running.setTask ⟨first, true, []⟩

theorem suits_first : Suits looked (.producers .KAFKA) first.cluster where
  address executor active _ _ := by
    have live : ∀ executor ∈ looked.runner.live, executor.cluster.bootAddr = first.cluster.bootAddr := by decide
    rcases active with member | ⟨task, runs, rfl⟩
    · exact (live executor member).symm
    · rcases runs_setTask runs with rfl | ⟨_, before⟩
      · rfl
      · rcases runs_setTask before with rfl | ⟨_, impossible⟩
        · rfl
        · cases impossible
  present := .inl (by decide)

theorem sound_measured : ∃ s, Sound s ∧ s.tasks 2 = some ⟨first, false, [0]⟩ := by
  have initial : ((system fun _ => false).restrict (Careful fun _ => false)).Reachable start := .start initial_start
  have scheduled := Guarded.Reachable.step (a := started) initial ⟨by decide,
    fun cluster _ manager _ kept keeps => absurd keeps (not_keeps_of_initial initial_start _ kept manager),
    fun name ⟨_, _, impossible, _⟩ => by cases impossible⟩
  have running := Guarded.Reachable.step (a := Action.run first) scheduled ⟨by decide, trivial⟩
  have missing := Guarded.Reachable.step (a := Action.getProducer .KAFKA ⟨first, false, []⟩) running ⟨by decide, trivial⟩
  have created := Guarded.Reachable.step (a := Action.newProducer .KAFKA ⟨first, true, []⟩ true) missing
    ⟨by decide, fun _ => suits_first⟩
  exact ⟨_, sound_of_careful created, rfl⟩

/-- The task of the new address gets the producer of the old one. -/
theorem not_forall_sound_clients : ¬∀ isIgnoreCluster s, (system isIgnoreCluster).Reachable s → Sound s := by
  intro always
  have run : ∃ s, (system fun _ => false).Reachable s ∧ s.tasks 7 = some ⟨second, false, [0]⟩ ∧
      (s.producers .KAFKA).created = [kafkaA "10.0.0.1:9092"] :=
    Guarded.exists_reachable (measured ++ [.event (.dataChange (kafkaA "10.0.0.2:9092") false), .run second,
      .getProducer .KAFKA ⟨second, false, []⟩]) (s := start) ⟨rfl, rfl, rfl, rfl⟩ (by decide)
  obtain ⟨s, reached, task, created⟩ := run
  obtain ⟨cluster, isCreated, same⟩ := (always _ s reached).producers 7 _ .KAFKA task rfl 0 List.mem_cons_self
  rw [created] at isCreated
  obtain rfl := Option.some.inj isCreated
  revert same
  decide

end Example

end Zms.Collector.Clients
