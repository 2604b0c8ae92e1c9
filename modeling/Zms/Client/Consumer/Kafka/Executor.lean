import Mathlib
import Zms.Client.Consumer.Kafka.Offsets

/-! The thread pools of a Kafka consumer and the tasks submitted to them. -/

set_option autoImplicit false

namespace Zms.Client.Consumer.Kafka

/-- A submitted task: queued, then in the listener, then offering its record to
`acks`, then about to count its latch down. `dropped` tasks were still queued
when their pool stopped, `failed` ones threw out of their finally block. -/
inductive Stage where
  | queued | listening | offering | counting | done | dropped | failed
  deriving DecidableEq, Repr

/-- A worker is running the task. -/
def Stage.busy : Stage → Bool
  | .listening | .offering | .counting => true
  | .queued | .done | .dropped | .failed => false

/-- The task has yet to count its latch down, and will if its pool lets it. -/
def Stage.live (stage : Stage) : Bool := stage == .queued || stage.busy

structure Task where
  record : ConsumerRecord
  batch : Nat
  pool : Nat
  stage : Stage
  deriving DecidableEq, Repr

inductive Phase where
  | running | shutdown | stop
  deriving DecidableEq, Repr

structure ThreadPoolExecutor where
  corePoolSize : Nat
  maximumPoolSize : Nat
  capacity : Nat
  workers : Nat
  phase : Phase
  deriving DecidableEq, Repr

def ThreadPoolExecutor.new (corePoolSize maximumPoolSize capacity : Nat) : ThreadPoolExecutor :=
  ⟨corePoolSize, maximumPoolSize, capacity, 0, .running⟩

/-- Where `execute` puts a task, given how many are queued: a new core worker,
the queue, a new extra worker, or nowhere (`RejectedExecutionException`). -/
def ThreadPoolExecutor.execute (pool : ThreadPoolExecutor) (queued : Nat) :
    Option (Stage × ThreadPoolExecutor) :=
  if pool.phase ≠ .running then none
  else if pool.workers < pool.corePoolSize then
    some (.listening, { pool with workers := pool.workers + 1 })
  else if queued < pool.capacity then
    some (.queued, { pool with workers := max pool.workers 1 })
  else if pool.workers < pool.maximumPoolSize then
    some (.listening, { pool with workers := pool.workers + 1 })
  else none

/-- Only a running pool accepts a task, and it has a worker then. -/
theorem ThreadPoolExecutor.execute_spec {pool pool' : ThreadPoolExecutor} {queued : Nat} {stage : Stage}
    (accepted : pool.execute queued = some (stage, pool')) :
    (stage = .queued ∨ stage = .listening) ∧ pool.phase = .running ∧ pool'.phase = .running ∧
      0 < pool'.workers := by
  unfold execute at accepted
  split at accepted
  · cases accepted
  · next active =>
    have phase : pool.phase = .running := not_not.mp active
    repeat' split at accepted
    all_goals cases accepted
    · exact ⟨Or.inr rfl, phase, phase, Nat.succ_pos _⟩
    · exact ⟨Or.inl rfl, phase, phase, Nat.lt_of_lt_of_le Nat.zero_lt_one (Nat.le_max_right _ _)⟩
    · exact ⟨Or.inr rfl, phase, phase, Nat.succ_pos _⟩

def ThreadPoolExecutor.shutdown (pool : ThreadPoolExecutor) : ThreadPoolExecutor :=
  { pool with phase := if pool.phase = .running then .shutdown else pool.phase }

def ThreadPoolExecutor.shutdownNow (pool : ThreadPoolExecutor) : ThreadPoolExecutor :=
  { pool with phase := .stop }

/-- The thread numbers of the customized properties, as `Integer.valueOf` reads them. -/
structure CustomizedProperties where
  consumeThreadMin : Option Int
  consumeThreadMax : Option Int

structure Config where
  isOrderly : Bool
  customizedProperties : Option CustomizedProperties
  availableProcessors : Nat
  /-- The listener is a `KafkaBatchMsgListener`. -/
  batchListener : Bool

def threadsNumMin (processors : Nat) (properties : CustomizedProperties) : Int :=
  properties.consumeThreadMin.getD processors

def threadsNumMax (processors : Nat) (properties : CustomizedProperties) : Int :=
  properties.consumeThreadMax.getD
    (if processors * 2 ≤ threadsNumMin processors properties then threadsNumMin processors properties
      else processors * 2)

/-- The executors to add; `none` when the pool's constructor refuses its sizes. -/
def addUserDefinedProperties (isOrderly : Bool) (processors : Nat) (properties : CustomizedProperties) :
    Option (List ThreadPoolExecutor) :=
  let min := threadsNumMin processors properties
  let max := threadsNumMax processors properties
  if !isOrderly then
    if min < 0 ∨ max ≤ 0 ∨ max < min then none else some [.new min.toNat max.toNat 10000]
  else some (List.replicate max.toNat (.new 1 1 1000))

def Config.executors (config : Config) : Option (List ThreadPoolExecutor) :=
  match config.customizedProperties with
  | none => some []
  | some properties => addUserDefinedProperties config.isOrderly config.availableProcessors properties

end Zms.Client.Consumer.Kafka
