import Zms.Client.Consumer.Kafka.Machine

/-! What an action of the machine leaves alone. -/

set_option autoImplicit false

namespace Zms.Client.Consumer.Kafka

/-- The poll thread whose position the action changes. -/
def Action.mover : Action → Option Nat
  | .enterPoll t _ | .pollRefused t _ | .leaveLoop t | .pollReturns t _ _ | .pollThrows t _
  | .skipEmpty t | .submitRecords t _ _ | .submitBatchRecords t _ _ | .noTopic t _
  | .execute t _ _ _ _ _ _ | .noExecutors t _ _ | .await t _ | .latchOpen t _
  | .awaitInterrupted t _ | .listenBatch t _ _ | .ackBatch t _ _ | .ackBatchThrows t _
  | .ackBatchDone t | .commit t | .commitThrows t | .setNotRunning t => some t
  | .closeConsumer actor _ | .wakeupConsumer actor _ | .closeThrows actor _ | .closeNull actor
  | .shutdownPool actor _ _ _
  | .executorsModified actor _ _ | .poolTerminated actor _ _ _ | .shutdownNow actor _ _ _
  | .clearExecutors actor _ => actor.thread
  | .unregisterThrows _ | .ackBatchFull _ _ | .take _ _ | .listen _ _ _ | .offer _ _ | .offerFull _ _
  | .offerThrows _ _ | .countDown _ _ | .retireWorker _ | .rebalance _ | .dataChange _ _ | .shutdown
  | .startIgnored | .consumerStart _ | .addExecutor _ _ | .newConsumer | .setRunning | .spawn
  | .startFails | .startReturns _ | .startThrows _ => none

variable {config : Config} {s : State} {a : Action} {t : Nat}

@[simp] theorem pc_setPc_self (pc : PollPc) : ((s.setPc t pc).threads t).pc = pc := by
  simp only [State.setPc, Function.update_self]

theorem threads_setPc_of_ne {u : Nat} (other : u ≠ t) (pc : PollPc) :
    (s.setPc t pc).threads u = s.threads u := Function.update_of_ne other _ _

theorem pc_of_closingAt {actor : Actor} {pc : ClosePc} (closing : s.ClosingAt actor pc)
    (moves : actor.thread = some t) : (s.threads t).pc = .closing pc := by
  cases actor with
  | control => cases moves
  | poll u => cases moves; exact closing

theorem closingAt_frame {u : State} {actor : Actor} {pc : ClosePc} (closing : s.ClosingAt actor pc)
    (threads : u.threads = s.threads) (control : u.control = s.control) : u.ClosingAt actor pc := by
  cases actor with
  | control restart => exact control.trans closing
  | poll t => exact (congrArg PollThread.pc (congrFun threads t)).trans closing

/-- Where the thread that moves stands. -/
def State.standing (s : State) : Action → PollPc
  | .enterPoll _ _ | .pollRefused _ _ | .leaveLoop _ => .loop
  | .pollReturns _ c _ | .pollThrows _ c => .polling c
  | .skipEmpty _ => .polled []
  | .submitRecords _ records _ | .submitBatchRecords _ records _ | .noTopic _ records => .polled records
  | .execute _ batch record rest _ _ _ => .submitting batch (record :: rest)
  | .noExecutors _ batch rest => .submitting batch rest
  | .await _ batch => .submitting batch []
  | .latchOpen _ batch | .awaitInterrupted _ batch => .awaiting batch
  | .listenBatch _ records _ => .listening records
  | .ackBatch _ record rest => .acking (record :: rest)
  | .ackBatchThrows _ rest => .acking rest
  | .ackBatchDone _ => .acking []
  | .commit _ | .commitThrows _ => .committing
  | .setNotRunning _ => .exiting
  | .closeConsumer _ _ | .wakeupConsumer _ _ | .closeThrows _ _ | .closeNull _ => .closing .close
  | .shutdownPool _ cursor expected _ | .executorsModified _ cursor expected =>
      .closing (.next cursor expected)
  | .poolTerminated _ cursor expected p | .shutdownNow _ cursor expected p =>
      .closing (.await cursor expected p)
  | .clearExecutors _ expected => .closing (.next s.executors.length expected)
  | _ => .terminated

theorem pc_of_mover (enabled : Enabled config s a) (moves : a.mover = some t) :
    (s.threads t).pc = s.standing a := by
  cases a <;> simp only [Action.mover, reduceCtorEq, Option.some.injEq] at moves
  case closeConsumer | wakeupConsumer | closeThrows | closeNull | shutdownPool | executorsModified
    | poolTerminated =>
    exact pc_of_closingAt enabled.1 moves
  case shutdownNow | clearExecutors => exact pc_of_closingAt enabled moves
  case skipEmpty | pollReturns | pollThrows | await | awaitInterrupted | listenBatch | ackBatchDone
    | setNotRunning =>
    rw [← moves]
    exact enabled
  all_goals
    rw [← moves]
    exact enabled.1

theorem mover_live (enabled : Enabled config s a) (moves : a.mover = some t) :
    (s.threads t).pc ≠ .terminated := by
  rw [pc_of_mover enabled moves]
  cases a
  case unregisterThrows | ackBatchFull | take | listen | offer | offerFull | offerThrows | countDown
    | retireWorker | rebalance | dataChange | shutdown | startIgnored | consumerStart | addExecutor
    | newConsumer | setRunning | spawn | startFails | startReturns | startThrows => cases moves
  all_goals exact nofun

theorem threads_setClosing (actor : Actor) (pc : ClosePc) (other : actor.thread ≠ some t) :
    (s.setClosing actor pc).threads t = s.threads t := by
  cases actor with
  | control => rfl
  | poll u => exact Function.update_of_ne (fun same => other (congrArg some same.symm)) _ _

theorem threads_endClosing (thrown : Bool) (actor : Actor) (other : actor.thread ≠ some t) :
    (s.endClosing thrown actor).threads t = s.threads t := by
  cases actor with
  | control => rfl
  | poll u => exact Function.update_of_ne (fun same => other (congrArg some same.symm)) _ _

theorem threads_of_not_mover (other : a.mover ≠ some t) (fresh : a = .spawn → t ≠ s.threadCount) :
    (effect s a).threads t = s.threads t := by
  cases a <;> simp only [Action.mover, ne_eq, Option.some.injEq] at other
  case closeConsumer | wakeupConsumer | shutdownPool | poolTerminated | shutdownNow =>
    exact threads_setClosing _ _ other
  case closeThrows | closeNull | executorsModified | clearExecutors => exact threads_endClosing _ _ other
  case spawn => exact Function.update_of_ne (fresh rfl) _ _
  case dataChange | shutdown =>
    simp only [effect]
    repeat' split
    all_goals rfl
  all_goals first
    | rfl
    | exact Function.update_of_ne (fun same => other same.symm) _ _

theorem threadCount_setClosing (actor : Actor) (pc : ClosePc) :
    (s.setClosing actor pc).threadCount = s.threadCount := by
  cases actor <;> rfl

theorem threadCount_endClosing (thrown : Bool) (actor : Actor) :
    (s.endClosing thrown actor).threadCount = s.threadCount := by
  cases actor <;> rfl

theorem threadCount_of_ne_spawn (other : a ≠ .spawn) : (effect s a).threadCount = s.threadCount := by
  cases a
  case closeConsumer | wakeupConsumer | shutdownPool | poolTerminated | shutdownNow =>
    exact threadCount_setClosing _ _
  case closeThrows | closeNull | executorsModified | clearExecutors => exact threadCount_endClosing _ _
  case spawn => exact absurd rfl other
  case dataChange | shutdown =>
    simp only [effect]
    repeat' split
    all_goals rfl
  all_goals rfl

/-- Numbers from `threadCount` on name no thread yet. -/
def State.ThreadsFresh (s : State) : Prop := ∀ t, s.threadCount ≤ t → (s.threads t).pc = .terminated

theorem State.ThreadsFresh.known (fresh : s.ThreadsFresh) (enabled : Enabled config s a)
    (moves : a.mover = some t) : t < s.threadCount := by
  by_contra beyond
  exact mover_live enabled moves (fresh t (Nat.le_of_not_lt beyond))

theorem State.ThreadsFresh.effect (fresh : s.ThreadsFresh) (enabled : Enabled config s a) :
    (effect s a).ThreadsFresh := by
  intro t beyond
  have unused : s.threadCount ≤ t := by
    by_cases spawns : a = .spawn
    · subst spawns
      exact Nat.le_of_succ_le beyond
    · rwa [threadCount_of_ne_spawn spawns] at beyond
  rw [threads_of_not_mover (fun moves => mover_live enabled moves (fresh t unused))]
  · exact fresh t unused
  · rintro rfl rfl
    exact absurd beyond (Nat.not_succ_le_self _)

end Zms.Client.Consumer.Kafka
