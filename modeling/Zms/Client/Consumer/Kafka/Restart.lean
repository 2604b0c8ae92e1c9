import Zms.Client.Consumer.Kafka.AtLeastOnce

/-! What keeps a started proxy running across restarts.

A leaving poll thread resets `running` and shuts down whatever consumer and
executors the proxy has by then. That does no harm as long as no later poll
thread was started before it terminated.
-/

set_option autoImplicit false

namespace Zms.Client.Consumer.Kafka

open Zms.Transition

/-- The thread has left its loop. -/
def PollPc.leaving : PollPc → Bool
  | .exiting | .closing _ | .terminated => true
  | .loop | .polling _ | .polled _ | .submitting _ _ | .awaiting _ | .listening _ | .acking _
  | .committing => false

namespace State

def Running (s : State) : Prop := s.running = true ∧ s.executors ≠ [] ∧ s.Open

instance (s : State) : Decidable s.Running := inferInstanceAs (Decidable (_ ∧ _))

/-- Once started, the proxy runs until it is shut down or its poll thread fails. -/
def StaysUp (s : State) : Prop :=
  s.started = true → (s.threads (s.threadCount - 1)).err = false → s.Running

instance (s : State) : Decidable s.StaysUp := inferInstanceAs (Decidable (_ → _))

def OnePolls (s : State) : Prop :=
  ∀ t u c d, (s.threads t).pc = .polling c → (s.threads u).pc = .polling d → t = u

/-- `start` begins only when every earlier poll thread has terminated, and adds an executor. -/
def Joined (s : State) : Action → Prop
  | .consumerStart pools => pools ≠ [] ∧ ∀ t, t < s.threadCount → (s.threads t).pc = .terminated
  | _ => True

instance (s : State) (a : Action) : Decidable (s.Joined a) := by
  apply Action.casesOn (motive := fun a => Decidable (s.Joined a)) a <;> intros <;>
    dsimp only [Joined] <;> infer_instance

def Alone (s : State) : Prop := ∀ t, (s.threads t).pc = .terminated

/-- The poll thread is in its loop on a running proxy, or it failed. -/
def Healthy (s : State) (thread : PollThread) : Prop :=
  thread.pc.leaving = thread.err ∧ (thread.err = false → s.Running)

/-- What holds while the control thread is at the position. -/
def Stands (s : State) : ControlPc → Prop
  | .idle => s.started = true → ∃ t, t + 1 = s.threadCount ∧ s.Healthy (s.threads t)
  | .closing _ _ | .sleeping => s.started = false ∧ s.running = false
  | .adding rest => s.started = false ∧ s.running = false ∧ s.Alone ∧ (rest ≠ [] ∨ s.executors ≠ [])
  | .registering => s.started = false ∧ s.running = false ∧ s.Alone ∧ s.executors ≠ [] ∧ s.Open
  | .spawning => s.started = false ∧ s.Alone ∧ s.Running
  | .awaiting t => s.started = false ∧ t + 1 = s.threadCount ∧ s.Healthy (s.threads t)

structure Sole (s : State) : Prop where
  fresh : s.ThreadsFresh
  older : ∀ t, t + 1 < s.threadCount → (s.threads t).pc = .terminated
  named : ∀ c, s.consumer = some c → c < s.consumers
  unclosed : ∀ c, s.consumers ≤ c → s.closed c = false
  stands : s.Stands s.control

theorem sole_initial (bindingTopic : Option String) : (initial bindingTopic).Sole where
  fresh _ _ := rfl
  older _ _ := rfl
  named _ found := by cases found
  unclosed _ _ := rfl
  stands := ⟨rfl, rfl⟩

variable {s : State}

theorem Sole.latest (sole : s.Sole) {t : Nat} (live : (s.threads t).pc ≠ .terminated) :
    t + 1 = s.threadCount := by
  rcases Nat.lt_trichotomy (t + 1) s.threadCount with below | same | above
  · exact absurd (sole.older t below) live
  · exact same
  · exact absurd (sole.fresh t (by omega)) live

def fleet (s : State) : (Nat → PollThread) × Nat × Option Nat × Nat :=
  (s.threads, s.threadCount, s.consumer, s.consumers)

/-- What else the proxy's life depends on. -/
def status (s : State) : (Nat → Bool) × List Nat × Bool × Bool × ControlPc :=
  (s.closed, s.executors, s.running, s.started, s.control)

/-- With the same threads and consumers only the control thread's assumptions are left to check. -/
theorem Sole.rest (sole : s.Sole) {u : State} (fleet : u.fleet = s.fleet)
    (unclosed : ∀ c, s.consumers ≤ c → u.closed c = false) (stands : u.Stands u.control) : u.Sole := by
  simp only [State.fleet, Prod.mk.injEq] at fleet
  obtain ⟨threads, count, consumer, consumers⟩ := fleet
  refine ⟨?_, ?_, ?_, ?_, stands⟩
  · simpa only [ThreadsFresh, threads, count] using sole.fresh
  · simpa only [threads, count] using sole.older
  · simpa only [consumer, consumers] using sole.named
  · simpa only [consumers] using unclosed

theorem Sole.frame (sole : s.Sole) {u : State} (fleet : u.fleet = s.fleet) (status : u.status = s.status) :
    u.Sole := by
  have before := sole.stands
  have same := fleet
  simp only [State.fleet, Prod.mk.injEq] at same
  simp only [State.status, Prod.mk.injEq] at status
  obtain ⟨threads, count, consumer, -⟩ := same
  obtain ⟨closed, executors, running, started, control⟩ := status
  apply sole.rest fleet (closed ▸ sole.unclosed)
  rw [control]
  generalize s.control = pc at before ⊢
  cases pc <;>
    simpa only [Stands, Healthy, Alone, Running, Open, threads, count, consumer, closed, executors,
      running, started] using before

theorem Sole.threads (sole : s.Sole) {t : Nat} {thread : PollThread}
    (live : (s.threads t).pc ≠ .terminated)
    (turn : s.Healthy (s.threads t) → s.Healthy thread) :
    ({ s with threads := Function.update s.threads t thread } : State).Sole := by
  have latest := sole.latest live
  have others : ∀ u, u + 1 ≠ s.threadCount → Function.update s.threads t thread u = s.threads u :=
    fun u older => Function.update_of_ne (by rintro rfl; exact older latest) _ _
  refine ⟨fun u unused => ?_, fun u below => ?_, sole.named, sole.unclosed, ?_⟩
  · have unused : s.threadCount ≤ u := unused
    exact (congrArg PollThread.pc (others u (by omega))).trans (sole.fresh u unused)
  · have below : u + 1 < s.threadCount := below
    exact (congrArg PollThread.pc (others u (by omega))).trans (sole.older u below)
  · have before := sole.stands
    have healthy : ∀ u, u + 1 = s.threadCount → s.Healthy (s.threads u) →
        s.Healthy (Function.update s.threads t thread u) := by
      intro u same was
      obtain rfl : u = t := by omega
      rw [Function.update_self]
      exact turn was
    change State.Stands { s with threads := _ } s.control
    generalize s.control = pc at before ⊢
    -- while `start` is under way every thread has terminated, so that none moves
    cases pc with
    | idle =>
      intro started
      obtain ⟨u, same, was⟩ := before started
      exact ⟨u, same, healthy u same was⟩
    | closing | sleeping => exact before
    | adding | registering => exact absurd (before.2.2.1 t) live
    | spawning => exact absurd (before.2.1 t) live
    | awaiting u => exact ⟨before.1, before.2.1, healthy u before.2.1 before.2.2⟩

theorem live_of_inLoop {t : Nat} {pc : PollPc} (stands : (s.threads t).pc = pc)
    (inLoop : pc.leaving = false) : (s.threads t).pc ≠ .terminated := by
  intro ended
  rw [← stands, ended] at inLoop
  cases inLoop

theorem Sole.stay (sole : s.Sole) {t : Nat} {thread : PollThread} {pc : PollPc}
    (stands : (s.threads t).pc = pc) (inLoop : pc.leaving = false) (stays : thread.pc.leaving = false)
    (sameErr : thread.err = (s.threads t).err) :
    ({ s with threads := Function.update s.threads t thread } : State).Sole := by
  apply sole.threads (live_of_inLoop stands inLoop)
  intro was
  rw [Healthy, stands, inLoop] at was
  exact ⟨by rw [stays, sameErr, was.1], fun noErr => was.2 (sameErr ▸ noErr)⟩

theorem Sole.fail (sole : s.Sole) {t : Nat} {pc : PollPc} (stands : (s.threads t).pc = pc)
    (inLoop : pc.leaving = false) : (s.leave t true).Sole := by
  refine sole.threads (live_of_inLoop stands inLoop) fun _ => ⟨rfl, fun noErr => ?_⟩
  cases noErr

theorem Sole.cleanup (sole : s.Sole) {t : Nat} {before after : PollPc} (stands : (s.threads t).pc = before)
    (live : before ≠ .terminated) (left : before.leaving = true) (leaves : after.leaving = true) :
    (s.setPc t after).Sole := by
  apply sole.threads (by rwa [stands])
  intro was
  rw [Healthy, stands, left] at was
  exact ⟨leaves.trans was.1, was.2⟩

/-- Nobody relies on the proxy's consumer and executors: it is being shut down. -/
def Leaving (s : State) : Prop :=
  (∃ restart pc, s.control = .closing restart pc) ∨
    ∃ t, (s.threads t).pc ≠ .terminated ∧ (s.threads t).pc.leaving = true

theorem Sole.disturb (sole : s.Sole) (leaving : s.Leaving) {u : State} (fleet : u.fleet = s.fleet)
    (unclosed : ∀ c, s.consumers ≤ c → u.closed c = false)
    (running : s.running = false → u.running = false)
    (started : u.started = s.started) (control : u.control = s.control) : u.Sole := by
  apply sole.rest fleet unclosed
  simp only [State.fleet, Prod.mk.injEq] at fleet
  obtain ⟨threads, count, -, -⟩ := fleet
  have before := sole.stands
  rw [control]
  rcases leaving with ⟨restart, pc, closing⟩ | ⟨t, live, left⟩
  · rw [closing] at before ⊢
    exact ⟨started.trans before.1, running before.2⟩
  · have latest := sole.latest live
    -- the poll thread is leaving, so it has failed if the control thread counts on it
    have healthy : ∀ v, v + 1 = s.threadCount → s.Healthy (s.threads v) → u.Healthy (u.threads v) := by
      intro v same was
      obtain rfl : v = t := by omega
      rw [threads]
      refine ⟨was.1, fun noErr => ?_⟩
      rw [was.1, noErr] at left
      cases left
    generalize s.control = pc at before ⊢
    cases pc with
    | idle =>
      intro begun
      obtain ⟨v, same, was⟩ := before (started ▸ begun)
      exact ⟨v, count ▸ same, healthy v same was⟩
    | closing | sleeping => exact ⟨started.trans before.1, running before.2⟩
    | adding | registering => exact absurd (before.2.2.1 t) live
    | spawning => exact absurd (before.2.1 t) live
    | awaiting v =>
      exact ⟨started.trans before.1, count ▸ before.2.1, healthy v before.2.1 before.2.2⟩

theorem leaving_of_poll {t : Nat} {pc : PollPc} (stands : (s.threads t).pc = pc) (live : pc ≠ .terminated)
    (left : pc.leaving = true) : s.Leaving :=
  .inr ⟨t, stands ▸ live, stands ▸ left⟩

theorem leaving_of_closingAt {actor : Actor} {pc : ClosePc} (closing : s.ClosingAt actor pc) :
    s.Leaving := by
  cases actor with
  | control restart => exact Or.inl ⟨restart, pc, closing⟩
  | poll t => exact leaving_of_poll closing (by simp) rfl

theorem stands_idle (notStarted : s.started = false) : s.Stands .idle := by
  intro started
  rw [notStarted] at started
  cases started

theorem Sole.setClosing (sole : s.Sole) {actor : Actor} {before : ClosePc}
    (closing : s.ClosingAt actor before) (after : ClosePc) : (s.setClosing actor after).Sole := by
  cases actor with
  | control restart =>
    have stands := sole.stands
    rw [show s.control = _ from closing] at stands
    exact sole.rest rfl sole.unclosed stands
  | poll t => exact sole.cleanup closing (by simp) rfl rfl

theorem Sole.endClosing (sole : s.Sole) {actor : Actor} {before : ClosePc}
    (closing : s.ClosingAt actor before) (thrown : Bool) : (s.endClosing thrown actor).Sole := by
  cases actor with
  | control restart =>
    have stands := sole.stands
    rw [show s.control = _ from closing] at stands
    refine sole.rest rfl sole.unclosed ?_
    simp only [State.endClosing]
    split
    · exact stands
    · exact stands_idle stands.1
  | poll t => exact sole.cleanup closing (by simp) rfl rfl

theorem Sole.close (sole : s.Sole) {actor : Actor} {c : Nat} (closing : s.ClosingAt actor .close)
    (current : s.consumer = some c) :
    ({ s with closed := Function.update s.closed c true } : State).Sole := by
  have older := sole.named c current
  refine sole.disturb (leaving_of_closingAt closing) rfl (fun d beyond => ?_) id rfl rfl
  exact (Function.update_of_ne (by omega) _ _).trans (sole.unclosed d beyond)

theorem Sole.advance (sole : s.Sole) {u : State} (fleet : u.fleet = s.fleet) (closed : u.closed = s.closed)
    (stands : u.Stands u.control) : u.Sole :=
  sole.rest fleet (closed ▸ sole.unclosed) stands

theorem Sole.stands_at (sole : s.Sole) {pc : ControlPc} (control : s.control = pc) : s.Stands pc :=
  control ▸ sole.stands

theorem Sole.not_started (sole : s.Sole) (busy : s.control ≠ .idle) : s.started = false := by
  have stands := sole.stands
  generalize s.control = pc at busy stands
  cases pc with
  | idle => exact absurd rfl busy
  | _ => exact stands.1

theorem Sole.giveUp (sole : s.Sole) (busy : s.control ≠ .idle) :
    ({ s with control := .idle } : State).Sole :=
  sole.advance rfl rfl (stands_idle (sole.not_started busy))

theorem Sole.newConsumer (sole : s.Sole) (control : s.control = .adding []) :
    (effect s .newConsumer).Sole := by
  obtain ⟨started, stopped, alone, added⟩ := sole.stands_at control
  refine ⟨sole.fresh, sole.older, ?_, ?_, started, stopped, alone, ?_, s.consumers, rfl, ?_⟩
  · rintro c ⟨⟩
    exact Nat.lt_succ_self _
  · exact fun c beyond => sole.unclosed c (Nat.le_of_succ_le beyond)
  · exact added.resolve_left (fun more => more rfl)
  · exact sole.unclosed _ le_rfl

theorem Sole.spawn (sole : s.Sole) (control : s.control = .spawning) : (effect s .spawn).Sole := by
  obtain ⟨started, alone, running⟩ := sole.stands_at control
  refine ⟨fun t unused => ?_, fun t below => ?_, sole.named, sole.unclosed, started, rfl, ?_⟩
  · have unused : s.threadCount + 1 ≤ t := unused
    exact (congrArg PollThread.pc (Function.update_of_ne (by omega) _ _)).trans (alone t)
  · have below : t + 1 < s.threadCount + 1 := below
    exact (congrArg PollThread.pc (Function.update_of_ne (by omega) _ _)).trans (alone t)
  · have same : (Kafka.effect s .spawn).threads s.threadCount = ⟨.loop, false, false⟩ :=
      Function.update_self _ _ _
    rw [same]
    exact ⟨rfl, fun _ => running⟩

/-- Every step keeps the last poll thread the only live one and, unless it has
failed, the proxy running. -/
theorem Sole.effect {config : Config} {a : Action} (sole : s.Sole) (enabled : Enabled config s a)
    (joined : s.Joined a) : (effect s a).Sole := by
  cases a with
  | enterPoll | latchOpen | submitBatchRecords => exact sole.stay enabled.1 rfl rfl rfl
  | skipEmpty | await | awaitInterrupted | ackBatchDone => exact sole.stay enabled rfl rfl rfl
  | pollReturns t c records =>
    exact (sole.frame (u := s.deliver records) rfl rfl).stay enabled rfl rfl rfl
  | submitRecords t records topic =>
    exact (sole.frame (u := s.newLatch records.length) rfl rfl).stay enabled.1 rfl rfl rfl
  | execute t batch record rest p stage pool =>
    have submitted := sole.frame (u := (s.setPool p pool).submit ⟨record, batch, p, stage⟩) rfl rfl
    exact submitted.stay enabled.1 rfl rfl rfl
  | listenBatch t records outcome =>
    exact (sole.frame (u := s.finish records outcome) rfl rfl).stay enabled rfl rfl rfl
  | ackBatch t record rest =>
    exact (sole.frame (u := s.offer record) rfl rfl).stay enabled.1 rfl rfl rfl
  | commit t =>
    exact (sole.frame (u := s.commitOffsets (some t)) rfl rfl).stay enabled.1 rfl rfl rfl
  | pollRefused | noTopic | noExecutors => exact sole.fail enabled.1 rfl
  | pollThrows => exact sole.fail enabled rfl
  | ackBatchThrows t | commitThrows t =>
    exact (sole.frame (u := s.commitOffsets (some t)) rfl rfl).fail enabled.1 rfl
  | leaveLoop t =>
    apply sole.threads (live_of_inLoop enabled.1 rfl)
    intro was
    -- a thread that sees `running` reset is not the one of a running proxy
    rw [Healthy, enabled.1] at was
    have running := (was.2 was.1.symm).1
    rw [enabled.2] at running
    cases running
  | setNotRunning t =>
    have stopped : ({ s with running := false } : State).Sole :=
      sole.disturb (leaving_of_poll enabled (by simp) rfl) rfl sole.unclosed (fun _ => rfl) rfl rfl
    exact stopped.cleanup enabled (by simp) rfl rfl
  | closeConsumer actor c =>
    exact (sole.close enabled.1 enabled.2.1).setClosing (closingAt_frame enabled.1 rfl rfl) _
  | closeThrows actor c =>
    exact (sole.close enabled.1 enabled.2.1).endClosing (closingAt_frame enabled.1 rfl rfl) _
  | clearExecutors actor expected =>
    have disturbed : ({ s with executors := [], modCount := s.modCount + 1 } : State).Sole :=
      sole.disturb (leaving_of_closingAt enabled) rfl sole.unclosed id rfl rfl
    exact disturbed.endClosing (closingAt_frame enabled rfl rfl) _
  | shutdownPool actor cursor expected p =>
    have marked := sole.frame (u := s.setPool p (s.pools p).shutdown) rfl rfl
    exact marked.setClosing (closingAt_frame enabled.1 rfl rfl) _
  | shutdownNow actor cursor expected p =>
    have dropped := sole.frame (u := (s.setPool p (s.pools p).shutdownNow).dropQueued p) rfl rfl
    exact dropped.setClosing (closingAt_frame enabled rfl rfl) _
  | wakeupConsumer | poolTerminated => exact sole.setClosing enabled.1 _
  | unregisterThrows restart =>
    have closing : s.ClosingAt (.control restart) .close := enabled
    exact sole.endClosing closing true
  | closeNull | executorsModified => exact sole.endClosing enabled.1 _
  | dataChange bindingTopic restart =>
    simp only [Kafka.effect]
    split
    · exact sole.frame rfl rfl
    · split
      · exact sole.advance rfl rfl ⟨rfl, rfl⟩
      · next stopped => exact sole.advance rfl rfl ⟨rfl, Bool.eq_false_of_not_eq_true stopped⟩
  | shutdown =>
    simp only [Kafka.effect]
    split
    · exact sole.advance rfl rfl ⟨rfl, rfl⟩
    · refine sole.advance rfl rfl ?_
      rw [show s.control = _ from enabled]
      exact stands_idle rfl
  | startIgnored =>
    have stopped := (sole.stands_at enabled.1).2
    rw [enabled.2] at stopped
    cases stopped
  | consumerStart pools =>
    obtain ⟨started, stopped⟩ := sole.stands_at enabled.1
    -- the condition speaks of the threads there are, the others were never started
    refine sole.advance rfl rfl ⟨started, stopped, fun t => ?_, Or.inl joined.1⟩
    by_cases known : t < s.threadCount
    · exact joined.2 t known
    · exact sole.fresh t (Nat.le_of_not_lt known)
  | addExecutor pool rest =>
    obtain ⟨started, stopped, alone, -⟩ := sole.stands_at enabled
    exact sole.advance rfl rfl ⟨started, stopped, alone,
      Or.inr (List.append_ne_nil_of_right_ne_nil _ (List.cons_ne_nil _ _))⟩
  | newConsumer => exact sole.newConsumer enabled
  | setRunning =>
    obtain ⟨started, -, alone, added, opened⟩ := sole.stands_at enabled
    exact sole.advance rfl rfl ⟨started, alone, rfl, added, opened⟩
  | spawn => exact sole.spawn enabled
  | startFails =>
    apply sole.giveUp
    intro idle
    have canFail : s.control.canFail = true := enabled
    rw [idle] at canFail
    cases canFail
  | startThrows t => exact sole.giveUp (by simp [enabled.1])
  | startReturns t =>
    obtain ⟨-, latest, healthy⟩ := sole.stands_at enabled.1
    exact sole.advance rfl rfl fun _ => ⟨t, latest, healthy⟩
  | ackBatchFull | take | listen | offer | offerFull | offerThrows | countDown | retireWorker
  | rebalance => exact sole.frame rfl rfl

theorem Sole.staysUp (sole : s.Sole) : s.StaysUp := by
  intro started noErr
  have idle : s.control = .idle := by
    by_contra busy
    rw [sole.not_started busy] at started
    cases started
  obtain ⟨t, latest, healthy⟩ := sole.stands_at idle started
  have same : s.threadCount - 1 = t := by omega
  exact healthy.2 (same ▸ noErr)

theorem Sole.onePolls (sole : s.Sole) : s.OnePolls := by
  intro t u c d polls pollsToo
  have first := sole.latest (live_of_inLoop polls rfl)
  have second := sole.latest (live_of_inLoop pollsToo rfl)
  omega

end State

open State

theorem sole_of_joined (config : Config) {s : State}
    (reached : ((machine config).restrict Joined).Reachable s) : s.Sole := by
  apply reached.invariant Sole
  · rintro _ ⟨bindingTopic, rfl⟩
    exact sole_initial bindingTopic
  · rintro s a sole ⟨enabled, joined⟩
    exact sole.effect enabled joined

/-- In runs that start only after every earlier poll thread has terminated, a
started proxy stays up and one thread polls. -/
theorem staysUp_of_joined (config : Config) {s : State}
    (reached : ((machine config).restrict Joined).Reachable s) : s.StaysUp ∧ s.OnePolls := by
  have sole := sole_of_joined config reached
  exact ⟨sole.staysUp, sole.onePolls⟩

namespace Run

/-- Restarted while poll thread 0 is inside `poll`. -/
def restartPolling : List Action :=
  [.enterPoll 0 0, .dataChange (some "orders") true, .wakeupConsumer (.control true) 0,
    .shutdownPool (.control true) 0 1 0, .poolTerminated (.control true) 1 1 0,
    .clearExecutors (.control true) 1]

end Run

open Run in
set_option maxRecDepth 4000 in
theorem staysUp_of_joined_restart : ∃ s, ((machine config).restrict Joined).Reachable s ∧
    s.started = true ∧ s.threadCount = 2 ∧ s.StaysUp ∧ s.OnePolls := by
  have run : ∃ s, ((machine config).restrict Joined).Reachable s ∧ s.started = true ∧ s.threadCount = 2 :=
    Guarded.exists_reachable
      (start 0 ++ restartPolling ++
        [.pollThrows 0 0, .setNotRunning 0, .closeConsumer (.poll 0) 0, .clearExecutors (.poll 0) 2] ++ start 1)
      ⟨some "orders", rfl⟩ (by decide)
  obtain ⟨s, reached, started, two⟩ := run
  exact ⟨s, reached, started, two, staysUp_of_joined config reached⟩

open Run in
set_option maxRecDepth 4000 in
/-- The old poll thread wakes up after the restart and resets `running`. -/
theorem not_staysUp : ¬ ∀ (config : Config) (s : State), (machine config).Reachable s →
    s.StaysUp ∧ s.OnePolls := by
  intro always
  have run : ∃ s, (machine config).Reachable s ∧ ¬ s.StaysUp :=
    Guarded.exists_reachable
      (start 0 ++ restartPolling ++ start 1 ++ [.pollThrows 0 0, .setNotRunning 0])
      ⟨some "orders", rfl⟩ (by decide)
  obtain ⟨s, reached, down⟩ := run
  exact down (always config s reached).1

end Zms.Client.Consumer.Kafka
