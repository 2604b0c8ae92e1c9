import Zms.Client.Consumer.Construction

/-! What a call of `getConsumer` that throws leaves behind.

Nothing undoes the steps of `start`: a failed call leaves nothing only when it
fails before the first of them that would need an undo.
-/

set_option autoImplicit false

namespace Zms.Client.Construction

open Zms.Transition Zms.Registry

def Pc.proxy : Pc → Option Nat
  | .checking _ => none
  | .preparing i | .subscribing i | .registeringWatcher i | .registeringName i | .settingRunning i
  | .registering i | .awaiting i | .testing i | .publishing i => some i

namespace State

/-- The proxy holds nothing: no registration, no flag, no broker's client. -/
structure Idle (s : State) (i : Nat) : Prop where
  watcher : i ∉ s.registrations.watchers
  name : i ∉ s.registrations.names
  running : (s.proxies i).running = false
  client : (s.proxies i).client ≠ .connected

def LeavesNothing (s : State) (f : Failure) : Prop := f.after = f.before ∧ s.Idle f.proxy

/-- An idle proxy that no poll thread will touch. -/
structure Quiet (s : State) (i : Nat) : Prop extends s.Idle i where
  pollThread : s.pollThreads i = .absent

/-- What holds of the proxy under construction. -/
def Stage (s : State) : Pc → Prop
  | .checking _ => s.registrations = s.before
  | .preparing i => s.Quiet i ∧ s.registrations = s.before
  | .subscribing i | .registeringWatcher i =>
      i ∉ s.registrations.watchers ∧ i ∉ s.registrations.names ∧ (s.proxies i).running = false ∧
        s.pollThreads i = .absent ∧ ((s.proxies i).client = .connected ↔ (s.proxies i).brokerType = .KAFKA) ∧
        s.registrations = s.before
  | .registeringName i | .settingRunning i | .registering i | .awaiting i | .testing i | .publishing i =>
      i ∈ s.registrations.watchers

structure Orderly (s : State) : Prop where
  unborn : ∀ i, s.created ≤ i → s.Quiet i
  stage : ∀ pc, s.At pc → s.Stage pc
  born : ∀ pc, s.At pc → ∀ i ∈ pc.proxy, i < s.created
  failed : ∀ f ∈ s.failures, f.proxy < s.created ∧ ∀ pc, s.At pc → pc.proxy ≠ some f.proxy

variable {s t : State} {i j : Nat} {pc : Pc}

theorem Quiet.of_eq (quiet : s.Quiet i) (proxy : t.proxies i = s.proxies i)
    (pollThread : t.pollThreads i = s.pollThreads i)
    (watchers : i ∈ t.registrations.watchers → i ∈ s.registrations.watchers)
    (names : i ∈ t.registrations.names → i ∈ s.registrations.names) : t.Quiet i := by
  constructor
  · constructor
    · exact fun member => quiet.watcher (watchers member)
    · exact fun member => quiet.name (names member)
    · rw [proxy]
      exact quiet.running
    · rw [proxy]
      exact quiet.client
  · rw [pollThread]
    exact quiet.pollThread

namespace Quiet

theorem goto (quiet : s.Quiet i) (pc : Pc) : (s.goto pc).Quiet i := quiet.of_eq rfl rfl id id

theorem finish (quiet : s.Quiet i) : s.finish.Quiet i := quiet.of_eq rfl rfl id id

theorem throws (quiet : s.Quiet i) (j : Nat) : (s.throws j).Quiet i := quiet.of_eq rfl rfl id id

theorem setProxy (quiet : s.Quiet i) (other : i ≠ j) (proxy : ConsumerProxy) : (s.setProxy j proxy).Quiet i := by
  have unchanged := Function.update_of_ne other proxy s.proxies
  exact quiet.of_eq unchanged rfl id id

theorem setPollThread (quiet : s.Quiet i) (other : i ≠ j) (pollThread : PollThread) :
    (s.setPollThread j pollThread).Quiet i := by
  have unchanged := Function.update_of_ne other pollThread s.pollThreads
  exact quiet.of_eq rfl unchanged id id

theorem watch (quiet : s.Quiet i) (other : i ≠ j) : (s.withRegistrations (s.registrations.watch j)).Quiet i := by
  have same (member : i ∈ j :: s.registrations.watchers) : i ∈ s.registrations.watchers :=
    (List.mem_cons.mp member).resolve_left other
  exact quiet.of_eq rfl rfl same id

theorem register (quiet : s.Quiet i) (other : i ≠ j) :
    (s.withRegistrations (s.registrations.name j)).Quiet i := by
  have same (member : i ∈ j :: s.registrations.names) : i ∈ s.registrations.names :=
    (List.mem_cons.mp member).resolve_left other
  exact quiet.of_eq rfl rfl id same

theorem publish (quiet : s.Quiet i) (cacheName : String) (j : Nat) :
    (s.withRegistrations (s.registrations.publish cacheName j)).Quiet i := quiet.of_eq rfl rfl id id

end Quiet

end State

def Action.proxy (s : State) : Action → Option Nat
  | .getConsumer _ | .returnsCached _ | .metadataThrows _ => none
  | .construct _ _ _ => some s.created
  | .prepare i | .prepareThrows i | .subscribe i | .subscribeThrows i | .registerWatcher i
  | .registerWatcherThrows i _ | .registerName i | .registerNameThrows i _ | .setRunning i | .register i
  | .registerThrows i _ | .await i | .awaitInterrupted i | .test i | .publish i | .whileRunning i | .poll i
  | .pollThrows i | .countDown i | .release i | .resetRunning i | .consumerShutdown i => some i

section Frame
variable {s : State} {i : Nat} {a : Action}

theorem quiet_effect (quiet : s.Quiet i) (other : ∀ j ∈ a.proxy s, i ≠ j) : (effect s a).Quiet i := by
  cases a with
  | getConsumer => exact quiet.of_eq rfl rfl id id
  | returnsCached | metadataThrows => exact quiet.finish
  | construct => exact (quiet.setProxy (other _ rfl) _).of_eq rfl rfl id id
  | prepare j => exact (quiet.setProxy (other j rfl) _).goto _
  | prepareThrows j | subscribeThrows j | awaitInterrupted j => exact quiet.throws j
  | subscribe | await => exact quiet.goto _
  | registerWatcher j => exact (quiet.watch (other j rfl)).goto _
  | registerWatcherThrows j subscribed =>
    cases subscribed with
    | false => exact State.Quiet.throws quiet j
    | true => exact (quiet.watch (other j rfl)).throws j
  | registerName j =>
    simp only [effect]
    split
    · exact State.Quiet.goto quiet _
    · exact (quiet.register (other j rfl)).goto _
  | registerNameThrows j existing =>
    cases existing with
    | false => exact State.Quiet.throws quiet j
    | true => exact (quiet.register (other j rfl)).throws j
  | setRunning j => exact (quiet.setProxy (other j rfl) _).goto _
  | register j =>
    simp only [effect]
    split
    · exact (quiet.setPollThread (other j rfl) _).goto _
    · exact (quiet.setProxy (other j rfl) _).goto _
  | registerThrows j connected =>
    cases connected with
    | false => exact quiet.throws j
    | true => exact (quiet.setProxy (other j rfl) _).throws j
  | test j =>
    simp only [effect]
    split
    · exact quiet.throws j
    · exact quiet.goto _
  | publish j => exact (quiet.publish _ j).finish
  | whileRunning j | poll j => exact quiet.setPollThread (other j rfl) _
  | pollThrows j | countDown j | release j | resetRunning j | consumerShutdown j =>
    exact (quiet.setProxy (other j rfl) _).setPollThread (other j rfl) _

theorem created_le : s.created ≤ (effect s a).created := by
  cases a with
  | construct => exact Nat.le_succ s.created
  | _ =>
    simp only [effect]
    repeat' split
    all_goals exact Nat.le_refl _

end Frame

section Invariant
variable {s : State} {i : Nat} {a : Action}

theorem State.Orderly.polls_born (orderly : s.Orderly) (polls : s.pollThreads i ≠ .absent) : i < s.created := by
  by_contra unborn
  exact polls (orderly.unborn i (Nat.le_of_not_lt unborn)).pollThread

theorem touched_cases (enabled : Enabled s a) (touched : a.proxy s = some i) :
    i = s.created ∧ (effect s a).created = s.created + 1 ∨ (∃ pc, s.At pc ∧ pc.proxy = some i) ∨
      s.pollThreads i ≠ .absent := by
  cases a <;> simp only [Action.proxy, Option.some.injEq, reduceCtorEq] at touched <;> subst touched
  case construct => exact .inl ⟨rfl, rfl⟩
  case registerNameThrows | await => exact .inr (.inl ⟨_, enabled.1, rfl⟩)
  case whileRunning | poll | pollThrows | countDown | release | resetRunning | consumerShutdown =>
    apply Or.inr (Or.inr _)
    rw [(enabled : s.pollThreads _ = _)]
    exact PollThread.noConfusion
  all_goals exact .inr (.inl ⟨_, enabled, rfl⟩)

theorem State.Orderly.proxy_born (orderly : s.Orderly) (enabled : Enabled s a)
    (touched : a.proxy s = some i) : i < (effect s a).created := by
  have grows : s.created ≤ (effect s a).created := created_le
  obtain ⟨rfl, grown⟩ | ⟨pc, standing, own⟩ | polls := touched_cases enabled touched
  · omega
  · exact Nat.lt_of_lt_of_le (orderly.born pc standing i own) grows
  · exact Nat.lt_of_lt_of_le (orderly.polls_born polls) grows

/-- A poll thread is not that of the proxy under construction until the proxy is registered. -/
theorem State.Stage.of_poll {t : State} {pc : Pc} (stage : s.Stage pc) (polls : s.pollThreads i ≠ .absent)
    (registrations : t.registrations = s.registrations) (before : t.before = s.before)
    (proxies : ∀ j, j ≠ i → t.proxies j = s.proxies j)
    (pollThreads : ∀ j, j ≠ i → t.pollThreads j = s.pollThreads j) : t.Stage pc := by
  have away (j : Nat) (absent : s.pollThreads j = .absent) : j ≠ i := by
    intro same
    subst same
    exact polls absent
  cases pc with
  | checking => simpa only [Stage, registrations, before] using stage
  | preparing j =>
    obtain ⟨quiet, same⟩ := stage
    have other := away j quiet.pollThread
    constructor
    · apply quiet.of_eq (proxies j other) (pollThreads j other) <;> rw [registrations] <;> exact id
    · rw [registrations, before, same]
  | subscribing j | registeringWatcher j =>
    have other := away j stage.2.2.2.1
    simpa only [Stage, registrations, before, proxies j other, pollThreads j other] using stage
  | _ => simpa only [Stage, registrations] using stage

theorem State.Orderly.stage_effect (orderly : s.Orderly) (enabled : Enabled s a) :
    ∀ pc, (effect s a).At pc → (effect s a).Stage pc := by
  intro pc standing
  cases a with
  | getConsumer =>
    obtain rfl := Option.some.inj standing
    rfl
  | construct cacheName brokerType statistic =>
    obtain rfl := Option.some.inj standing
    have quiet := orderly.unborn s.created (Nat.le_refl _)
    have same := orderly.stage _ enabled.1
    simp only [effect, State.Stage, State.goto, State.setProxy]
    exact ⟨⟨⟨quiet.watcher, quiet.name, by simp, by simp⟩, quiet.pollThread⟩, same⟩
  | prepare j =>
    obtain rfl := Option.some.inj standing
    obtain ⟨quiet, same⟩ := orderly.stage _ enabled
    simp only [effect, State.Stage, State.goto, State.setClient, State.setProxy, Function.update_self]
    refine ⟨quiet.watcher, quiet.name, quiet.running, quiet.pollThread, ?_, same⟩
    split
    · next kafka => simp only [kafka]
    · next rocketmq => simp only [rocketmq, reduceCtorEq]
  | subscribe j =>
    obtain rfl := Option.some.inj standing
    exact orderly.stage _ enabled
  | registerWatcher j =>
    obtain rfl := Option.some.inj standing
    exact List.mem_cons_self
  | registerName j =>
    obtain rfl := Option.some.inj standing
    have member : j ∈ s.registrations.watchers := orderly.stage _ enabled
    simp only [effect, State.Stage, State.goto, State.withRegistrations]
    split
    · exact member
    · exact member
  | setRunning j =>
    obtain rfl := Option.some.inj standing
    exact orderly.stage (.settingRunning j) enabled
  | register j =>
    have member : j ∈ s.registrations.watchers := orderly.stage _ enabled
    simp only [effect] at standing ⊢
    split at standing
    · next kafka =>
      obtain rfl := Option.some.inj standing
      rw [if_pos kafka]
      exact member
    · next rocketmq =>
      obtain rfl := Option.some.inj standing
      rw [if_neg rocketmq]
      exact member
  | await j =>
    obtain rfl := Option.some.inj standing
    exact orderly.stage (.awaiting j) enabled.1
  | test j =>
    have member : j ∈ s.registrations.watchers := orderly.stage _ enabled
    simp only [effect] at standing ⊢
    split at standing
    · cases standing
    · next fine =>
      obtain rfl := Option.some.inj standing
      rw [if_neg fine]
      exact member
  | returnsCached | metadataThrows | prepareThrows | subscribeThrows | registerWatcherThrows
  | registerNameThrows | registerThrows | awaitInterrupted | publish => cases standing
  | whileRunning j | poll j | pollThrows j | countDown j | release j | resetRunning j | consumerShutdown j =>
    refine State.Stage.of_poll (i := j) (orderly.stage pc standing) ?_ rfl rfl ?_ ?_
    · rw [(enabled : s.pollThreads j = _)]
      exact PollThread.noConfusion
    · intro k other
      first | rfl | exact Function.update_of_ne other _ _
    · intro k other
      exact Function.update_of_ne other _ _

theorem proxy_effect {pc : Pc} (enabled : Enabled s a) (standing : (effect s a).At pc) (own : pc.proxy = some i) :
    i = s.created ∧ (effect s a).created = s.created + 1 ∨ ∃ old, s.At old ∧ old.proxy = some i := by
  cases a with
  | getConsumer =>
    obtain rfl := Option.some.inj standing
    cases own
  | construct =>
    obtain rfl := Option.some.inj standing
    exact .inl ⟨(Option.some.inj own).symm, rfl⟩
  | whileRunning | poll | pollThrows | countDown | release | resetRunning | consumerShutdown =>
    exact .inr ⟨pc, standing, own⟩
  | returnsCached | metadataThrows | prepareThrows | subscribeThrows | registerWatcherThrows
  | registerNameThrows | registerThrows | awaitInterrupted | publish => cases standing
  | register | test =>
    simp only [effect] at standing
    split at standing <;> cases standing <;> exact .inr ⟨_, enabled, own⟩
  | await =>
    obtain rfl := Option.some.inj standing
    exact .inr ⟨_, enabled.1, own⟩
  | prepare | subscribe | registerWatcher | registerName | setRunning =>
    obtain rfl := Option.some.inj standing
    exact .inr ⟨_, enabled, own⟩

/-- The only steps that end in a failure are those of the call, which ends with it. -/
theorem failures_effect (enabled : Enabled s a) :
    (effect s a).failures = s.failures ∨
      ∃ i, (effect s a).call = none ∧ (∃ old, s.At old ∧ old.proxy = some i) ∧
        (effect s a).failures = ⟨i, s.before, (effect s a).registrations⟩ :: s.failures := by
  cases a with
  | prepareThrows i | subscribeThrows i | registerWatcherThrows i | awaitInterrupted i =>
    exact .inr ⟨i, rfl, ⟨_, enabled, rfl⟩, rfl⟩
  | registerNameThrows i => exact .inr ⟨i, rfl, ⟨_, enabled.1, rfl⟩, rfl⟩
  | registerThrows i connected =>
    cases connected <;> exact .inr ⟨i, rfl, ⟨_, enabled, rfl⟩, rfl⟩
  | test i =>
    simp only [effect]
    split
    · exact .inr ⟨i, rfl, ⟨_, enabled, rfl⟩, rfl⟩
    · exact .inl rfl
  | register =>
    simp only [effect]
    split <;> exact .inl rfl
  | _ => exact .inl rfl

theorem State.Orderly.effect (orderly : s.Orderly) (enabled : Enabled s a) :
    (Construction.effect s a).Orderly := by
  constructor
  case unborn =>
    intro i unborn
    apply quiet_effect (orderly.unborn i (Nat.le_trans created_le unborn))
    intro j member
    have born := orderly.proxy_born enabled member
    omega
  case stage => exact orderly.stage_effect enabled
  case born =>
    intro pc standing i own
    obtain ⟨rfl, grows⟩ | ⟨old, stood, same⟩ := proxy_effect enabled standing own
    · omega
    · have born := orderly.born old stood i same
      have grows : s.created ≤ (Construction.effect s a).created := created_le
      omega
  case failed =>
    have kept : ∀ f ∈ s.failures, f.proxy < (Construction.effect s a).created ∧
        ∀ pc, (Construction.effect s a).At pc → pc.proxy ≠ some f.proxy := by
      intro f member
      obtain ⟨born, away⟩ := orderly.failed f member
      constructor
      · exact Nat.lt_of_lt_of_le born created_le
      · intro pc standing own
        obtain ⟨fresh, _⟩ | ⟨old, stood, same⟩ := proxy_effect enabled standing own
        · omega
        · exact away old stood same
    obtain same | ⟨i, ends, ⟨old, stood, own⟩, grown⟩ := failures_effect enabled
    · rw [same]
      exact kept
    · intro f member
      rw [grown] at member
      obtain rfl | member := List.mem_cons.mp member
      · constructor
        · exact Nat.lt_of_lt_of_le (orderly.born old stood i own) created_le
        · intro pc standing
          rw [State.At, ends] at standing
          cases standing
      · exact kept f member

theorem orderly_of_reachable (reached : machine.Reachable s) : s.Orderly := by
  apply reached.invariant State.Orderly
  · intro s initial
    subst initial
    constructor
    case unborn =>
      intro i _
      exact ⟨⟨List.not_mem_nil, List.not_mem_nil, rfl, BrokerClient.noConfusion⟩, rfl⟩
    case stage =>
      intro pc standing
      cases standing
    case born =>
      intro pc standing
      cases standing
    case failed =>
      intro f member
      cases member
  · intro s a orderly enabled
    exact orderly.effect enabled

end Invariant

/-- The call fails while its proxy holds nothing yet: before a Kafka client is
constructed, or before RocketMQ's watcher is subscribed. -/
def Early (s : State) : Action → Prop
  | .subscribeThrows i => (s.proxies i).brokerType = .ROCKETMQ
  | .registerWatcherThrows i subscribed => (s.proxies i).brokerType = .ROCKETMQ ∧ subscribed = false
  | .registerNameThrows _ _ | .registerThrows _ _ | .awaitInterrupted _ => False
  | .test i => (s.proxies i).err = false
  | _ => True

instance (s : State) (a : Action) : Decidable (Early s a) := by
  apply Action.casesOn (motive := fun a => Decidable (Early s a)) a <;> intros <;>
    dsimp only [Early] <;> infer_instance

section Failures
variable {s : State} {a : Action} {f : Failure}

theorem not_leavesNothing {t : State} (member : f.proxy ∈ t.registrations.watchers) : ¬ t.LeavesNothing f := by
  intro nothing
  exact nothing.2.watcher member

theorem early_of_leavesNothing (orderly : s.Orderly) (enabled : Enabled s a)
    (fails : (effect s a).failures = f :: s.failures) (nothing : (effect s a).LeavesNothing f) : Early s a := by
  cases a with
  | prepareThrows => trivial
  | subscribeThrows i =>
    obtain rfl := (List.cons.inj fails).1
    obtain ⟨_, _, _, _, client, _⟩ := orderly.stage _ enabled
    cases kind : (s.proxies i).brokerType with
    | KAFKA => exact absurd (client.mpr kind) nothing.2.client
    | ROCKETMQ => exact kind
  | registerWatcherThrows i subscribed =>
    obtain rfl := (List.cons.inj fails).1
    obtain ⟨_, _, _, _, client, _⟩ := orderly.stage _ enabled
    cases subscribed with
    | true => exact absurd nothing (not_leavesNothing List.mem_cons_self)
    | false =>
      cases kind : (s.proxies i).brokerType with
      | KAFKA => exact absurd (client.mpr kind) nothing.2.client
      | ROCKETMQ => exact ⟨kind, rfl⟩
  | registerNameThrows i existing =>
    obtain rfl := (List.cons.inj fails).1
    have member : i ∈ s.registrations.watchers := orderly.stage _ enabled.1
    apply not_leavesNothing _ nothing
    cases existing <;> exact member
  | registerThrows i connected =>
    have member : i ∈ s.registrations.watchers := orderly.stage _ enabled
    cases connected <;> obtain rfl := (List.cons.inj fails).1 <;> exact not_leavesNothing member nothing
  | awaitInterrupted i =>
    obtain rfl := (List.cons.inj fails).1
    have member : i ∈ s.registrations.watchers := orderly.stage _ enabled
    exact not_leavesNothing member nothing
  | test i =>
    have member : i ∈ s.registrations.watchers := orderly.stage _ enabled
    simp only [effect] at fails nothing
    split at fails
    · next failed =>
      obtain rfl := (List.cons.inj fails).1
      rw [if_pos failed] at nothing
      exact absurd nothing (not_leavesNothing member)
    · exact absurd fails List.ne_cons_self
  | _ => trivial

/-- A failure that comes early leaves nothing, and no poll thread either. -/
theorem quiet_of_early (orderly : s.Orderly) (enabled : Enabled s a) (early : Early s a)
    (fails : (effect s a).failures = f :: s.failures) :
    f.after = f.before ∧ (effect s a).Quiet f.proxy := by
  cases a with
  | prepareThrows i =>
    obtain rfl := (List.cons.inj fails).1
    obtain ⟨quiet, same⟩ := orderly.stage _ enabled
    exact ⟨same, quiet.throws i⟩
  | subscribeThrows i =>
    obtain rfl := (List.cons.inj fails).1
    obtain ⟨watcher, name, running, pollThread, client, same⟩ := orderly.stage _ enabled
    have idle : (s.proxies i).client ≠ .connected := by
      intro connected
      have kafka := client.mp connected
      rw [(early : (s.proxies i).brokerType = _)] at kafka
      cases kafka
    exact ⟨same, ⟨watcher, name, running, idle⟩, pollThread⟩
  | registerWatcherThrows i subscribed =>
    obtain ⟨rocketmq, rfl⟩ := early
    obtain rfl := (List.cons.inj fails).1
    obtain ⟨watcher, name, running, pollThread, client, same⟩ := orderly.stage _ enabled
    have idle : (s.proxies i).client ≠ .connected := by
      intro connected
      have kafka := client.mp connected
      rw [rocketmq] at kafka
      cases kafka
    exact ⟨same, ⟨watcher, name, running, idle⟩, pollThread⟩
  | registerNameThrows | registerThrows | awaitInterrupted => exact early.elim
  | test i =>
    simp only [effect, if_neg (Bool.eq_false_iff.mp early)] at fails
    exact absurd fails List.ne_cons_self
  | register =>
    simp only [effect] at fails
    split at fails <;> exact absurd fails List.ne_cons_self
  | _ => exact absurd fails List.ne_cons_self

theorem failed_untouched (orderly : s.Orderly) (enabled : Enabled s a) (member : f ∈ s.failures)
    (quiet : s.Quiet f.proxy) : ∀ i ∈ a.proxy s, f.proxy ≠ i := by
  obtain ⟨born, away⟩ := orderly.failed f member
  intro i touched same
  subst same
  obtain ⟨fresh, _⟩ | ⟨pc, standing, own⟩ | polls := touched_cases enabled touched
  · omega
  · exact away pc standing own
  · exact polls quiet.pollThread

/-- Every call that threw has left nothing, and will not. -/
def State.Settled (s : State) : Prop := ∀ f ∈ s.failures, f.after = f.before ∧ s.Quiet f.proxy

theorem State.Settled.effect (settled : s.Settled) (orderly : s.Orderly) (enabled : Enabled s a)
    (early : Early s a) : (Construction.effect s a).Settled := by
  have kept : ∀ f ∈ s.failures, f.after = f.before ∧ (Construction.effect s a).Quiet f.proxy := by
    intro f member
    obtain ⟨same, quiet⟩ := settled f member
    exact ⟨same, quiet_effect quiet (failed_untouched orderly enabled member quiet)⟩
  obtain same | ⟨i, _, _, grown⟩ := failures_effect enabled
  · intro f member
    rw [same] at member
    exact kept f member
  · intro f member
    rw [grown] at member
    obtain rfl | member := List.mem_cons.mp member
    · exact quiet_of_early orderly enabled early grown
    · exact kept f member

theorem settled_of_reachable (reached : (machine.restrict Early).Reachable s) : s.Settled := by
  have both : s.Orderly ∧ s.Settled := by
    apply reached.invariant fun s => s.Orderly ∧ s.Settled
    · intro s initial
      refine ⟨orderly_of_reachable (.start initial), ?_⟩
      intro f member
      rw [(initial : s = _)] at member
      cases member
    · intro s a holds enabled
      exact ⟨holds.1.effect enabled.1, holds.2.effect holds.1 enabled.1 enabled.2⟩
  exact both.2

end Failures

/-- In every run whose calls fail early if they fail, a call that threw leaves
nothing; the first call that fails later does leave something. -/
theorem leavesNothing_of_early {s : State} (reached : (machine.restrict Early).Reachable s) :
    (∀ f ∈ s.failures, s.LeavesNothing f) ∧
      ∀ a f, machine.guard s a → (machine.effect s a).failures = f :: s.failures →
        ((machine.effect s a).LeavesNothing f ↔ Early s a) := by
  have orderly := orderly_of_reachable reached.of_restrict
  constructor
  · intro f member
    obtain ⟨same, quiet⟩ := settled_of_reachable reached f member
    exact ⟨same, quiet.toIdle⟩
  · intro a f enabled fails
    constructor
    · exact early_of_leavesNothing orderly enabled fails
    · intro early
      obtain ⟨same, quiet⟩ := quiet_of_early orderly enabled early fails
      exact ⟨same, quiet.toIdle⟩

/-- A suspended RocketMQ group, then a Kafka group whose cluster has no boot address. -/
def Run.earlyFailures : List Action :=
  [.getConsumer "billing_DEFAULT_CONSUMER", .construct "billing_DEFAULT_CONSUMER" .ROCKETMQ false, .prepare 0,
    .subscribeThrows 0, .getConsumer "audit_DEFAULT_CONSUMER", .construct "audit_DEFAULT_CONSUMER" .KAFKA false,
    .prepareThrows 1]

set_option maxRecDepth 4000 in
theorem leavesNothing_of_early_twice :
    ∃ s, machine.Reachable s ∧ s.failures.length = 2 ∧ ∀ f ∈ s.failures, s.LeavesNothing f := by
  have run : ∃ s, (machine.restrict Early).Reachable s ∧ s.failures.length = 2 :=
    Guarded.exists_reachable Run.earlyFailures rfl (by decide)
  obtain ⟨s, reached, failed⟩ := run
  exact ⟨s, reached.of_restrict, failed, (leavesNothing_of_early reached).1⟩

/-- The first poll of a Kafka consumer throws; its thread has ended when the call throws. -/
def Run.pollFailure : List Action :=
  [.getConsumer "billing_DEFAULT_CONSUMER", .construct "billing_DEFAULT_CONSUMER" .KAFKA false, .prepare 0,
    .subscribe 0, .registerWatcher 0, .registerName 0, .setRunning 0, .register 0, .whileRunning 0,
    .pollThrows 0, .release 0, .resetRunning 0, .consumerShutdown 0, .await 0, .test 0]

set_option maxRecDepth 4000 in
theorem not_always_leavesNothing : ¬ ∀ s, machine.Reachable s → ∀ f ∈ s.failures, s.LeavesNothing f := by
  intro always
  have run : ∃ s, machine.Reachable s ∧ ∃ f ∈ s.failures, f.proxy ∈ s.registrations.watchers :=
    Guarded.exists_reachable Run.pollFailure rfl (by decide)
  obtain ⟨s, reached, f, failed, watches⟩ := run
  exact not_leavesNothing watches (always s reached f failed)

end Zms.Client.Construction
