import Zms.Client.Consumer.Factory

/-! Whether `ConsumerFactory` knows every running consumer.

A restart takes the proxy out of the map and starts it again, and nothing puts
it back; a proxy whose `register` throws is running before it could be put.
-/

set_option autoImplicit false

namespace Zms.Client.ConsumerFactory

open Zms.Transition Zms.Registry

theorem runs_iff {starting : Starting} :
    starting.runs = true ↔ starting = .registerThrows true ∨ starting = .completes := by
  cases starting <;> simp [Starting.runs]

@[simp] theorem proxyKey_start (proxy : ZmsConsumerProxy) (starting : Starting) :
    proxyKey (proxy.start starting) = proxyKey proxy := by
  simp only [ZmsConsumerProxy.start]
  split <;> rfl

theorem running_start {proxy : ZmsConsumerProxy} {starting : Starting} (stopped : proxy.running = false) :
    (proxy.start starting).running = starting.runs := by
  simp [ZmsConsumerProxy.start, stopped]

theorem name_of_read {name : String} {node : Option ConsumerGroupMetadata} {metadata : ConsumerGroupMetadata}
    (read : readConsumerGroupMetadata name node = some metadata) : metadata.name = name := by
  obtain ⟨held, -, taken⟩ := Option.bind_eq_some_iff.mp read
  split at taken
  · cases taken
  · cases taken
    rfl

namespace State

def Running (s : State) (i : Nat) : Prop := (s.proxies i).running = true

/-- Every running proxy is the value of the map under its own key. -/
def Published (s : State) : Prop := Holds s.consumers s.key s.Running

/-- `Published`, and no two running proxies share a key. -/
def Registered (s : State) : Prop :=
  s.Published ∧ ∀ i j, s.Running i → s.Running j → s.key i = s.key j → i = j

theorem registered_iff (s : State) : s.Registered ↔ s.Published :=
  ⟨And.left, fun published => ⟨published, fun _ _ => published.unique⟩⟩

def restarts (host : String) (s : State) (i : Nat) (node : Option ConsumerGroupMetadata) : Bool :=
  match s.reaction host i node with
  | .restarts _ => true
  | .ignores | .adopts _ => false

/-- No call starts a proxy that the map does not hold: a new proxy's `register`
does not throw while it is running, and a restart that gets as far as starting
finds the proxy stopped but not recycled. -/
def Keeps (host : String) (s : State) : Action → Prop
  | .getConsumer consumerGroup name node starting =>
      s.consumers.lookup (cacheName consumerGroup name) = none →
        (readConsumerGroupMetadata consumerGroup node).isSome = true → starting ≠ .registerThrows true
  | .dataChange i node stopping starting =>
      s.restarts host i node = true → starting.runs = true →
        if (s.proxies i).running then stopping ≠ .completes else s.consumers.lookup (s.key i) = some i
  | .shutdown _ | .shutdownGroup _ _ | .pollThreadEnds _ => True

instance (host : String) (s : State) (a : Action) : Decidable (s.Keeps host a) := by
  apply Action.casesOn (motive := fun a => Decidable (s.Keeps host a)) a <;> intros <;>
    dsimp only [Keeps] <;> infer_instance

variable {host : String} {s : State} {i j : Nat} {stopping : Stopping} {starting : Starting}

theorem published_update_iff {t : State} {proxy : ZmsConsumerProxy}
    (updated : t.proxies = Function.update s.proxies i proxy)
    (others : ∀ j, j ≠ i → s.Running j → t.consumers.lookup (s.key j) = some j) :
    t.Published ↔ (proxy.running = true → t.consumers.lookup (proxyKey proxy) = some i) := by
  have self : t.proxies i = proxy := by rw [updated, Function.update_self]
  constructor
  · intro published running
    have found := published i (by rwa [Running, self])
    rwa [key, self] at found
  · intro found j running
    by_cases same : j = i
    · subst j
      rw [Running, self] at running
      rw [key, self]
      exact found running
    · have unchanged : t.proxies j = s.proxies j := by rw [updated, Function.update_of_ne same]
      rw [Running, unchanged] at running
      rw [key, unchanged]
      exact others j same running

theorem Published.setProxy_iff (published : s.Published) (proxy : ZmsConsumerProxy) :
    (s.setProxy i proxy).Published ↔
      (proxy.running = true → s.consumers.lookup (proxyKey proxy) = some i) :=
  published_update_iff rfl fun j _ running => published j running

theorem published_of_stopped {t : State} {proxy : ZmsConsumerProxy} (idle : proxy.running = false)
    (updated : t.proxies = Function.update s.proxies i proxy)
    (others : ∀ j, j ≠ i → s.Running j → t.consumers.lookup (s.key j) = some j) : t.Published := by
  apply (published_update_iff updated others).mpr
  intro running
  rw [idle] at running
  cases running

/-- Recycling a running proxy takes away its own entry only. -/
theorem Published.lookup_erase (published : s.Published) (running : s.Running i) (other : j ≠ i)
    (runs : s.Running j) : (s.consumers.erase (s.key i)).lookup (s.key j) = some j := by
  rw [AList.lookup_erase_ne fun same => other (published.unique runs running same)]
  exact published j runs

/-- A stopped proxy stays as it is. A running one is stopped under its key, and
recycled unless something throws. -/
theorem shutdownProxy_cases (s : State) (i : Nat) (stopping : Stopping) :
    (s.proxies i).running = false ∧ s.shutdownProxy i stopping = (s, true) ∨
      (s.proxies i).running = true ∧ ∃ proxy : ZmsConsumerProxy,
        proxy.running = false ∧ proxyKey proxy = s.key i ∧
          (stopping ≠ .completes ∧ s.shutdownProxy i stopping = (s.setProxy i proxy, false) ∨
            stopping = .completes ∧ ∃ t, s.shutdownProxy i stopping = (t, true) ∧
              t.proxies = Function.update s.proxies i proxy ∧
              t.consumers = s.consumers.erase (s.key i)) := by
  cases running : (s.proxies i).running with
  | false => exact .inl ⟨rfl, by simp only [shutdownProxy, running, if_true]⟩
  | true =>
    have through : ¬ (s.proxies i).running = false := by simp [running]
    refine .inr ⟨rfl, ?_⟩
    simp only [shutdownProxy, if_neg through]
    cases stopping with
    | unregisterThrows => exact ⟨{ s.proxies i with running := false }, rfl, rfl, .inl ⟨by simp, rfl⟩⟩
    | consumerShutdownThrows =>
      exact ⟨{ s.proxies i with running := false, subscribed := false }, rfl, rfl, .inl ⟨by simp, rfl⟩⟩
    | completes =>
      exact ⟨{ s.proxies i with running := false, subscribed := false }, rfl, rfl,
        .inr ⟨rfl, _, rfl, rfl, rfl⟩⟩

theorem Published.shutdownProxy (published : s.Published) (i : Nat) (stopping : Stopping) :
    (s.shutdownProxy i stopping).1.Published := by
  obtain ⟨-, same⟩ | ⟨running, proxy, idle, -, ⟨-, thrown⟩ | ⟨-, t, recycled, updated, erased⟩⟩ :=
    shutdownProxy_cases s i stopping
  · rwa [same]
  · rw [thrown]
    exact published_of_stopped idle rfl fun j _ runs => published j runs
  · rw [recycled]
    apply published_of_stopped idle updated
    intro j other runs
    rw [erased]
    exact published.lookup_erase running other runs

theorem running_shutdownProxy (runs : (s.shutdownProxy i stopping).1.Running j) : s.Running j ∧ j ≠ i := by
  have stopped : ∀ {proxy : ZmsConsumerProxy}, proxy.running = false →
      (Function.update s.proxies i proxy j).running = true → s.Running j ∧ j ≠ i := by
    intro proxy idle runs
    have other : j ≠ i := by
      rintro rfl
      rw [Function.update_self, idle] at runs
      cases runs
    rw [Function.update_of_ne other] at runs
    exact ⟨runs, other⟩
  obtain ⟨idle, same⟩ | ⟨-, proxy, idle, -, ⟨-, thrown⟩ | ⟨-, t, recycled, updated, -⟩⟩ :=
    shutdownProxy_cases s i stopping
  · rw [same] at runs
    refine ⟨runs, ?_⟩
    rintro rfl
    rw [Running, idle] at runs
    cases runs
  · rw [thrown] at runs
    exact stopped idle runs
  · rw [recycled, Running, updated] at runs
    exact stopped idle runs

theorem Published.shutdownEntries {entries : List (Nat × Stopping)} (published : s.Published) :
    (s.shutdownEntries entries).1.Published := by
  induction entries generalizing s with
  | nil => exact published
  | cons entry rest ih =>
    simp only [State.shutdownEntries]
    split
    · exact ih (published.shutdownProxy _ _)
    · exact published.shutdownProxy _ _

/-- Once the loop is through, what is still running was not among the entries. -/
theorem running_shutdownEntries {entries : List (Nat × Stopping)}
    (returns : (s.shutdownEntries entries).2 = true) (runs : (s.shutdownEntries entries).1.Running j) :
    s.Running j ∧ j ∉ entries.map Prod.fst := by
  induction entries generalizing s with
  | nil => exact ⟨runs, List.not_mem_nil⟩
  | cons entry rest ih =>
    simp only [State.shutdownEntries] at returns runs
    split at returns
    · next stopped =>
      rw [if_pos stopped] at runs
      obtain ⟨ranBefore, unvisited⟩ := ih returns runs
      obtain ⟨ran, other⟩ := running_shutdownProxy ranBefore
      refine ⟨ran, ?_⟩
      rw [List.map_cons, List.mem_cons, not_or]
      exact ⟨other, unvisited⟩
    · cases returns

/-- `shutdown` clears the map only when nothing runs any more. -/
theorem Published.shutdown {entries : List (Nat × Stopping)} (published : s.Published)
    (all : (entries.map Prod.fst).Perm s.consumers.values) : (s.shutdown entries).Published := by
  simp only [State.shutdown]
  split
  · next returns =>
    intro j runs
    obtain ⟨ran, unvisited⟩ := running_shutdownEntries returns runs
    exact absurd (all.mem_iff.mpr (published.mem_values ran)) unvisited
  · exact published.shutdownEntries

theorem Published.shutdownGroup (published : s.Published) (consumerGroup : String) (stopping : Stopping) :
    (s.shutdownGroup consumerGroup stopping).Published := by
  simp only [State.shutdownGroup]
  split
  · exact published
  · exact published.shutdownProxy _ _

theorem Published.doGetConsumer_iff (published : s.Published) (consumerGroup name : String)
    (node : Option ConsumerGroupMetadata) (starting : Starting) :
    (s.doGetConsumer consumerGroup name node starting).1.Published ↔
      s.Keeps host (.getConsumer consumerGroup name node starting) := by
  simp only [doGetConsumer, Keeps]
  cases found : s.consumers.lookup (cacheName consumerGroup name) with
  | some _ => simpa using published
  | none =>
    cases read : readConsumerGroupMetadata consumerGroup node with
    | none => simpa using published
    | some metadata =>
      have key : proxyKey ((ZmsConsumerProxy.mk metadata name false false).start starting) =
          cacheName consumerGroup name := by
        rw [proxyKey_start, proxyKey, name_of_read read]
      simp only [Option.isSome_some, forall_const]
      split
      · next completes =>
        subst completes
        refine iff_of_true ((published_update_iff rfl fun j _ running => ?_).mpr fun _ => ?_) (by simp)
        · exact Entries.lookup_putIfAbsent_of_some (published j running)
        · rw [key]
          exact Entries.lookup_putIfAbsent_of_none found
      · next throws =>
        refine Iff.trans (published_update_iff rfl fun j _ running => published j running) ?_
        have absent : (s.setProxy s.created
            ((ZmsConsumerProxy.mk metadata name false false).start starting)).consumers.lookup
              (cacheName consumerGroup name) = none := found
        rw [key, absent, running_start rfl, runs_iff]
        simp [throws]

/-- A restart keeps the map complete unless it starts the proxy it has just recycled,
or one that was not in the map to begin with. -/
theorem Published.restart_iff (published : s.Published) (i : Nat) (stopping : Stopping)
    (starting : Starting) :
    (s.restart i stopping starting).Published ↔
      (starting.runs = true →
        if (s.proxies i).running then stopping ≠ .completes else s.consumers.lookup (s.key i) = some i) := by
  have stopped := published.shutdownProxy i stopping
  simp only [State.restart]
  obtain ⟨idle, same⟩ |
      ⟨running, proxy, idle, key, ⟨throws, thrown⟩ | ⟨completes, t, recycled, updated, erased⟩⟩ :=
    shutdownProxy_cases s i stopping
  -- it was stopped already, and may still be in the map
  · rw [same, if_pos rfl, published.setProxy_iff, proxyKey_start, running_start idle, idle]
    rfl
  · rw [thrown] at stopped ⊢
    rw [running, if_pos rfl]
    exact iff_of_true stopped fun _ => throws
  -- recycled, so that a start leaves it running outside the map
  · rw [recycled] at stopped ⊢
    have self : t.proxies i = proxy := by rw [updated, Function.update_self]
    rw [if_pos rfl, stopped.setProxy_iff, proxyKey_start, self, running_start idle, key, erased,
      AList.lookup_erase, completes, running]
    simp

theorem Published.handleDataChange_iff (published : s.Published) (i : Nat)
    (node : Option ConsumerGroupMetadata) (stopping : Stopping) (starting : Starting) :
    (s.handleDataChange host i node stopping starting).Published ↔
      s.Keeps host (.dataChange i node stopping starting) := by
  simp only [State.handleDataChange, Keeps, restarts]
  obtain ignored | ⟨taken, read, kind⟩ :=
    (proxyClass host (s.proxies i).metadata).reaction_cases (s.proxies i).metadata
      (readConsumerGroupMetadata (s.proxies i).metadata.name node)
  · simpa [reaction, ignored] using published
  · -- the metadata read is of the same group, so that the proxy keeps its key
    have renamed : proxyKey { s.proxies i with metadata := taken } = s.key i :=
      congrArg (cacheName · (s.proxies i).instanceName) (name_of_read read)
    have adopted : (s.setProxy i { s.proxies i with metadata := taken }).Published :=
      (published.setProxy_iff _).mpr fun running => renamed ▸ published i running
    rcases kind with ⟨-, restarted⟩ | ⟨-, taking⟩
    · have self : (s.setProxy i { s.proxies i with metadata := taken }).proxies i =
          { s.proxies i with metadata := taken } := Function.update_self _ _ _
      have kept := adopted.restart_iff i stopping starting
      rw [key, self, renamed] at kept
      simp only [reaction, restarted, forall_const]
      exact kept
    · simpa [reaction, taking] using adopted

theorem Published.effect_iff (published : s.Published) {a : Action} (enabled : Enabled s a) :
    (effect host s a).Published ↔ s.Keeps host a := by
  cases a with
  | getConsumer => exact published.doGetConsumer_iff _ _ _ _
  | shutdown => exact iff_of_true (published.shutdown enabled) trivial
  | shutdownGroup => exact iff_of_true (published.shutdownGroup _ _) trivial
  | dataChange => exact published.handleDataChange_iff _ _ _ _
  | pollThreadEnds =>
    exact iff_of_true (published_of_stopped rfl rfl fun j _ running => published j running) trivial

end State

open State

theorem published_of_keeps (host : String) {s : State}
    (reached : ((machine host).restrict (Keeps host)).Reachable s) : s.Published := by
  apply reached.invariant Published
  · rintro _ ⟨unused, rfl⟩
    apply Holds.of_none_live
    intro i running
    cases running
  · rintro s a published ⟨enabled, keeps⟩
    exact (published.effect_iff enabled).mpr keeps

/-- As long as every step keeps the map complete every running proxy is in it,
and the first step that does not leaves a running proxy out of it. -/
theorem consumers_registered_of_keeps (host : String) {s : State}
    (reached : ((machine host).restrict (Keeps host)).Reachable s) :
    s.Registered ∧ ∀ a, (machine host).guard s a → (((machine host).effect s a).Registered ↔ s.Keeps host a) := by
  have published := published_of_keeps host reached
  refine ⟨s.registered_iff.mpr published, fun a enabled => ?_⟩
  rw [registered_iff]
  exact published.effect_iff enabled

namespace Run

def host : String := "10.0.0.1"

def group (bindingTopic : String) : ConsumerGroupMetadata where
  type := "consumergroup"
  name := "billing"
  clusterMetadata := some ⟨"main", some "main:9092", some .KAFKA, none⟩
  domain := none
  gatedIps := none
  gatedCluster := none
  statisticsLogger := none
  bindingTopic := some bindingTopic
  consumeFrom := none
  broadcast := none
  suspend := none

def subscribe : Action := .getConsumer "billing" "DEFAULT_CONSUMER" (some (group "orders")) .completes

def rebind : Action := .dataChange 0 (some (group "refunds")) .completes .completes

end Run

open Run in
/-- A proxy whose poll thread has ended is still in the map when it is restarted. -/
theorem consumers_registered_of_keeps_restart : ∃ s : State, s.Running 0 ∧
    (s.proxies 0).metadata.bindingTopic = some "refunds" ∧ s.Registered := by
  have run : ∃ s, ((machine host).restrict (Keeps host)).Reachable s ∧
      (s.proxies 0).running = true ∧ (s.proxies 0).metadata.bindingTopic = some "refunds" :=
    Guarded.exists_reachable [subscribe, .pollThreadEnds 0, rebind] ⟨group "orders", rfl⟩ (by decide)
  obtain ⟨s, reached, running, rebound⟩ := run
  exact ⟨s, running, rebound, (consumers_registered_of_keeps host reached).1⟩

open Run in
/-- The restart unpublishes the consumer, and the next subscription runs a second one. -/
theorem consumers_not_registered : ¬ ∀ (host : String) (s : State), (machine host).Reachable s → s.Registered := by
  intro always
  have run : ∃ s, (machine host).Reachable s ∧ (s.proxies 0).running = true ∧
      (s.proxies 1).running = true ∧ s.key 0 = s.key 1 :=
    Guarded.exists_reachable [subscribe, rebind, subscribe] ⟨group "orders", rfl⟩ (by decide)
  obtain ⟨s, reached, first, second, same⟩ := run
  exact absurd ((always host s reached).2 0 1 first second same) nofun

end Zms.Client.ConsumerFactory
