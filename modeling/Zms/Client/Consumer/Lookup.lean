import Zms.Client.Consumer.Registered

/-! Which consumer `getConsumer` returns, and whose entry a shutdown removes.

Both go by the joined key alone. Two pairs of names may share it, and a restarted
consumer runs without an entry while its key is free for another.
-/

set_option autoImplicit false

namespace Zms.Client.ConsumerFactory

open Zms.Transition Zms.Registry

/-- The calls of the factory, and those of a proxy that its holder makes. -/
inductive Call where
  | factory (a : Action)
  | proxyShutdown (i : Nat) (stopping : Stopping)

def CallEnabled (s : State) : Call → Prop
  | .factory a => Enabled s a
  | .proxyShutdown i _ => i < s.created

instance (s : State) (c : Call) : Decidable (CallEnabled s c) := by
  apply Call.casesOn (motive := fun c => Decidable (CallEnabled s c)) c <;> intros <;>
    dsimp only [CallEnabled] <;> infer_instance

def callEffect (host : String) (s : State) : Call → State
  | .factory a => effect host s a
  | .proxyShutdown i stopping => (s.shutdownProxy i stopping).1

def callMachine (host : String) : Guarded State Call where
  init := (machine host).init
  guard := CallEnabled
  effect := callEffect host

instance (host : String) (s : State) (c : Call) : Decidable ((callMachine host).guard s c) :=
  inferInstanceAs (Decidable (CallEnabled s c))

/-- The group that a proxy consumes, and the instance name it does so under. -/
def proxyNames (proxy : ZmsConsumerProxy) : String × String := (proxy.metadata.name, proxy.instanceName)

namespace State

def names (s : State) (i : Nat) : String × String := proxyNames (s.proxies i)

/-- The consumer returned is that of the group and the name asked for. -/
def Returns (s : State) : Call → Prop
  | .factory (.getConsumer consumerGroup name node starting) =>
      ∀ i ∈ (s.doGetConsumer consumerGroup name node starting).2,
        (s.doGetConsumer consumerGroup name node starting).1.names i = (consumerGroup, name)
  | .factory _ | .proxyShutdown _ _ => True

/-- Only entries of `i` are gone. -/
def KeepsOthers (s t : State) (i : Nat) : Prop :=
  ∀ key j, s.consumers.lookup key = some j → j ≠ i → t.consumers.lookup key = some j

/-- Each proxy that the call shuts down takes no other's entry away. -/
def Spares (host : String) (s : State) : Call → Prop
  | .factory (.getConsumer _ _ _ _) | .factory (.pollThreadEnds _) => True
  | .factory (.shutdown entries) => ∀ visited i stopping, visited ++ [(i, stopping)] <+: entries →
      (s.shutdownEntries visited).2 = true →
        (s.shutdownEntries visited).1.KeepsOthers ((s.shutdownEntries visited).1.shutdownProxy i stopping).1 i
  | .factory (.shutdownGroup consumerGroup stopping) =>
      ∀ found ∈ s.consumers.lookup (cacheName consumerGroup "DEFAULT_CONSUMER"),
        s.KeepsOthers (s.shutdownGroup consumerGroup stopping) found
  | .factory (.dataChange i node stopping starting) =>
      s.KeepsOthers (s.handleDataChange host i node stopping starting) i
  | .proxyShutdown i stopping => s.KeepsOthers (s.shutdownProxy i stopping).1 i

def SparesOthers (host : String) (s : State) : Prop := ∀ c, CallEnabled s c → s.Spares host c

/-- No consumer of another group or name is cached under the key asked for, a
consumer is put under a key only when none runs under it, and a stopped one is
started again only when its key is its own or free. -/
def Apart (host : String) (s : State) : Call → Prop
  | .factory (.getConsumer consumerGroup name node starting) =>
      (∀ i ∈ s.consumers.lookup (cacheName consumerGroup name), s.names i = (consumerGroup, name)) ∧
        (s.consumers.lookup (cacheName consumerGroup name) = none →
          (readConsumerGroupMetadata consumerGroup node).isSome = true → starting = .completes →
            ∀ i < s.created, (s.proxies i).running = true → s.key i ≠ cacheName consumerGroup name)
  | .factory (.dataChange i node _ starting) =>
      s.restarts host i node = true → starting.runs = true → (s.proxies i).running = false →
        ∀ j ∈ s.consumers.lookup (s.key i), j = i
  | .factory (.shutdown _) | .factory (.shutdownGroup _ _) | .factory (.pollThreadEnds _)
  | .proxyShutdown _ _ => True

instance (host : String) (s : State) (c : Call) : Decidable (s.Apart host c) := by
  apply Call.casesOn (motive := fun c => Decidable (s.Apart host c)) c
  · intro a
    apply Action.casesOn (motive := fun a => Decidable (s.Apart host (.factory a))) a <;> intros <;>
      dsimp only [Apart] <;> infer_instance
  · intros
    dsimp only [Apart]
    infer_instance

def Born (s : State) : Prop := ∀ i, s.Running i → i < s.created

/-- The entry under a running proxy's key, if there is one, is its own. -/
structure Owned (s : State) : Prop where
  born : s.Born
  own : ∀ i, s.Running i → ∀ j ∈ s.consumers.lookup (s.key i), j = i

/-- Proxies were stopped and entries removed, and nothing else. -/
structure Stops (s t : State) : Prop where
  created : t.created = s.created
  names : ∀ i, t.names i = s.names i
  running : ∀ i, t.Running i → s.Running i
  entries : ∀ key j, t.consumers.lookup key = some j → s.consumers.lookup key = some j

variable {host : String} {s t u : State} {i j : Nat} {stopping : Stopping} {starting : Starting}

theorem key_of_names (same : t.names i = s.names i) : t.key i = s.key i :=
  congrArg (fun names : String × String => cacheName names.1 names.2) same

theorem Stops.refl (s : State) : Stops s s := ⟨rfl, fun _ => rfl, fun _ => id, fun _ _ => id⟩

theorem Stops.trans (first : Stops s t) (second : Stops t u) : Stops s u where
  created := second.created.trans first.created
  names i := (second.names i).trans (first.names i)
  running i runs := first.running i (second.running i runs)
  entries key j found := first.entries key j (second.entries key j found)

theorem Born.stops (born : s.Born) (stops : Stops s t) : t.Born := by
  intro i runs
  rw [stops.created]
  exact born i (stops.running i runs)

theorem Owned.stops (owned : s.Owned) (stops : Stops s t) : t.Owned := by
  constructor
  · exact owned.born.stops stops
  · intro i runs j found
    rw [key_of_names (stops.names i)] at found
    exact owned.own i (stops.running i runs) j (stops.entries _ j found)

theorem proxies_setProxy_self (s : State) (i : Nat) (proxy : ZmsConsumerProxy) :
    (s.setProxy i proxy).proxies i = proxy := Function.update_self _ _ _

theorem proxies_setProxy_of_ne (s : State) (proxy : ZmsConsumerProxy) (other : j ≠ i) :
    (s.setProxy i proxy).proxies j = s.proxies j := Function.update_of_ne other _ _

theorem stops_setProxy {proxy : ZmsConsumerProxy} (same : proxyNames proxy = s.names i)
    (stopped : proxy.running = true → s.Running i) : Stops s (s.setProxy i proxy) := by
  refine ⟨rfl, fun j => ?_, fun j runs => ?_, fun _ _ => id⟩
  · by_cases self : j = i
    · subst j
      rw [names, proxies_setProxy_self, same]
    · rw [names, proxies_setProxy_of_ne s proxy self, names]
  · by_cases self : j = i
    · subst j
      rw [Running, proxies_setProxy_self] at runs
      exact stopped runs
    · rwa [Running, proxies_setProxy_of_ne s proxy self] at runs

theorem stops_setProxy_stopped {proxy : ZmsConsumerProxy} (same : proxyNames proxy = s.names i)
    (idle : proxy.running = false) : Stops s (s.setProxy i proxy) := by
  apply stops_setProxy same
  intro runs
  rw [idle] at runs
  cases runs

theorem stops_recycle (name instanceName : String) : Stops s (s.recycle name instanceName) :=
  ⟨rfl, fun _ => rfl, fun _ => id, fun _ _ => Entries.lookup_of_erase⟩

theorem stops_shutdownProxy (s : State) (i : Nat) (stopping : Stopping) :
    Stops s (s.shutdownProxy i stopping).1 := by
  simp only [shutdownProxy]
  split
  · exact Stops.refl s
  · cases stopping with
    | unregisterThrows | consumerShutdownThrows => exact stops_setProxy_stopped rfl rfl
    | completes =>
      apply Stops.trans (t := s.setProxy i { s.proxies i with running := false, subscribed := false })
      · exact stops_setProxy_stopped rfl rfl
      · exact stops_recycle _ _

theorem stops_shutdownEntries (s : State) (entries : List (Nat × Stopping)) :
    Stops s (s.shutdownEntries entries).1 := by
  induction entries generalizing s with
  | nil => exact Stops.refl s
  | cons entry rest ih =>
    simp only [State.shutdownEntries]
    split
    · exact (stops_shutdownProxy s _ _).trans (ih _)
    · exact stops_shutdownProxy s _ _

theorem stops_shutdown (s : State) (entries : List (Nat × Stopping)) : Stops s (s.shutdown entries) := by
  simp only [State.shutdown]
  split
  · refine (stops_shutdownEntries s entries).trans ⟨rfl, fun _ => rfl, fun _ => id, fun key j found => ?_⟩
    cases found
  · exact stops_shutdownEntries s entries

theorem stops_shutdownGroup (s : State) (consumerGroup : String) (stopping : Stopping) :
    Stops s (s.shutdownGroup consumerGroup stopping) := by
  simp only [State.shutdownGroup]
  split
  · exact Stops.refl s
  · exact stops_shutdownProxy s _ _

theorem Owned.keepsOthers (owned : s.Owned) (i : Nat) (stopping : Stopping) :
    s.KeepsOthers (s.shutdownProxy i stopping).1 i := by
  intro key j found other
  obtain ⟨-, same⟩ | ⟨running, proxy, -, -, ⟨-, thrown⟩ | ⟨-, t, recycled, -, erased⟩⟩ :=
    shutdownProxy_cases s i stopping
  · rwa [same]
  · rwa [thrown]
  · rw [recycled, erased, AList.lookup_erase_ne]
    · exact found
    · rintro rfl
      exact other (owned.own i running j found)

@[simp] theorem proxyNames_start (proxy : ZmsConsumerProxy) (starting : Starting) :
    proxyNames (proxy.start starting) = proxyNames proxy := by
  simp only [ZmsConsumerProxy.start]
  split <;> rfl

theorem consumers_restart (s : State) (i : Nat) (stopping : Stopping) (starting : Starting) :
    (s.restart i stopping starting).consumers = (s.shutdownProxy i stopping).1.consumers := by
  simp only [State.restart]
  split <;> rfl

/-- The metadata read is of the same group, so that the proxy keeps its names. -/
theorem stops_adopt {node : Option ConsumerGroupMetadata} {newMetadata : ConsumerGroupMetadata}
    (read : readConsumerGroupMetadata (s.proxies i).metadata.name node = some newMetadata) :
    Stops s (s.setProxy i { s.proxies i with metadata := newMetadata }) := by
  apply stops_setProxy
  · exact congrArg (·, (s.proxies i).instanceName) (name_of_read read)
  · exact id

theorem Owned.keepsOthers_handleDataChange (owned : s.Owned) (i : Nat) (node : Option ConsumerGroupMetadata)
    (stopping : Stopping) (starting : Starting) :
    s.KeepsOthers (s.handleDataChange host i node stopping starting) i := by
  simp only [State.handleDataChange]
  obtain ignored | ⟨taken, read, ⟨-, restarted⟩ | ⟨-, taking⟩⟩ :=
    (proxyClass host (s.proxies i).metadata).reaction_cases (s.proxies i).metadata
      (readConsumerGroupMetadata (s.proxies i).metadata.name node)
  · simp only [reaction, ignored]
    exact fun _ _ found _ => found
  · have kept := (owned.stops (stops_adopt read)).keepsOthers i stopping
    simp only [reaction, restarted]
    intro key j found other
    rw [consumers_restart]
    exact kept key j found other
  · simp only [reaction, taking]
    exact fun _ _ found _ => found

theorem Owned.spares (owned : s.Owned) (c : Call) : s.Spares host c := by
  cases c with
  | proxyShutdown i stopping => exact owned.keepsOthers i stopping
  | factory a =>
    cases a with
    | getConsumer | pollThreadEnds => trivial
    | shutdown entries =>
      intro visited i stopping _ _
      exact (owned.stops (stops_shutdownEntries s visited)).keepsOthers i stopping
    | shutdownGroup consumerGroup stopping =>
      intro found held
      simp only [shutdownGroup, Option.mem_def.mp held]
      exact owned.keepsOthers found stopping
    | dataChange i node stopping starting => exact owned.keepsOthers_handleDataChange i node stopping starting

theorem sparesOthers_iff (born : s.Born) : s.SparesOthers host ↔ s.Owned := by
  constructor
  · intro spares
    refine ⟨born, fun i running j found => ?_⟩
    by_contra other
    -- shutting `i` down takes the entry of `j`
    have kept := spares (.proxyShutdown i .completes) (born i running) _ j found other
    obtain ⟨idle, -⟩ | ⟨-, proxy, -, -, ⟨throws, -⟩ | ⟨-, t, recycled, -, erased⟩⟩ :=
      shutdownProxy_cases s i .completes
    · rw [Running, idle] at running
      cases running
    · exact throws rfl
    · rw [recycled, erased, AList.lookup_erase] at kept
      cases kept
  · intro owned c _
    exact owned.spares c

theorem Born.update {proxy : ZmsConsumerProxy} (born : s.Born)
    (updated : t.proxies = Function.update s.proxies i proxy) (grows : s.created ≤ t.created)
    (own : i < t.created) : t.Born := by
  intro j running
  by_cases same : j = i
  · rwa [same]
  · rw [Running, updated, Function.update_of_ne same] at running
    exact Nat.lt_of_lt_of_le (born j running) grows

theorem Owned.update_iff {proxy : ZmsConsumerProxy} (owned : s.Owned)
    (updated : t.proxies = Function.update s.proxies i proxy) (grows : s.created ≤ t.created)
    (born : i < t.created) :
    t.Owned ↔ (proxy.running = true → ∀ j ∈ t.consumers.lookup (proxyKey proxy), j = i) ∧
      ∀ j, j ≠ i → s.Running j → ∀ k ∈ t.consumers.lookup (s.key j), k = j := by
  have self : t.proxies i = proxy := by rw [updated, Function.update_self]
  have unchanged {j : Nat} (other : j ≠ i) : t.proxies j = s.proxies j := by
    rw [updated, Function.update_of_ne other]
  constructor
  · intro kept
    constructor
    · intro running
      have own := kept.own i (by rwa [Running, self])
      rwa [key, self] at own
    · intro j other running
      have own := kept.own j (by rwa [Running, unchanged other])
      rwa [key, unchanged other] at own
  · rintro ⟨own, others⟩
    constructor
    · exact owned.born.update updated grows born
    · intro j running
      by_cases same : j = i
      · subst j
        rw [Running, self] at running
        rw [key, self]
        exact own running
      · rw [Running, unchanged same] at running
        rw [key, unchanged same]
        exact others j same running

theorem returns_iff (consumerGroup name : String) (node : Option ConsumerGroupMetadata) (starting : Starting) :
    s.Returns (.factory (.getConsumer consumerGroup name node starting)) ↔
      ∀ i ∈ s.consumers.lookup (cacheName consumerGroup name), s.names i = (consumerGroup, name) := by
  simp only [Returns, doGetConsumer]
  cases s.consumers.lookup (cacheName consumerGroup name) with
  | some found => rfl
  | none =>
    cases read : readConsumerGroupMetadata consumerGroup node with
    | none => simp
    | some metadata =>
      have named : proxyNames ((ZmsConsumerProxy.mk metadata name false false).start starting) =
          (consumerGroup, name) := by
        rw [proxyNames_start, proxyNames, name_of_read read]
      by_cases completes : starting = .completes
      · have self : (s.setProxy s.created
            ((ZmsConsumerProxy.mk metadata name false false).start starting)).names s.created =
              (consumerGroup, name) := by
          rw [names, proxies_setProxy_self, named]
        simpa [completes] using completes ▸ self
      · simp [completes]

theorem Owned.getConsumer_iff (owned : s.Owned) (consumerGroup name : String)
    (node : Option ConsumerGroupMetadata) (starting : Starting) :
    (s.doGetConsumer consumerGroup name node starting).1.Owned ↔
      (s.consumers.lookup (cacheName consumerGroup name) = none →
        (readConsumerGroupMetadata consumerGroup node).isSome = true → starting = .completes →
          ∀ i < s.created, (s.proxies i).running = true → s.key i ≠ cacheName consumerGroup name) := by
  simp only [doGetConsumer]
  cases found : s.consumers.lookup (cacheName consumerGroup name) with
  | some _ => simpa using owned
  | none =>
    cases read : readConsumerGroupMetadata consumerGroup node with
    | none => simpa using owned
    | some metadata =>
      have key : proxyKey ((ZmsConsumerProxy.mk metadata name false false).start starting) =
          cacheName consumerGroup name := by
        rw [proxyKey_start, proxyKey, name_of_read read]
      simp only [Option.isSome_some, forall_const]
      split
      · next completes =>
        have put : (s.consumers.putIfAbsent (cacheName consumerGroup name) s.created).lookup
            (cacheName consumerGroup name) = some s.created := Entries.lookup_putIfAbsent_of_none found
        rw [owned.update_iff (i := s.created) rfl (Nat.le_succ _) (Nat.lt_succ_self _), key]
        constructor
        · rintro ⟨-, others⟩ - i born running same
          have own := others i (Nat.ne_of_lt born) running s.created (by rw [same, Option.mem_def, put])
          exact Nat.ne_of_lt born own.symm
        · intro free
          refine ⟨fun _ j member => ?_, fun j _ running k member => ?_⟩
          · rw [Option.mem_def, put] at member
            exact (Option.some.inj member).symm
          · rcases Entries.lookup_of_putIfAbsent member with before | ⟨same, -⟩
            · exact owned.own j running k before
            · exact absurd same (free completes j (owned.born j running) running)
      · next throws =>
        rw [owned.update_iff (i := s.created) rfl (Nat.le_succ _) (Nat.lt_succ_self _), key]
        refine iff_of_true ⟨fun _ j member => ?_, fun j _ running => owned.own j running⟩
          fun completes => absurd completes throws
        rw [Option.mem_def] at member
        cases found.symm.trans member

theorem Owned.setProxy_iff (owned : s.Owned) (born : i < s.created) (proxy : ZmsConsumerProxy) :
    (s.setProxy i proxy).Owned ↔
      (proxy.running = true → ∀ j ∈ s.consumers.lookup (proxyKey proxy), j = i) :=
  (owned.update_iff (t := s.setProxy i proxy) rfl (Nat.le_refl s.created) born).trans
    (and_iff_left fun j _ running => owned.own j running)

theorem Owned.restart_iff (owned : s.Owned) (born : i < s.created) (stopping : Stopping) (starting : Starting) :
    (s.restart i stopping starting).Owned ↔
      (starting.runs = true → (s.proxies i).running = false → ∀ j ∈ s.consumers.lookup (s.key i), j = i) := by
  have stops := stops_shutdownProxy s i stopping
  have stopped := owned.stops stops
  simp only [State.restart]
  obtain ⟨idle, same⟩ | ⟨running, proxy, idle, key, ⟨-, thrown⟩ | ⟨-, t, recycled, updated, erased⟩⟩ :=
    shutdownProxy_cases s i stopping
  · rw [same, if_pos rfl, owned.setProxy_iff born, proxyKey_start, running_start idle, idle]
    simp only [forall_const]
    rfl
  · rw [thrown] at stopped ⊢
    simp only [running, Bool.true_eq_false, false_implies, implies_true, iff_true]
    exact stopped
  -- recycled: the key of the proxy that starts again is free
  · rw [recycled] at stops stopped ⊢
    have self : t.proxies i = proxy := by rw [updated, Function.update_self]
    rw [if_pos rfl, stopped.setProxy_iff (stops.created ▸ born), proxyKey_start, self, key, erased,
      AList.lookup_erase, running]
    simp

theorem Owned.handleDataChange_iff (owned : s.Owned) (born : i < s.created)
    (node : Option ConsumerGroupMetadata) (stopping : Stopping) (starting : Starting) :
    (s.handleDataChange host i node stopping starting).Owned ↔
      s.Apart host (.factory (.dataChange i node stopping starting)) := by
  simp only [State.handleDataChange, Apart, restarts]
  obtain ignored | ⟨taken, read, ⟨-, restarted⟩ | ⟨-, taking⟩⟩ :=
    (proxyClass host (s.proxies i).metadata).reaction_cases (s.proxies i).metadata
      (readConsumerGroupMetadata (s.proxies i).metadata.name node)
  · simpa [reaction, ignored] using owned
  · have stops := stops_adopt (s := s) (i := i) read
    have kept := (owned.stops stops).restart_iff (stops.created.symm ▸ born) stopping starting
    rw [key_of_names (stops.names i), proxies_setProxy_self] at kept
    simp only [reaction, restarted, forall_const]
    exact kept
  · simpa [reaction, taking] using owned.stops (stops_adopt read)

theorem Born.doGetConsumer (born : s.Born) (consumerGroup name : String)
    (node : Option ConsumerGroupMetadata) (starting : Starting) :
    (s.doGetConsumer consumerGroup name node starting).1.Born := by
  simp only [State.doGetConsumer]
  split
  · exact born
  · split
    · exact born
    · split <;> exact born.update (i := s.created) rfl (Nat.le_succ s.created) (Nat.lt_succ_self s.created)

theorem Born.handleDataChange (born : s.Born) (own : i < s.created) (node : Option ConsumerGroupMetadata)
    (stopping : Stopping) (starting : Starting) :
    (s.handleDataChange host i node stopping starting).Born := by
  simp only [State.handleDataChange]
  split
  · exact born
  · exact born.update rfl (Nat.le_refl s.created) own
  · next newMetadata _ =>
    have adopted : (s.setProxy i { s.proxies i with metadata := newMetadata }).Born :=
      born.update rfl (Nat.le_refl s.created) own
    have stops := stops_shutdownProxy (s.setProxy i { s.proxies i with metadata := newMetadata }) i stopping
    simp only [State.restart]
    split
    · exact (adopted.stops stops).update rfl (Nat.le_refl _) (stops.created.symm ▸ own)
    · exact adopted.stops stops

theorem Born.callEffect (born : s.Born) {c : Call} (enabled : CallEnabled s c) :
    (callEffect host s c).Born := by
  cases c with
  | proxyShutdown i stopping => exact born.stops (stops_shutdownProxy s i stopping)
  | factory a =>
    cases a with
    | getConsumer consumerGroup name node starting => exact born.doGetConsumer consumerGroup name node starting
    | shutdown entries => exact born.stops (stops_shutdown s entries)
    | shutdownGroup consumerGroup stopping => exact born.stops (stops_shutdownGroup s consumerGroup stopping)
    | dataChange i node stopping starting => exact born.handleDataChange enabled.1 node stopping starting
    | pollThreadEnds i => exact born.stops (stops_setProxy_stopped rfl rfl)

theorem Owned.effect_iff (owned : s.Owned) {c : Call} (enabled : CallEnabled s c) :
    s.Returns c ∧ (callEffect host s c).Owned ↔ s.Apart host c := by
  cases c with
  | proxyShutdown i stopping =>
    exact iff_of_true ⟨trivial, owned.stops (stops_shutdownProxy s i stopping)⟩ trivial
  | factory a =>
    cases a with
    | getConsumer consumerGroup name node starting =>
      exact and_congr (returns_iff consumerGroup name node starting)
        (owned.getConsumer_iff consumerGroup name node starting)
    | shutdown entries => exact iff_of_true ⟨trivial, owned.stops (stops_shutdown s entries)⟩ trivial
    | shutdownGroup consumerGroup stopping =>
      exact iff_of_true ⟨trivial, owned.stops (stops_shutdownGroup s consumerGroup stopping)⟩ trivial
    | dataChange i node stopping starting =>
      exact (and_iff_right trivial).trans (owned.handleDataChange_iff enabled.1 node stopping starting)
    | pollThreadEnds i => exact iff_of_true ⟨trivial, owned.stops (stops_setProxy_stopped rfl rfl)⟩ trivial

end State

open State

theorem owned_of_apart (host : String) {s : State}
    (reached : ((callMachine host).restrict (Apart host)).Reachable s) : s.Owned := by
  apply reached.invariant Owned
  · rintro _ ⟨unused, rfl⟩
    constructor <;> intro i running <;> cases running
  · rintro s c owned ⟨enabled, apart⟩
    exact ((owned.effect_iff enabled).mpr apart).2

/-- As long as every call keeps apart what shares a key, a lookup returns the
consumer asked for and a shutdown removes no other's entry; the first call that
does not returns another consumer, or leaves two where one removes the other's. -/
theorem returns_and_spares_of_apart (host : String) {s : State}
    (reached : ((callMachine host).restrict (Apart host)).Reachable s) :
    s.SparesOthers host ∧ ∀ c, (callMachine host).guard s c →
      (s.Returns c ∧ ((callMachine host).effect s c).SparesOthers host ↔ s.Apart host c) := by
  have owned := owned_of_apart host reached
  refine ⟨(sparesOthers_iff owned.born).mpr owned, fun c enabled => ?_⟩
  rw [← owned.effect_iff enabled]
  apply and_congr_right
  intro _
  exact sparesOthers_iff (owned.born.callEffect enabled)

namespace Run

/-- Two pairs of names whose keys are the same text. -/
def subscribeLong : Call := .factory (.getConsumer "orders_eu" "main" (some (group "orders")) .completes)

def subscribeShort : Call := .factory (.getConsumer "orders" "eu_main" (some (group "orders")) .completes)

def rebindLong : Call := .factory (.dataChange 0 (some (group "refunds")) .completes .completes)

end Run

open Run in
/-- The first consumer is shut down before the second is asked for. -/
theorem returns_and_spares_of_apart_in_turn : ∃ s : State, s.names 0 = ("orders_eu", "main") ∧
    s.names 1 = ("orders", "eu_main") ∧ s.SparesOthers host ∧ s.Returns subscribeShort := by
  have run : ∃ s, ((callMachine host).restrict (Apart host)).Reachable s ∧
      s.names 0 = ("orders_eu", "main") ∧ s.names 1 = ("orders", "eu_main") ∧ s.Apart host subscribeShort :=
    Guarded.exists_reachable [subscribeLong, .proxyShutdown 0 .completes, subscribeShort]
      ⟨group "orders", rfl⟩ (by decide)
  obtain ⟨s, reached, first, second, apart⟩ := run
  obtain ⟨spares, next⟩ := returns_and_spares_of_apart host reached
  exact ⟨s, first, second, spares, ((next subscribeShort trivial).mpr apart).1⟩

open Run in
/-- The second pair is given the first one's consumer; a consumer that was
restarted removes the entry of the one that took its key. -/
theorem not_returns_nor_spares :
    (¬ ∀ (host : String) (s : State), (callMachine host).Reachable s → ∀ c, (callMachine host).guard s c →
      s.Returns c) ∧
    ¬ ∀ (host : String) (s : State), (callMachine host).Reachable s → ∀ c, (callMachine host).guard s c →
      s.Spares host c := by
  constructor
  · intro always
    have run : ∃ s, (callMachine host).Reachable s ∧
        (s.doGetConsumer "orders" "eu_main" (some (group "orders")) .completes).2 = some 0 ∧
        (s.doGetConsumer "orders" "eu_main" (some (group "orders")) .completes).1.names 0 ≠
          ("orders", "eu_main") :=
      Guarded.exists_reachable [subscribeLong] ⟨group "orders", rfl⟩ (by decide)
    obtain ⟨s, reached, returned, other⟩ := run
    exact other (always host s reached subscribeShort trivial 0 returned)
  · intro always
    have run : ∃ s, (callMachine host).Reachable s ∧ 0 < s.created ∧
        s.consumers.lookup "orders_eu_main" = some 1 ∧
        (s.shutdownProxy 0 .completes).1.consumers.lookup "orders_eu_main" = none :=
      Guarded.exists_reachable [subscribeLong, rebindLong, subscribeShort] ⟨group "orders", rfl⟩ (by decide)
    obtain ⟨s, reached, constructed, second, gone⟩ := run
    have kept := always host s reached (.proxyShutdown 0 .completes) constructed "orders_eu_main" 1 second
      Nat.one_ne_zero
    rw [gone] at kept
    cases kept

end Zms.Client.ConsumerFactory
