import Zms.Portal.ProducersLive

/-! Which environment's client gets a portal producer's requests: that of the
thread which runs the producer at the time.
-/

set_option autoImplicit false

namespace Zms.Portal.Producers

open Zms.Client Zms.Registry Zms.Transition

/-- Every request of a proxy went to the client of the environment it was created in. -/
def Bound (s : State) : Prop := ∀ request ∈ s.sent, request.target = some (s.proxies request.proxy).environment

/-- A thread that runs a proxy has the context of the proxy's environment. -/
def InContext (s : State) : Action → Prop
  | .change t env topic _ _ => s.subscribers env topic ≠ [] → s.context t = some env
  | .shutdown t i _ => (s.proxies i).running = true → s.context t = some (s.proxies i).environment
  | _ => True

instance (s : State) (a : Action) : Decidable (InContext s a) := by
  apply Action.casesOn (motive := fun a => Decidable (InContext s a)) a <;> intros <;>
    dsimp only [InContext] <;> infer_instance

/-- The requests added are of the proxy `i`, to the client of `target`. -/
structure Sends (target : Option EnvId) (i : Nat) (s s' : State) : Prop where
  added : ∀ request ∈ s'.sent, request ∈ s.sent ∨ request.proxy = i ∧ request.target = target
  kept : ∀ request ∈ s.sent, request ∈ s'.sent

namespace Sends

variable {target : Option EnvId} {i : Nat} {s s' s'' : State}

theorem of_eq (same : s'.sent = s.sent) : Sends target i s s' where
  added request member := by
    rw [same] at member
    exact .inl member
  kept request member := by
    rw [same]
    exact member

theorem send (s : State) (operation : Operation) : Sends target i s (s.send i operation target) where
  added request member := by
    obtain rfl | before := List.mem_cons.mp member
    · exact .inr ⟨rfl, rfl⟩
    · exact .inl before
  kept _ member := List.mem_cons_of_mem _ member

theorem trans (first : Sends target i s s') (second : Sends target i s' s'') : Sends target i s s'' where
  added request member := by
    obtain middle | own := second.added request member
    · exact first.added request middle
    · exact .inr own
  kept request member := second.kept request (first.kept request member)

theorem of_same (sends : Sends target i s s') (same : s''.sent = s'.sent) : Sends target i s s'' :=
  sends.trans (of_eq same)

end Sends

section Requests
variable {host : String} {isStatistic : String → Bool} {configured : EnvId → Bool}
variable {s : State} {t i : Nat} {env : EnvId} {topic : String}

theorem sends_unregister (s : State) (i : Nat) (env : EnvId) (stopping : Stopping) :
    Sends (some env) i s (unregister isStatistic s i env stopping) := by
  have deleted : Sends (some env) i s
      (if isStatistic (s.name i) then s else s.send i .deleteName (some env)) := by
    split
    · exact Sends.of_eq rfl
    · exact Sends.send s .deleteName
  simp only [unregister]
  split
  · exact deleted
  · split
    · exact deleted.trans (Sends.send _ .unsubscribe)
    · have sent := (deleted.trans (Sends.send _ .unsubscribe)).trans (Sends.send _ .unsubscribe)
      exact ⟨sent.added, sent.kept⟩

theorem asks_unregister (s : State) (i : Nat) (env : EnvId) (stopping : Stopping) :
    ∃ request ∈ (unregister isStatistic s i env stopping).sent, request.proxy = i ∧ request.target = some env := by
  simp only [unregister]
  split
  · next throws =>
    rw [throws.2]
    exact ⟨_, List.mem_cons_self, rfl, rfl⟩
  · split <;> exact ⟨_, List.mem_cons_self, rfl, rfl⟩

theorem sends_shutdown {target : Option EnvId} (found : getZkInstance configured s t = target)
    (stopping : Stopping) : Sends target i s (shutdown isStatistic configured s t i stopping) := by
  have stopped : Sends target i s (stop s i) := Sends.of_eq rfl
  simp only [shutdown, found]
  split
  · cases target with
    | none => exact stopped.trans (Sends.send _ _)
    | some env =>
      have unregistered : Sends (some env) i s (unregister isStatistic (stop s i) i env stopping) :=
        stopped.trans (sends_unregister (stop s i) i env stopping)
      dsimp only
      split
      · exact unregistered.trans (Sends.of_eq rfl)
      · exact unregistered
  · exact Sends.of_eq rfl

theorem asks_shutdown (isStatistic : String → Bool) (configured : EnvId → Bool) (t : Nat)
    (runs : (s.proxies i).running = true) (stopping : Stopping) :
    ∃ request ∈ (shutdown isStatistic configured s t i stopping).sent,
      request.proxy = i ∧ request.target = getZkInstance configured s t := by
  simp only [shutdown, if_pos runs]
  split
  · next lost =>
    rw [lost]
    exact ⟨_, List.mem_cons_self, rfl, rfl⟩
  · next env found =>
    rw [found]
    split
    · exact asks_unregister (stop s i) i env stopping
    · exact asks_unregister (stop s i) i env stopping

theorem sends_handleDataChange (s : State) (t i : Nat) (stopping : Stopping) :
    Sends (getZkInstance configured s t) i s (handleDataChange host isStatistic configured s t i stopping) := by
  have read : Sends (getZkInstance configured s t) i s
      (s.send i .readMetadata (getZkInstance configured s t)) := Sends.send s .readMetadata
  simp only [handleDataChange]
  split
  · exact read
  · split
    · exact read
    · exact read.trans (Sends.of_eq rfl)
    · refine (read.trans ?_).trans (sends_shutdown (by rfl) stopping)
      exact Sends.of_eq rfl

theorem asks_handleDataChange (host : String) (isStatistic : String → Bool) (configured : EnvId → Bool)
    (s : State) (t i : Nat) (stopping : Stopping) :
    ∃ request ∈ (handleDataChange host isStatistic configured s t i stopping).sent,
      request.proxy = i ∧ request.target = getZkInstance configured s t := by
  have read : Sent.mk i .readMetadata (getZkInstance configured s t) ∈
      (s.send i .readMetadata (getZkInstance configured s t)).sent := List.mem_cons_self
  refine ⟨Sent.mk i .readMetadata (getZkInstance configured s t), ?_, rfl, rfl⟩
  simp only [handleDataChange]
  split
  · exact read
  · split
    · exact read
    · exact read
    · exact (sends_shutdown (by rfl) stopping).kept _ read

/-- All requests of a delivery go to one target, on behalf of the subscribers. -/
theorem added_deliver (t : Nat) (stopping : Nat → Stopping) (subscribers : List Nat) (s : State)
    {request : Sent}
    (member : request ∈ (deliver host isStatistic configured s t stopping subscribers).sent) :
    request ∈ s.sent ∨ request.proxy ∈ subscribers ∧ request.target = getZkInstance configured s t := by
  induction subscribers generalizing s with
  | nil => exact .inl member
  | cons j rest ih =>
    have follows : Follows s (handleDataChange host isStatistic configured s t j (stopping j)) :=
      follows_handleDataChange s t j (stopping j)
    have sends : Sends (getZkInstance configured s t) j s
        (handleDataChange host isStatistic configured s t j (stopping j)) := sends_handleDataChange s t j (stopping j)
    obtain before | ⟨later, target⟩ := ih _ member
    · obtain before | ⟨own, target⟩ := sends.added request before
      · exact .inl before
      · exact .inr ⟨own ▸ List.mem_cons_self, target⟩
    · rw [getZkInstance, follows.context] at target
      exact .inr ⟨List.mem_cons_of_mem _ later, target⟩

theorem kept_deliver (t : Nat) (stopping : Nat → Stopping) (subscribers : List Nat) (s : State)
    {request : Sent} (member : request ∈ s.sent) :
    request ∈ (deliver host isStatistic configured s t stopping subscribers).sent := by
  induction subscribers generalizing s with
  | nil => exact member
  | cons j rest ih => exact ih _ ((sends_handleDataChange s t j (stopping j)).kept request member)

theorem asks_deliver (host : String) (isStatistic : String → Bool) (configured : EnvId → Bool) (t : Nat)
    (stopping : Nat → Stopping) (first : Nat) (rest : List Nat) (s : State) :
    ∃ request ∈ (deliver host isStatistic configured s t stopping (first :: rest)).sent,
      request.proxy = first ∧ request.target = getZkInstance configured s t := by
  obtain ⟨request, member, own, target⟩ :=
    asks_handleDataChange host isStatistic configured s t first (stopping first)
  exact ⟨request, kept_deliver t stopping rest _ member, own, target⟩

theorem sends_construct (host : String) (isStatistic : String → Bool) (s : State) (env : EnvId)
    (metadata : TopicMetadata) (starting : Starting) :
    Sends (some env) s.created s (construct host isStatistic s env metadata starting).1 := by
  have watching : Sends (some env) s.created s (s.send s.created .subscribe (some env)) :=
    Sends.send s .subscribe
  have named := watching.trans (Sends.send _ .createName)
  simp only [construct]
  split
  · exact Sends.of_eq rfl
  · split
    · exact watching.of_same rfl
    · split
      · split
        · exact watching.of_same rfl
        · exact named.of_same rfl
      · split
        · exact watching.of_same rfl
        · exact named.of_same rfl

end Requests

/-- Requests name constructed proxies, and watchers are on clients that exist. -/
structure Accounted (configured : EnvId → Bool) (s : State) : Prop extends Tidy s where
  request : ∀ request ∈ s.sent, request.proxy < s.created
  client : ∀ {e i}, (e, i) ∈ s.subscriptions → currentZkClient configured (some e) = some e

section Invariant
variable {host : String} {isStatistic : String → Bool} {configured : EnvId → Bool}
variable {s s' : State} {t i : Nat}

theorem Accounted.follows (accounted : Accounted configured s) (follows : Follows s s')
    (requests : ∀ request ∈ s'.sent, request ∈ s.sent ∨ request.proxy < s.created) : Accounted configured s' where
  toTidy := accounted.toTidy.follows follows
  request := by
    intro request member
    rw [follows.created]
    obtain before | born := requests request member
    · exact accounted.request request before
    · exact born
  client member := accounted.client (follows.subscriptions.subset member)

theorem Accounted.subscriber_born (accounted : Accounted configured s) {env : EnvId} {topic : String}
    (member : i ∈ s.subscribers env topic) : i < s.created := by
  obtain ⟨⟨e, j⟩, listed, rfl⟩ := List.mem_map.mp member
  exact (accounted.subscribed (List.mem_filter.mp listed).1).1

theorem accounted_effect (accounted : Accounted configured s) (a : Action) :
    Accounted configured (effect host isStatistic configured s a) := by
  have entered (t : Nat) (env : Option EnvId) : Accounted configured (s.setEnv t env) :=
    ⟨⟨accounted.entry, accounted.subscribed, accounted.running, accounted.once⟩, accounted.request,
      accounted.client⟩
  cases a with
  | setEnv t env => exact entered t env
  | getCurrentProducer t envId topic starting =>
    obtain ⟨j, -, same⟩ | same | ⟨metadata, -, found, read, ended⟩ :=
      getCurrentProducer_cases host isStatistic configured s t envId topic starting
    · rw [effect, same]
      exact entered t (some envId)
    · rw [effect, same]
      exact entered t (some envId)
    · have made := constructs host isStatistic (s.setEnv t (some envId)) envId metadata starting
      have sends := sends_construct host isStatistic (s.setEnv t (some envId)) envId metadata starting
      have tidy : Tidy (effect host isStatistic configured s (.getCurrentProducer t envId topic starting)) :=
        tidy_effect accounted.toTidy _
      have request : ∀ request ∈ (construct host isStatistic (s.setEnv t (some envId)) envId metadata starting).1.sent,
          request.proxy < s.created + 1 := by
        intro request member
        obtain before | ⟨own, -⟩ := sends.added request member
        · exact Nat.lt_succ_of_lt (accounted.request request before)
        · rw [own]
          exact Nat.lt_succ_self _
      have client {e : EnvId} {i : Nat} (member : (e, i) ∈
          (construct host isStatistic (s.setEnv t (some envId)) envId metadata starting).1.subscriptions) :
          currentZkClient configured (some e) = some e := by
        obtain ⟨-, same⟩ | same := made.subscriptions
        · rw [same] at member
          exact accounted.client member
        · rw [same] at member
          obtain new | before := List.mem_cons.mp member
          · obtain ⟨rfl, -⟩ := Prod.mk.inj new
            simpa only [getZkInstance, State.setEnv, Function.update_self] using found
          · exact accounted.client before
      simp only [effect] at tidy ⊢
      obtain ⟨-, same⟩ | ⟨-, same⟩ := ended <;> rw [same] at tidy ⊢
      · refine ⟨tidy, ?_, client⟩
        rw [made.created]
        exact request
      · refine ⟨tidy, ?_, client⟩
        dsimp only
        rw [made.created]
        exact request
  | change t env topic metadata stopping =>
    have written : Accounted configured (s.write env topic metadata) :=
      ⟨⟨accounted.entry, accounted.subscribed, accounted.running, accounted.once⟩, accounted.request,
        accounted.client⟩
    apply written.follows (follows_deliver t stopping _ _)
    intro request member
    obtain before | ⟨own, -⟩ := added_deliver t stopping _ _ member
    · exact .inl before
    · exact .inr (accounted.subscriber_born own)
  | shutdown t i stopping =>
    apply accounted.follows (follows_shutdown s t i stopping)
    intro request member
    cases runs : (s.proxies i).running with
    | true =>
      obtain before | ⟨rfl, -⟩ := (sends_shutdown rfl stopping).added request member
      · exact .inl before
      · exact .inr (accounted.subscribed (accounted.running runs)).1
    | false =>
      simp only [shutdown, runs] at member
      exact .inl member

theorem accounted_of_reachable (reached : (machine host isStatistic configured).Reachable s) :
    Accounted configured s := by
  apply reached.invariant (Accounted configured)
  · intro s start
    have initial : (machine host isStatistic configured).Reachable s := .start start
    obtain ⟨-, -, none, unsent⟩ := start
    refine ⟨tidy_of_reachable initial, ?_, ?_⟩
    · intro request member
      rw [unsent] at member
      cases member
    · intro e i member
      rw [none] at member
      cases member
  · intro s a accounted _
    exact accounted_effect accounted a

theorem context_of_getZkInstance {env : EnvId} (found : getZkInstance configured s t = some env) :
    s.context t = some env := (Option.filter_eq_some_iff.mp found).1

theorem Bound.follows (bound : Bound s) (follows : Follows s s')
    (requests : ∀ request ∈ s'.sent, request ∈ s.sent ∨
      request.target = some (s.proxies request.proxy).environment) : Bound s' := by
  intro request member
  rw [follows.environment]
  obtain before | right := requests request member
  · exact bound request before
  · exact right

theorem bound_change_iff (accounted : Accounted configured s) (bound : Bound s) (t : Nat) (env : EnvId)
    (topic : String) (metadata : TopicMetadata) (stopping : Nat → Stopping) :
    Bound (change host isStatistic configured s t env topic metadata stopping) ↔
      InContext s (.change t env topic metadata stopping) := by
  have follows : Follows (s.write env topic metadata)
      (change host isStatistic configured s t env topic metadata stopping) := follows_deliver t stopping _ _
  have own {i : Nat} (member : i ∈ s.subscribers env topic) :
      (s.proxies i).environment = env ∧ currentZkClient configured (some env) = some env := by
    obtain ⟨⟨e, j⟩, listed, rfl⟩ := List.mem_map.mp member
    obtain ⟨subscribed, same⟩ := List.mem_filter.mp listed
    simp only [Bool.and_eq_true, decide_eq_true_eq] at same
    obtain ⟨rfl, -⟩ := same
    exact ⟨(accounted.subscribed subscribed).2, accounted.client subscribed⟩
  constructor
  · intro kept someone
    obtain ⟨first, rest, shape⟩ := List.exists_cons_of_ne_nil someone
    obtain ⟨request, member, proxy, target⟩ :=
      asks_deliver host isStatistic configured t stopping first rest (s.write env topic metadata)
    rw [← shape] at member
    have right := kept request member
    have subscriber : first ∈ s.subscribers env topic := by
      rw [shape]
      exact List.mem_cons_self
    rw [target, proxy, follows.environment] at right
    rw [show ((s.write env topic metadata).proxies first).environment = env from (own subscriber).1] at right
    exact context_of_getZkInstance right
  · intro inContext
    apply Bound.follows (s := s.write env topic metadata) bound follows
    intro request member
    obtain before | ⟨subscriber, target⟩ := added_deliver t stopping _ _ member
    · exact .inl before
    · apply Or.inr
      obtain ⟨environment, client⟩ := own subscriber
      have context := inContext (List.ne_nil_of_mem subscriber)
      rw [target, getZkInstance, show (s.write env topic metadata).context t = some env from context, client]
      exact congrArg some environment.symm

theorem bound_shutdown_iff (accounted : Accounted configured s) (bound : Bound s) (t i : Nat)
    (stopping : Stopping) :
    Bound (shutdown isStatistic configured s t i stopping) ↔ InContext s (.shutdown t i stopping) := by
  have follows : Follows s (shutdown isStatistic configured s t i stopping) := follows_shutdown s t i stopping
  constructor
  · intro kept runs
    obtain ⟨request, member, proxy, target⟩ :=
      asks_shutdown isStatistic configured t runs stopping
    have right := kept request member
    rw [target, proxy, follows.environment] at right
    exact context_of_getZkInstance right
  · intro inContext
    apply bound.follows follows
    intro request member
    cases runs : (s.proxies i).running with
    | true =>
      obtain before | ⟨rfl, target⟩ := (sends_shutdown rfl stopping).added request member
      · exact .inl before
      · apply Or.inr
        rw [target, getZkInstance, inContext runs, accounted.client (accounted.running runs)]
    | false =>
      simp only [shutdown, runs] at member
      exact .inl member

/-- A call sends its requests in the context it has just set. -/
theorem bound_getCurrentProducer (accounted : Accounted configured s) (bound : Bound s) (t : Nat) (envId : EnvId)
    (topic : String) (starting : Starting) :
    Bound (getCurrentProducer host isStatistic configured s t envId topic starting).1 := by
  obtain ⟨j, -, same⟩ | same | ⟨metadata, -, -, -, ended⟩ :=
    getCurrentProducer_cases host isStatistic configured s t envId topic starting
  · rw [same]
    exact bound
  · rw [same]
    exact bound
  · have made := constructs host isStatistic (s.setEnv t (some envId)) envId metadata starting
    have sends := sends_construct host isStatistic (s.setEnv t (some envId)) envId metadata starting
    have kept : Bound (construct host isStatistic (s.setEnv t (some envId)) envId metadata starting).1 := by
      intro request member
      obtain before | ⟨own, target⟩ := sends.added request member
      · have other := Nat.ne_of_lt (accounted.request request before)
        rw [made.others request.proxy other]
        exact bound request before
      · rw [own, target, made.environment]
    obtain ⟨-, same⟩ | ⟨-, same⟩ := ended <;> rw [same] <;> exact kept

end Invariant

/-- In every run whose threads have the context of the proxies they run, every
request goes to the proxy's environment; the first step without it sends one elsewhere. -/
theorem bound_of_inContext {host : String} {isStatistic : String → Bool} {configured : EnvId → Bool} {s : State}
    (reached : ((machine host isStatistic configured).restrict InContext).Reachable s) :
    Bound s ∧ ∀ a, Bound (effect host isStatistic configured s a) ↔ InContext s a := by
  have exact_step {s : State} (accounted : Accounted configured s) (bound : Bound s) (a : Action) :
      Bound (effect host isStatistic configured s a) ↔ InContext s a := by
    cases a with
    | setEnv => exact iff_of_true bound trivial
    | getCurrentProducer t envId topic starting =>
      exact iff_of_true (bound_getCurrentProducer accounted bound t envId topic starting) trivial
    | change t env topic metadata stopping => exact bound_change_iff accounted bound t env topic metadata stopping
    | shutdown t i stopping => exact bound_shutdown_iff accounted bound t i stopping
  have accounted := accounted_of_reachable reached.of_restrict
  have bound : Accounted configured s ∧ Bound s := by
    apply reached.invariant fun s => Accounted configured s ∧ Bound s
    · intro s start
      have initial : (machine host isStatistic configured).Reachable s := .start start
      refine ⟨accounted_of_reachable initial, fun request member => ?_⟩
      rw [start.2.2.2] at member
      cases member
    · intro s a holds enabled
      exact ⟨accounted_effect holds.1 a, (exact_step holds.1 holds.2 a).mpr enabled.2⟩
  exact ⟨bound.2, exact_step accounted bound.2⟩

open Run in
set_option maxRecDepth 4000 in
/-- Proxy 0 is restarted by a thread of its environment: its name and its watcher go. -/
theorem bound_of_inContext_restart :
    ∃ s, s.sent.length = 8 ∧ (1, 0) ∉ s.subscriptions ∧ Bound s := by
  have run : ∃ s, ((machine "10.0.0.1" (fun _ => false) (fun _ => true)).restrict InContext).Reachable s ∧
      s.sent.length = 8 ∧ (1, 0) ∉ s.subscriptions :=
    Guarded.exists_reachable
      (create ++ [.change 5 1 "alerts" (alerts (cluster "blue" "10.1.0.2:9092") none) fun _ => .completes])
      (s := start) ⟨rfl, fun _ => rfl, rfl, rfl⟩ (by decide)
  obtain ⟨s, reached, many, gone⟩ := run
  exact ⟨s, many, gone, (bound_of_inContext reached).1⟩

open Run in
set_option maxRecDepth 4000 in
/-- An event thread without a context is notified of the same change, and one with
the context of environment 2. -/
theorem not_bound :
    ¬ ∀ s, (machine "10.0.0.1" (fun _ => false) (fun _ => true)).Reachable s → Bound s := by
  intro always
  have run : ∃ s, (machine "10.0.0.1" (fun _ => false) (fun _ => true)).Reachable s ∧
      ⟨0, .readMetadata, none⟩ ∈ s.sent ∧ ⟨0, .deleteName, some 2⟩ ∈ s.sent ∧
      (s.proxies 0).environment = 1 :=
    Guarded.exists_reachable
      (create ++ [.change 7 1 "alerts" (alerts (cluster "blue" "10.1.0.2:9092") none) fun _ => .completes,
        .setEnv 6 (some 2),
        .change 6 1 "alerts" (alerts (cluster "blue" "10.1.0.2:9092") none) fun _ => .completes])
      (s := start) ⟨rfl, fun _ => rfl, rfl, rfl⟩ (by decide)
  obtain ⟨s, reached, lost, -, environment⟩ := run
  have right := always s reached _ lost
  cases right

end Zms.Portal.Producers
