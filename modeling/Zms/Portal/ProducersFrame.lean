import Zms.Portal.Producers

/-! What a notification and a shutdown change of the portal's producers. -/

set_option autoImplicit false

namespace Zms.Portal.Producers

open Zms.Client Zms.Registry Zms.Transition

def isRestart {M : Type} : Reaction M → Bool
  | .restarts _ => true
  | _ => false

/-- Proxies may stop, take over metadata of their topic and lose their watchers
once stopped; everything else stays. -/
structure Follows (s s' : State) : Prop where
  nodes : s'.nodes = s.nodes
  context : s'.context = s.context
  topicProducers : s'.topicProducers = s.topicProducers
  created : s'.created = s.created
  environment : ∀ i, (s'.proxies i).environment = (s.proxies i).environment
  name : ∀ i, s'.name i = s.name i
  startedWith : ∀ i, (s'.proxies i).startedWith = (s.proxies i).startedWith
  running : ∀ i, (s'.proxies i).running = true → (s.proxies i).running = true
  subscriptions : s'.subscriptions.Sublist s.subscriptions
  subscribed : ∀ i e, (s'.proxies i).running = true → (e, i) ∈ s.subscriptions → (e, i) ∈ s'.subscriptions

namespace Follows

variable {s s' s'' : State} {i j : Nat} {env : EnvId}

theorem refl (s : State) : Follows s s where
  nodes := rfl
  context := rfl
  topicProducers := rfl
  created := rfl
  environment _ := rfl
  name _ := rfl
  startedWith _ := rfl
  running _ := id
  subscriptions := .refl _
  subscribed _ _ _ := id

theorem trans (first : Follows s s') (second : Follows s' s'') : Follows s s'' where
  nodes := second.nodes.trans first.nodes
  context := second.context.trans first.context
  topicProducers := second.topicProducers.trans first.topicProducers
  created := second.created.trans first.created
  environment i := (second.environment i).trans (first.environment i)
  name i := (second.name i).trans (first.name i)
  startedWith i := (second.startedWith i).trans (first.startedWith i)
  running i runs := first.running i (second.running i runs)
  subscriptions := second.subscriptions.trans first.subscriptions
  subscribed i e runs member := second.subscribed i e runs (first.subscribed i e (second.running i runs) member)

theorem send (s : State) (i : Nat) (operation : Operation) (target : Option EnvId) :
    Follows s (s.send i operation target) := { refl s with }

theorem recycle (s : State) (i : Nat) : Follows s (recycle s i) := { refl s with }

theorem setProxy (proxy : ProducerProxy) (environment : proxy.environment = (s.proxies i).environment)
    (name : proxy.metadata.name = s.name i) (startedWith : proxy.startedWith = (s.proxies i).startedWith)
    (running : proxy.running = true → (s.proxies i).running = true) : Follows s (s.setProxy i proxy) := by
  have same (j : Nat) : j = i ∧ (s.setProxy i proxy).proxies j = proxy ∨
      (s.setProxy i proxy).proxies j = s.proxies j := by
    by_cases equal : j = i
    · subst equal
      exact .inl ⟨rfl, Function.update_self _ _ _⟩
    · exact .inr (Function.update_of_ne equal _ _)
  refine { refl s with environment := ?_, name := ?_, startedWith := ?_, running := ?_, subscribed := fun _ _ _ => id } <;> intro j <;>
    obtain ⟨rfl, now⟩ | now := same j
  · rw [now, environment]
  · rw [now]
  · rw [State.name, now, name]
  · rw [State.name, State.name, now]
  · rw [now, startedWith]
  · rw [now]
  · rw [now]
    exact running
  · rw [now]
    exact id

theorem unregister (isStatistic : String → Bool) (s : State) (i : Nat) (env : EnvId) (stopping : Stopping)
    (stopped : (s.proxies i).running = false) : Follows s (unregister isStatistic s i env stopping) := by
  have deleted : Follows s (if isStatistic (s.name i) then s else s.send i .deleteName (some env)) := by
    split
    · exact refl s
    · exact send s i .deleteName _
  simp only [Producers.unregister]
  split
  · exact deleted
  · split
    · exact deleted.trans (send _ i .unsubscribe _)
    · have sent := (deleted.trans (send _ i .unsubscribe (some env))).trans (send _ i .unsubscribe (some env))
      refine { sent with subscriptions := List.filter_sublist, subscribed := ?_ }
      intro j e runs member
      apply List.mem_filter.mpr
      refine ⟨member, decide_eq_true ?_⟩
      intro same
      obtain ⟨-, rfl⟩ := Prod.mk.inj same
      rw [sent.running j runs] at stopped
      cases stopped

end Follows

section Notification
variable {host : String} {isStatistic : String → Bool} {configured : EnvId → Bool}
variable {s s' : State} {t i j : Nat} {env : EnvId} {topic : String}

def stop (s : State) (i : Nat) : State := s.setProxy i { s.proxies i with running := false }

theorem follows_stop (s : State) (i : Nat) : Follows s (stop s i) :=
  Follows.setProxy _ rfl rfl rfl fun runs => absurd runs Bool.false_ne_true

theorem stop_stops (s : State) (i : Nat) : ((stop s i).proxies i).running = false := by
  simp only [stop, State.setProxy, Function.update_self]

theorem follows_stopped (runs : (s.proxies i).running = true) (t : Nat) (stopping : Stopping) :
    Follows (stop s i) (shutdown isStatistic configured s t i stopping) := by
  simp only [shutdown, if_pos runs]
  split
  · exact Follows.send _ i _ none
  · next env _ =>
    have unregistered := Follows.unregister isStatistic (stop s i) i env stopping (stop_stops s i)
    split
    · exact unregistered.trans (Follows.recycle _ i)
    · exact unregistered

theorem follows_shutdown (s : State) (t i : Nat) (stopping : Stopping) :
    Follows s (shutdown isStatistic configured s t i stopping) := by
  cases runs : (s.proxies i).running with
  | true => exact (follows_stop s i).trans (follows_stopped runs t stopping)
  | false =>
    simp only [shutdown, runs]
    exact Follows.refl s

/-- Nothing runs after its shutdown, whatever throws. -/
theorem shutdown_stops (s : State) (t i : Nat) (stopping : Stopping) :
    ((shutdown isStatistic configured s t i stopping).proxies i).running = false := by
  cases runs : (s.proxies i).running with
  | true =>
    apply Bool.eq_false_iff.mpr
    intro still
    have kept := (follows_stopped runs t stopping).running i still
    rw [stop_stops] at kept
    cases kept
  | false =>
    simp only [shutdown, runs]
    exact runs

theorem name_of_read {metadata : TopicMetadata} (read : s.readTopicMetadata env topic = some metadata) :
    metadata.name = topic := by
  obtain ⟨node, _, rfl⟩ := Option.map_eq_some_iff.mp read
  rfl

theorem name_of_reaction {newMetadata : TopicMetadata}
    (taken : reaction host s i env = .adopts newMetadata ∨ reaction host s i env = .restarts newMetadata) :
    newMetadata.name = s.name i := by
  exact name_of_read (ProxyClass.taken_of_reaction _ taken)

theorem follows_adopt {newMetadata : TopicMetadata} (name : newMetadata.name = s.name i) :
    Follows s (s.setProxy i { s.proxies i with metadata := newMetadata }) :=
  Follows.setProxy _ rfl name rfl id

theorem follows_handleDataChange (s : State) (t i : Nat) (stopping : Stopping) :
    Follows s (handleDataChange host isStatistic configured s t i stopping) := by
  simp only [handleDataChange]
  split
  · exact Follows.send s i .readMetadata _
  · next env _ =>
    have read := Follows.send s i .readMetadata (getZkInstance configured s t)
    split
    · exact read
    · next newMetadata adopts => exact read.trans (follows_adopt (name_of_reaction (.inl adopts)))
    · next newMetadata restarts =>
      exact (read.trans (follows_adopt (name_of_reaction (.inr restarts)))).trans (follows_shutdown _ t i stopping)

theorem follows_deliver (t : Nat) (stopping : Nat → Stopping) (subscribers : List Nat) (s : State) :
    Follows s (deliver host isStatistic configured s t stopping subscribers) := by
  induction subscribers generalizing s with
  | nil => exact Follows.refl s
  | cons i rest ih => exact (follows_handleDataChange s t i (stopping i)).trans (ih _)

theorem proxies_unregister (s : State) (i : Nat) (env : EnvId) (stopping : Stopping) :
    (unregister isStatistic s i env stopping).proxies = s.proxies := by
  simp only [unregister]
  split
  · split <;> rfl
  · split <;> split <;> rfl

theorem proxies_shutdown_of_ne (other : j ≠ i) (s : State) (t : Nat) (stopping : Stopping) :
    (shutdown isStatistic configured s t i stopping).proxies j = s.proxies j := by
  have stopped : (stop s i).proxies j = s.proxies j := Function.update_of_ne other _ _
  simp only [shutdown]
  split
  · split
    · exact stopped
    · next env _ =>
      have unregistered : (unregister isStatistic (stop s i) i env stopping).proxies j = s.proxies j := by
        rw [proxies_unregister, stopped]
      split <;> exact unregistered
  · rfl

theorem proxies_handleDataChange_of_ne (other : j ≠ i) (s : State) (t : Nat) (stopping : Stopping) :
    (handleDataChange host isStatistic configured s t i stopping).proxies j = s.proxies j := by
  simp only [handleDataChange]
  split
  · rfl
  · split
    · rfl
    · exact Function.update_of_ne other _ _
    · rw [proxies_shutdown_of_ne other]
      exact Function.update_of_ne other _ _

theorem running_handleDataChange (s : State) (t i : Nat) (stopping : Stopping) :
    ((handleDataChange host isStatistic configured s t i stopping).proxies i).running = true ↔
      (s.proxies i).running = true ∧
        ∀ env ∈ getZkInstance configured s t, isRestart (reaction host s i env) = false := by
  simp only [handleDataChange]
  split
  · next lost =>
    rw [lost]
    exact ⟨fun runs => ⟨runs, fun env found => absurd found (by simp)⟩, And.left⟩
  · next env found =>
    simp only [found, Option.mem_def, Option.some.injEq, forall_eq']
    split
    · next ignores => simp only [ignores, isRestart, and_true, State.send]
    · next newMetadata adopts =>
      simp only [adopts, isRestart, and_true, State.setProxy, Function.update_self]
    · next newMetadata restarts =>
      simp only [restarts, isRestart, shutdown_stops, Bool.true_eq_false, Bool.false_eq_true, and_false]

theorem proxies_deliver_of_notMem (t : Nat) (stopping : Nat → Stopping) {subscribers : List Nat}
    (away : j ∉ subscribers) (s : State) :
    (deliver host isStatistic configured s t stopping subscribers).proxies j = s.proxies j := by
  induction subscribers generalizing s with
  | nil => rfl
  | cons i rest ih =>
    simp only [List.mem_cons, not_or] at away
    simp only [deliver]
    rw [ih away.2, proxies_handleDataChange_of_ne away.1]

end Notification

/-- What the constructor makes: a proxy that runs if it returns, and perhaps its watcher. -/
structure Constructs (host : String) (s : State) (env : EnvId) (metadata : TopicMetadata)
    (constructed : State × Bool) : Prop where
  nodes : constructed.1.nodes = s.nodes
  context : constructed.1.context = s.context
  topicProducers : constructed.1.topicProducers = s.topicProducers
  created : constructed.1.created = s.created + 1
  others : ∀ j, j ≠ s.created → constructed.1.proxies j = s.proxies j
  environment : (constructed.1.proxies s.created).environment = env
  name : (constructed.1.proxies s.created).metadata.name = metadata.name
  running : (constructed.1.proxies s.created).running = constructed.2
  startedWith : constructed.2 = true →
    (constructed.1.proxies s.created).startedWith = metadata.effectiveCluster host
  subscriptions : constructed.2 = false ∧ constructed.1.subscriptions = s.subscriptions ∨
    constructed.1.subscriptions = (env, s.created) :: s.subscriptions

section Calls
variable {host : String} {isStatistic : String → Bool} {configured : EnvId → Bool}

theorem constructs (host : String) (isStatistic : String → Bool) (s : State) (env : EnvId) (metadata : TopicMetadata)
    (starting : Starting) :
    Constructs host s env metadata (construct host isStatistic s env metadata starting) := by
  simp only [construct]
  split
  · constructor <;> simp +contextual [State.setProxy]
  · split
    · constructor <;> simp +contextual [State.setProxy, State.send]
    · split
      · constructor <;> split <;> simp +contextual [State.setProxy, State.send]
      · constructor <;> split <;> simp +contextual [State.setProxy, State.send]

variable {s s' : State}

theorem eq_of_getZkInstance {t : Nat} {env env' : EnvId}
    (found : getZkInstance configured (s.setEnv t (some env)) t = some env') : env' = env := by
  simp only [getZkInstance, State.setEnv, Function.update_self, currentZkClient] at found
  exact (Option.some.inj (Option.filter_eq_some_iff.mp found).1).symm

theorem getCurrentProducer_cases (host : String) (isStatistic : String → Bool) (configured : EnvId → Bool)
    (s : State) (t : Nat) (envId : EnvId) (topic : String) (starting : Starting) :
    let call := getCurrentProducer host isStatistic configured s t envId topic starting
    let entered := s.setEnv t (some envId)
    (∃ i, s.topicProducers.lookup (cacheName envId topic) = some i ∧ call = (entered, some i)) ∨
      call = (entered, none) ∨
      ∃ metadata, s.topicProducers.lookup (cacheName envId topic) = none ∧
        getZkInstance configured entered t = some envId ∧ s.readTopicMetadata envId topic = some metadata ∧
        ((construct host isStatistic entered envId metadata starting).2 = false ∧
            call = ((construct host isStatistic entered envId metadata starting).1, none) ∨
          (construct host isStatistic entered envId metadata starting).2 = true ∧
            call = ({ (construct host isStatistic entered envId metadata starting).1 with
              topicProducers := s.topicProducers.putIfAbsent (cacheName envId topic) s.created },
              some s.created)) := by
  intro call entered
  cases present : s.topicProducers.lookup (cacheName envId topic) with
  | some i =>
    apply Or.inl
    refine ⟨i, rfl, ?_⟩
    simp only [call, getCurrentProducer, State.setEnv, present, entered]
  | none =>
    apply Or.inr
    have same : entered.topicProducers.lookup (cacheName envId topic) = none := present
    simp only [call, getCurrentProducer]
    rw [show (s.setEnv t (some envId)).topicProducers.lookup (cacheName envId topic) = none from present]
    cases read : (getZkInstance configured entered t).bind fun env => entered.readTopicMetadata env topic with
    | none => exact .inl rfl
    | some metadata =>
      obtain ⟨env, found, node⟩ := Option.bind_eq_some_iff.mp read
      obtain rfl := eq_of_getZkInstance found
      dsimp only
      split
      · exact .inl rfl
      · apply Or.inr
        refine ⟨metadata, trivial, found, node, ?_⟩
        split
        · next completes => exact .inr ⟨completes, rfl⟩
        · next throws => exact .inl ⟨Bool.eq_false_iff.mpr throws, rfl⟩

end Calls

/-- What the map, the watchers and the proxies have to do with one another. -/
structure Tidy (s : State) : Prop where
  entry : ∀ {k i}, s.topicProducers.lookup k = some i →
    i < s.created ∧ k = cacheName (s.proxies i).environment (s.name i)
  subscribed : ∀ {e i}, (e, i) ∈ s.subscriptions → i < s.created ∧ (s.proxies i).environment = e
  running : ∀ {i}, (s.proxies i).running = true → ((s.proxies i).environment, i) ∈ s.subscriptions
  once : (s.subscriptions.map Prod.snd).Nodup

section Invariant
variable {host : String} {isStatistic : String → Bool} {configured : EnvId → Bool}
variable {s s' : State}

theorem Tidy.follows (tidy : Tidy s) (follows : Follows s s') : Tidy s' where
  entry := by
    intro k i found
    rw [follows.topicProducers] at found
    rw [follows.created, follows.environment, follows.name]
    exact tidy.entry found
  subscribed := by
    intro e i member
    rw [follows.created, follows.environment]
    exact tidy.subscribed (follows.subscriptions.subset member)
  running := by
    intro i runs
    apply follows.subscribed i _ runs
    rw [follows.environment]
    exact tidy.running (follows.running i runs)
  once := tidy.once.sublist (follows.subscriptions.map Prod.snd)

theorem Tidy.construct {env : EnvId} {metadata : TopicMetadata} {constructed : State × Bool} (tidy : Tidy s)
    (made : Constructs host s env metadata constructed) : Tidy constructed.1 := by
  have fresh : s.created ∉ s.subscriptions.map Prod.snd := by
    intro member
    obtain ⟨⟨e, i⟩, entry, rfl⟩ := List.mem_map.mp member
    exact absurd (tidy.subscribed entry).1 (Nat.lt_irrefl _)
  constructor
  case entry =>
    intro k i found
    rw [made.topicProducers] at found
    obtain ⟨born, same⟩ := tidy.entry found
    rw [made.created, State.name, made.others i (Nat.ne_of_lt born)]
    exact ⟨Nat.lt_succ_of_lt born, same⟩
  case subscribed =>
    have old {e : EnvId} {i : Nat} (member : (e, i) ∈ s.subscriptions) :
        i < constructed.1.created ∧ (constructed.1.proxies i).environment = e := by
      obtain ⟨born, same⟩ := tidy.subscribed member
      rw [made.created, made.others i (Nat.ne_of_lt born)]
      exact ⟨Nat.lt_succ_of_lt born, same⟩
    intro e i member
    obtain ⟨-, same⟩ | same := made.subscriptions
    · rw [same] at member
      exact old member
    · rw [same] at member
      obtain new | member := List.mem_cons.mp member
      · obtain ⟨rfl, rfl⟩ := Prod.mk.inj new
        rw [made.created]
        exact ⟨Nat.lt_succ_self _, made.environment⟩
      · exact old member
  case running =>
    intro i runs
    by_cases new : i = s.created
    · subst new
      rw [made.running] at runs
      obtain ⟨failed, -⟩ | same := made.subscriptions
      · rw [failed] at runs
        cases runs
      · rw [same, made.environment]
        exact List.mem_cons_self
    · rw [made.others i new] at runs ⊢
      have member := tidy.running runs
      obtain ⟨-, same⟩ | same := made.subscriptions
      · rw [same]
        exact member
      · rw [same]
        exact List.mem_cons_of_mem _ member
  case once =>
    obtain ⟨-, same⟩ | same := made.subscriptions
    · rw [same]
      exact tidy.once
    · rw [same, List.map_cons]
      exact List.nodup_cons.mpr ⟨fresh, tidy.once⟩

theorem Tidy.putIfAbsent (tidy : Tidy s) {k : String} {i : Nat} (born : i < s.created)
    (own : k = cacheName (s.proxies i).environment (s.name i)) :
    Tidy { s with topicProducers := s.topicProducers.putIfAbsent k i } where
  entry := by
    intro l j found
    obtain before | ⟨rfl, rfl⟩ := Entries.lookup_of_putIfAbsent found
    · exact tidy.entry before
    · exact ⟨born, own⟩
  subscribed := tidy.subscribed
  running := tidy.running
  once := tidy.once

theorem Tidy.getCurrentProducer (tidy : Tidy s) (t : Nat) (envId : EnvId) (topic : String)
    (starting : Starting) : Tidy (getCurrentProducer host isStatistic configured s t envId topic starting).1 := by
  have entered : Tidy (s.setEnv t (some envId)) := ⟨tidy.entry, tidy.subscribed, tidy.running, tidy.once⟩
  obtain ⟨i, -, same⟩ | same | ⟨metadata, -, -, read, ⟨-, same⟩ | ⟨-, same⟩⟩ :=
    getCurrentProducer_cases host isStatistic configured s t envId topic starting
  · rw [same]
    exact entered
  · rw [same]
    exact entered
  · rw [same]
    exact entered.construct (constructs _ _ _ envId metadata starting)
  · rw [same]
    have made := constructs host isStatistic (s.setEnv t (some envId)) envId metadata
      starting
    have constructed := entered.construct made
    generalize Producers.construct host isStatistic (s.setEnv t (some envId)) envId metadata starting = c at made constructed ⊢
    have topicProducers : c.1.topicProducers = s.topicProducers := made.topicProducers
    have environment : (c.1.proxies s.created).environment = envId := made.environment
    have name : c.1.name s.created = metadata.name := made.name
    rw [← topicProducers]
    apply constructed.putIfAbsent
    · rw [made.created]
      exact Nat.lt_succ_self _
    · rw [environment, name, name_of_read read]

theorem tidy_effect (tidy : Tidy s) (a : Action) : Tidy (effect host isStatistic configured s a) := by
  cases a with
  | setEnv => exact ⟨tidy.entry, tidy.subscribed, tidy.running, tidy.once⟩
  | getCurrentProducer t envId topic starting => exact tidy.getCurrentProducer t envId topic starting
  | change t env topic metadata stopping =>
    have written : Tidy (s.write env topic metadata) := ⟨tidy.entry, tidy.subscribed, tidy.running, tidy.once⟩
    exact written.follows (follows_deliver t stopping _ _)
  | shutdown t i stopping => exact tidy.follows (follows_shutdown s t i stopping)

theorem tidy_of_reachable (reached : (machine host isStatistic configured).Reachable s) : Tidy s := by
  apply reached.invariant Tidy
  · intro s start
    obtain ⟨empty, idle, none, -⟩ := start
    constructor
    case entry =>
      intro k i found
      rw [empty, AList.lookup_empty] at found
      cases found
    case subscribed =>
      intro e i member
      rw [none] at member
      cases member
    case running =>
      intro i runs
      rw [idle i] at runs
      cases runs
    case once =>
      rw [none]
      exact List.nodup_nil
  · intro s a tidy _
    exact tidy_effect tidy a

end Invariant

end Zms.Portal.Producers
