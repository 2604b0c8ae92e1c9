import Zms.Portal.ProducersFrame
import Zms.Text.Separated

/-! Whether the portal's cache returns live producers.

A restart of a producer relies on the map of `ProducerFactory` being emptied;
the portal's own map keeps the stopped proxy.
-/

set_option autoImplicit false

namespace Zms.Portal.Producers

open Zms.Client Zms.Registry Zms.Transition

section Keys

theorem cacheName_inj {e f : EnvId} {topic other : String} (same : cacheName e topic = cacheName f other) :
    e = f ∧ topic = other := by
  have chars := congrArg String.toList same
  simp only [cacheName, String.toList_append, List.append_assoc] at chars
  have shape : (toString e).toList ++ '_' :: (topic.toList ++ ("_".toList ++ "DEFAULT_PRODUCER".toList)) =
      (toString f).toList ++ '_' :: (other.toList ++ ("_".toList ++ "DEFAULT_PRODUCER".toList)) := chars
  obtain ⟨envs, rest⟩ :=
    Text.append_separator_inj (Text.notMem_toString (by decide) (by decide) e)
      (Text.notMem_toString (by decide) (by decide) f) shape
  constructor
  · exact Int.repr_injective (String.toList_injective envs)
  · exact String.toList_injective (List.append_cancel_right rest)

end Keys

/-- The proxy runs on the effective cluster that its environment has for the topic. -/
def Live (host : String) (s : State) (envId : EnvId) (topic : String) (i : Nat) : Prop :=
  (s.proxies i).running = true ∧
    ∃ node, s.nodes envId topic = some node ∧ (s.proxies i).startedWith = node.effectiveCluster host

/-- Whatever call comes next, it returns a live proxy if it returns. -/
def AlwaysLive (host : String) (isStatistic : String → Bool) (configured : EnvId → Bool) (s : State) : Prop :=
  ∀ t envId topic starting i,
    (getCurrentProducer host isStatistic configured s t envId topic starting).2 = some i →
      Live host (getCurrentProducer host isStatistic configured s t envId topic starting).1 envId topic i

def Cached (host : String) (s : State) : Prop :=
  ∀ envId topic i, s.topicProducers.lookup (cacheName envId topic) = some i → Live host s envId topic i

/-- The step neither stops a cached proxy nor changes the effective cluster of its topic. -/
def Spares (host : String) (configured : EnvId → Bool) (s : State) : Action → Prop
  | .change t env topic metadata _ => ∀ i ∈ s.topicProducers.lookup (cacheName env topic),
      (∀ node ∈ s.nodes env topic, metadata.effectiveCluster host = node.effectiveCluster host) ∧
        ∀ context ∈ getZkInstance configured s t,
          isRestart (reaction host (s.write env topic metadata) i context) = false
  | .shutdown _ i _ => i ∉ s.topicProducers.values
  | _ => True

instance (host : String) (configured : EnvId → Bool) (s : State) (a : Action) :
    Decidable (Spares host configured s a) := by
  apply Action.casesOn (motive := fun a => Decidable (Spares host configured s a)) a <;> intros <;>
    dsimp only [Spares] <;> infer_instance

section Live
variable {host : String} {isStatistic : String → Bool} {configured : EnvId → Bool}
variable {s s' : State} {t i : Nat} {envId : EnvId} {topic : String}

theorem Live.of_eq (live : Live host s envId topic i) (proxy : s'.proxies i = s.proxies i)
    (nodes : s'.nodes envId topic = s.nodes envId topic) : Live host s' envId topic i := by
  unfold Live
  rw [proxy, nodes]
  exact live

theorem alwaysLive_iff : AlwaysLive host isStatistic configured s ↔ Cached host s := by
  constructor
  · intro always envId topic i found
    have hit : getCurrentProducer host isStatistic configured s 0 envId topic .completes =
        (s.setEnv 0 (some envId), some i) := by
      simp only [getCurrentProducer, State.setEnv, found]
    have live := always 0 envId topic .completes i
    rw [hit] at live
    exact live rfl
  · intro cached t envId topic starting i returns
    obtain ⟨j, found, same⟩ | same | ⟨metadata, -, -, read, ⟨-, same⟩ | ⟨runs, same⟩⟩ :=
      getCurrentProducer_cases host isStatistic configured s t envId topic starting
    · rw [same] at returns ⊢
      obtain rfl := Option.some.inj returns
      exact cached envId topic j found
    · rw [same] at returns
      cases returns
    · rw [same] at returns
      cases returns
    · rw [same] at returns ⊢
      obtain rfl := Option.some.inj returns
      have made := constructs host isStatistic (s.setEnv t (some envId)) envId metadata starting
      obtain ⟨node, found, rfl⟩ := Option.map_eq_some_iff.mp read
      refine ⟨made.running.trans runs, node, ?_, made.startedWith runs⟩
      rw [made.nodes]
      exact found

theorem reaction_congr (proxy : s'.proxies i = s.proxies i) (nodes : s'.nodes = s.nodes) (env : EnvId) :
    reaction host s' i env = reaction host s i env := by
  simp only [reaction, State.readTopicMetadata, proxy, nodes]

theorem running_deliver (host : String) (isStatistic : String → Bool) (configured : EnvId → Bool) (t : Nat)
    (stopping : Nat → Stopping) {subscribers : List Nat} (once : subscribers.Nodup)
    (member : i ∈ subscribers) (s : State) :
    ((deliver host isStatistic configured s t stopping subscribers).proxies i).running = true ↔
      (s.proxies i).running = true ∧
        ∀ env ∈ getZkInstance configured s t, isRestart (reaction host s i env) = false := by
  induction subscribers generalizing s with
  | nil => cases member
  | cons j rest ih =>
    obtain ⟨away, once⟩ := List.nodup_cons.mp once
    simp only [deliver]
    obtain rfl | later := List.mem_cons.mp member
    · rw [proxies_deliver_of_notMem t stopping away]
      exact running_handleDataChange s t i (stopping i)
    · have other : i ≠ j := by
        intro same
        subst same
        exact away later
      have follows : Follows s (handleDataChange host isStatistic configured s t j (stopping j)) :=
        follows_handleDataChange s t j (stopping j)
      have proxy : (handleDataChange host isStatistic configured s t j (stopping j)).proxies i = s.proxies i :=
        proxies_handleDataChange_of_ne other s t (stopping j)
      rw [ih once later, proxy, getZkInstance, follows.context]
      simp only [reaction_congr proxy follows.nodes]
      rfl

/-- A running proxy is notified of the changes of its topic in its environment. -/
theorem Tidy.mem_subscribers (tidy : Tidy s) (runs : (s.proxies i).running = true) :
    i ∈ s.subscribers (s.proxies i).environment (s.name i) := by
  apply List.mem_map.mpr
  refine ⟨_, List.mem_filter.mpr ⟨tidy.running runs, ?_⟩, rfl⟩
  simp only [decide_true, Bool.and_self]

theorem Tidy.of_mem_subscribers (tidy : Tidy s) (member : i ∈ s.subscribers envId topic) :
    envId = (s.proxies i).environment ∧ topic = s.name i := by
  obtain ⟨⟨env, j⟩, listed, rfl⟩ := List.mem_map.mp member
  obtain ⟨subscribed, own⟩ := List.mem_filter.mp listed
  simp only [Bool.and_eq_true, decide_eq_true_eq] at own
  obtain ⟨rfl, rfl⟩ := own
  exact ⟨(tidy.subscribed subscribed).2.symm, rfl⟩

theorem Tidy.nodup_subscribers (tidy : Tidy s) : (s.subscribers envId topic).Nodup :=
  tidy.once.sublist (List.filter_sublist.map Prod.snd)

theorem nodes_write_of_ne {env : EnvId} {other : String} (away : ¬ (envId = env ∧ topic = other))
    (metadata : TopicMetadata) : (s.write env other metadata).nodes envId topic = s.nodes envId topic := by
  by_cases same : envId = env
  · subst same
    have differs : topic ≠ other := fun equal => away ⟨rfl, equal⟩
    simp only [State.write, Function.update_self, Function.update_of_ne differs]
  · simp only [State.write, Function.update_of_ne same]

theorem cached_change_iff (tidy : Tidy s) (cached : Cached host s) (t : Nat) (env : EnvId) (topic : String)
    (metadata : TopicMetadata) (stopping : Nat → Stopping) :
    Cached host (change host isStatistic configured s t env topic metadata stopping) ↔
      Spares host configured s (.change t env topic metadata stopping) := by
  have follows : Follows (s.write env topic metadata)
      (change host isStatistic configured s t env topic metadata stopping) := follows_deliver t stopping _ _
  have written : (s.write env topic metadata).nodes env topic = some metadata := by
    simp only [State.write, Function.update_self]
  -- the cached proxy of the topic is among the subscribers, and it is the only cached one there
  have runs {i : Nat} (found : s.topicProducers.lookup (cacheName env topic) = some i) :
      ((change host isStatistic configured s t env topic metadata stopping).proxies i).running = true ↔
        ∀ context ∈ getZkInstance configured s t,
          isRestart (reaction host (s.write env topic metadata) i context) = false := by
    have running : (s.proxies i).running = true := (cached env topic i found).1
    obtain ⟨sameEnv, sameTopic⟩ := cacheName_inj (tidy.entry found).2
    have member : i ∈ s.subscribers env topic := by
      rw [sameEnv, sameTopic]
      exact tidy.mem_subscribers running
    have delivered := running_deliver host isStatistic configured t stopping tidy.nodup_subscribers member
      (s.write env topic metadata)
    exact delivered.trans (and_iff_right running)
  constructor
  · intro kept i found
    have same : (change host isStatistic configured s t env topic metadata stopping).topicProducers.lookup
        (cacheName env topic) = some i := by
      rw [follows.topicProducers]
      exact found
    obtain ⟨running, node, now, started⟩ := kept env topic i same
    rw [follows.nodes, written] at now
    obtain rfl := Option.some.inj now
    refine ⟨?_, (runs found).mp running⟩
    intro old before
    obtain ⟨-, node, same, started'⟩ := cached env topic i found
    rw [(before : s.nodes env topic = some old)] at same
    obtain rfl := Option.some.inj same
    rw [← started, follows.startedWith]
    exact started'
  · intro spares envId topic' i found
    rw [follows.topicProducers] at found
    have live := cached envId topic' i found
    by_cases same : envId = env ∧ topic' = topic
    · obtain ⟨rfl, rfl⟩ := same
      obtain ⟨effective, stays⟩ := spares i found
      obtain ⟨-, node, before, started⟩ := live
      refine ⟨(runs found).mpr stays, metadata, ?_, ?_⟩
      · rw [follows.nodes, written]
      · rw [follows.startedWith, effective node before]
        exact started
    · have away : i ∉ s.subscribers env topic := by
        intro member
        obtain ⟨sameEnv, sameTopic⟩ := tidy.of_mem_subscribers member
        obtain ⟨ownEnv, ownTopic⟩ := cacheName_inj (tidy.entry found).2
        exact same ⟨ownEnv.trans sameEnv.symm, ownTopic.trans sameTopic.symm⟩
      apply live.of_eq
      · exact proxies_deliver_of_notMem t stopping away _
      · rw [follows.nodes]
        exact nodes_write_of_ne same metadata

theorem cached_shutdown_iff (tidy : Tidy s) (cached : Cached host s) (t i : Nat) (stopping : Stopping) :
    Cached host (shutdown isStatistic configured s t i stopping) ↔ i ∉ s.topicProducers.values := by
  have follows : Follows s (shutdown isStatistic configured s t i stopping) := follows_shutdown s t i stopping
  constructor
  · intro kept member
    obtain ⟨k, found⟩ := Entries.exists_lookup_of_mem_values member
    obtain ⟨-, rfl⟩ := tidy.entry found
    rw [← follows.topicProducers] at found
    have runs := (kept _ _ i found).1
    rw [shutdown_stops] at runs
    cases runs
  · intro spared envId topic j found
    rw [follows.topicProducers] at found
    have other : j ≠ i := by
      intro same
      subst same
      exact spared (Entries.mem_values_of_lookup found)
    apply (cached envId topic j found).of_eq
    · exact proxies_shutdown_of_ne other s t stopping
    · rw [follows.nodes]

theorem Cached.getCurrentProducer (tidy : Tidy s) (cached : Cached host s) (t : Nat) (envId : EnvId)
    (topic : String) (starting : Starting) :
    Cached host (getCurrentProducer host isStatistic configured s t envId topic starting).1 := by
  obtain ⟨j, -, same⟩ | same | ⟨metadata, -, -, read, ended⟩ :=
    getCurrentProducer_cases host isStatistic configured s t envId topic starting
  · rw [same]
    exact cached
  · rw [same]
    exact cached
  · have made := constructs host isStatistic (s.setEnv t (some envId)) envId metadata starting
    have kept {e : EnvId} {other : String} {i : Nat}
        (found : s.topicProducers.lookup (cacheName e other) = some i) :
        Live host (construct host isStatistic (s.setEnv t (some envId)) envId metadata starting).1 e other i := by
      apply (cached e other i found).of_eq
      · exact made.others i (Nat.ne_of_lt (tidy.entry found).1)
      · rw [made.nodes]
        rfl
    obtain ⟨-, same⟩ | ⟨runs, same⟩ := ended
    · rw [same]
      intro e other i found
      rw [made.topicProducers] at found
      exact kept found
    · rw [same]
      intro e other i found
      obtain before | ⟨own, rfl⟩ := Entries.lookup_of_putIfAbsent found
      · exact kept before
      · obtain ⟨rfl, rfl⟩ := cacheName_inj own
        obtain ⟨node, before, rfl⟩ := Option.map_eq_some_iff.mp read
        refine ⟨made.running.trans runs, node, ?_, made.startedWith runs⟩
        exact (congrFun (congrFun made.nodes e) other).trans before

theorem cached_effect_iff (tidy : Tidy s) (cached : Cached host s) (a : Action) :
    Cached host (effect host isStatistic configured s a) ↔ Spares host configured s a := by
  cases a with
  | setEnv => exact iff_of_true cached trivial
  | getCurrentProducer t envId topic starting =>
    exact iff_of_true (cached.getCurrentProducer tidy t envId topic starting) trivial
  | change t env topic metadata stopping => exact cached_change_iff tidy cached t env topic metadata stopping
  | shutdown t i stopping => exact cached_shutdown_iff tidy cached t i stopping

end Live

/-- In every run that spares the cached proxies every call returns a live one;
the first step that does not leads to a call that returns another. -/
theorem alwaysLive_of_spares {host : String} {isStatistic : String → Bool} {configured : EnvId → Bool} {s : State}
    (reached : ((machine host isStatistic configured).restrict (Spares host configured)).Reachable s) :
    AlwaysLive host isStatistic configured s ∧
      ∀ a, AlwaysLive host isStatistic configured (effect host isStatistic configured s a) ↔
        Spares host configured s a := by
  have both : Tidy s ∧ Cached host s := by
    apply reached.invariant fun s => Tidy s ∧ Cached host s
    · intro s start
      have initial : (machine host isStatistic configured).Reachable s := .start start
      refine ⟨tidy_of_reachable initial, fun envId topic i found => ?_⟩
      rw [start.1, AList.lookup_empty] at found
      cases found
    · intro s a holds enabled
      exact ⟨tidy_effect holds.1 a, (cached_effect_iff holds.1 holds.2 a).mpr enabled.2⟩
  obtain ⟨tidy, cached⟩ := both
  constructor
  · exact alwaysLive_iff.mpr cached
  · intro a
    exact alwaysLive_iff.trans (cached_effect_iff tidy cached a)

namespace Run

def cluster (name bootAddr : String) : ClusterMetadata := ⟨name, some bootAddr, some .KAFKA, none⟩

def alerts (cluster : ClusterMetadata) (gatedIps : Option String) : TopicMetadata :=
  ⟨"topic", "alerts", some cluster, none, gatedIps, none, none⟩

def main : ClusterMetadata := cluster "main" "10.1.0.1:9092"

/-- Environments 1 and 2 have the topic "alerts" on their own clusters. -/
def start : State where
  nodes env topic :=
    if topic = "alerts" then
      if env = 1 then some (alerts main none)
      else if env = 2 then some (alerts (cluster "test" "10.2.0.1:9092") none) else none
    else none
  context _ := none
  topicProducers := ∅
  factoryProducers := ∅
  proxies _ := ⟨0, alerts main none, false, none⟩
  created := 0
  subscriptions := []
  sent := []

/-- Thread 0 asks for both producers; thread 5 has got the context of environment 1. -/
def create : List Action :=
  [.getCurrentProducer 0 1 "alerts" .completes, .getCurrentProducer 0 2 "alerts" .completes, .setEnv 5 (some 1)]

end Run

open Run in
set_option maxRecDepth 4000 in
/-- Another host is gated, which no producer minds. -/
theorem alwaysLive_of_spares_gate :
    ∃ s, s.topicProducers.lookup (cacheName 1 "alerts") = some 0 ∧
      (s.proxies 0).metadata.gatedIps = some "10.0.0.9" ∧
      AlwaysLive "10.0.0.1" (fun _ => false) (fun _ => true) s := by
  have run : ∃ s, ((machine "10.0.0.1" (fun _ => false) (fun _ => true)).restrict
      (Spares "10.0.0.1" (fun _ => true))).Reachable s ∧
      s.topicProducers.lookup (cacheName 1 "alerts") = some 0 ∧
      (s.proxies 0).metadata.gatedIps = some "10.0.0.9" :=
    Guarded.exists_reachable (create ++ [.change 5 1 "alerts" (alerts main (some "10.0.0.9")) fun _ => .completes])
      (s := start) ⟨rfl, fun _ => rfl, rfl, rfl⟩ (by decide)
  obtain ⟨s, reached, found, gated⟩ := run
  exact ⟨s, found, gated, (alwaysLive_of_spares reached).1⟩

open Run in
set_option maxRecDepth 4000 in
/-- The topic moves to another cluster: the restart stops proxy 0, which stays in the map. -/
theorem not_alwaysLive :
    ¬ ∀ s, (machine "10.0.0.1" (fun _ => false) (fun _ => true)).Reachable s →
      AlwaysLive "10.0.0.1" (fun _ => false) (fun _ => true) s := by
  intro always
  have run : ∃ s, (machine "10.0.0.1" (fun _ => false) (fun _ => true)).Reachable s ∧
      s.topicProducers.lookup (cacheName 1 "alerts") = some 0 ∧ (s.proxies 0).running = false :=
    Guarded.exists_reachable
      (create ++ [.change 5 1 "alerts" (alerts (cluster "blue" "10.1.0.2:9092") none) fun _ => .completes])
      (s := start) ⟨rfl, fun _ => rfl, rfl, rfl⟩ (by decide)
  obtain ⟨s, reached, found, stopped⟩ := run
  have live := (alwaysLive_iff.mp (always s reached) 1 "alerts" 0 found).1
  rw [stopped] at live
  cases live

end Zms.Portal.Producers
