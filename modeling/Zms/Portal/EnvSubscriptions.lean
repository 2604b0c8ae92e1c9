import Zms.Portal.Producers
import Zms.Transition.Guarded

/-! The ZooKeeper clients of the environments, and the cached objects of the portal that listen
to their nodes at them. The calls come one after another.
-/

set_option autoImplicit false

namespace Zms.Portal.EnvSubscriptions

open Transition
open Producers (Starting cacheName)

/-! ### The caches and the clients -/

/-- A producer proxy or a manager, with its environment and the node that it listens to. -/
structure Cached where
  env : EnvId
  path : String
  object : Nat

structure Subscription where
  client : Nat
  path : String
  object : Nat

structure State where
  /-- The clients are numbered as they are created. -/
  evnDataSourceMap : EnvId → Option Nat
  clients : Nat
  isClosed : Nat → Bool
  topicProducers : String → Option Cached
  middlewareManagerMap : String → Option Cached
  objects : Nat
  subscriptions : List Subscription

def start : State := ⟨fun _ => none, 0, fun _ => false, fun _ => none, fun _ => none, 0, []⟩

def topicPath (topic : String) : String := "/zms/topic/" ++ topic

def clusterPath (clusterName : String) : String := "/zms/cluster/" ++ clusterName

/-- `generateKey`, in the context of an environment or in none. -/
def generateKey (context : Option EnvId) (clusterName : String) : String :=
  match context with
  | none => "&" ++ clusterName
  | some env => toString env ++ "&" ++ clusterName

namespace State
variable (s : State)

def currentZkClient (context : Option EnvId) : Option Nat :=
  (Portal.currentZkClient (fun env => (s.evnDataSourceMap env).isSome) context).bind s.evnDataSourceMap

/-- `subscribeDataChanges` of a new object. -/
def subscribe (client : Nat) (path : String) : State where
  evnDataSourceMap := s.evnDataSourceMap
  clients := s.clients
  isClosed := s.isClosed
  topicProducers := s.topicProducers
  middlewareManagerMap := s.middlewareManagerMap
  objects := s.objects + 1
  subscriptions := s.subscriptions ++ [⟨client, path, s.objects⟩]

/-- Without `starting` the metadata cannot be read; what throws before it listens leaves nothing. -/
def getCurrentProducer (envId : EnvId) (topic : String) (starting : Option Starting) : State :=
  match s.topicProducers (cacheName envId topic) with
  | some _ => s
  | none =>
    match s.currentZkClient (some envId), starting with
    | some client, some .registerNameThrows => s.subscribe client (topicPath topic)
    | some client, some .completes =>
        { s.subscribe client (topicPath topic) with
          topicProducers := Function.update s.topicProducers (cacheName envId topic)
            (some ⟨envId, topicPath topic, s.objects⟩) }
    | _, _ => s

/-- `creates` tells whether the metadata can be read and the client of the cluster starts. -/
def getOrCreateAdmin (context : Option EnvId) (clusterName : String) (creates : Bool) : State :=
  match s.middlewareManagerMap (generateKey context clusterName) with
  | some _ => s
  | none =>
    match context, s.currentZkClient context, creates with
    | some env, some client, true =>
        { s.subscribe client (clusterPath clusterName) with
          middlewareManagerMap := Function.update s.middlewareManagerMap (generateKey context clusterName)
            (some ⟨env, clusterPath clusterName, s.objects⟩) }
    | _, _, _ => s

/-- `MessageAdminManagerAdapt.remove`; the manager goes on listening. -/
def remove (context : Option EnvId) (clusterName : String) : State :=
  { s with middlewareManagerMap := Function.update s.middlewareManagerMap (generateKey context clusterName) none }

/-- `MessageAdminManagerAdapt.reload`. -/
def reload (context : Option EnvId) (clusterName : String) (creates : Bool) : State :=
  (s.remove context clusterName).getOrCreateAdmin context clusterName creates

/-- `evnDataSourceMap.remove(env).destroy()`, if there is one; `destroys` tells whether it can be closed. -/
def removeEnvZkClient (env : EnvId) (destroys : Bool) : State :=
  match s.evnDataSourceMap env with
  | none => s
  | some client =>
      { s with
        evnDataSourceMap := Function.update s.evnDataSourceMap env none
        isClosed := Function.update s.isClosed client destroys }

/-- A client that is new, before `reload` has taken it. -/
def created : State := { s with clients := s.clients + 1 }

def put (env : EnvId) (client : Nat) : State :=
  { s with evnDataSourceMap := Function.update s.evnDataSourceMap env (some client) }

/-- `creates` tells whether the address can be read and the new client connects. -/
def reloadEnvZkClient (env : EnvId) (creates destroys : Bool) : State :=
  if creates then
    if (s.evnDataSourceMap env).isSome ∧ ¬destroys then s.created.removeEnvZkClient env destroys
    else (s.created.removeEnvZkClient env destroys).put env s.clients
  else s

def Holds (cached : Cached) : Prop :=
  (∃ key, s.topicProducers key = some cached) ∨ ∃ key, s.middlewareManagerMap key = some cached

end State

inductive Action where
  | getCurrentProducer (envId : EnvId) (topic : String) (starting : Option Starting)
  | getOrCreateAdmin (context : Option EnvId) (clusterName : String) (creates : Bool)
  | remove (context : Option EnvId) (clusterName : String)
  | reload (context : Option EnvId) (clusterName : String) (creates : Bool)
  | reloadEnvZkClient (env : EnvId) (creates destroys : Bool)
  | removeEnvZkClient (env : EnvId) (destroys : Bool)

def effect (s : State) : Action → State
  | .getCurrentProducer envId topic starting => s.getCurrentProducer envId topic starting
  | .getOrCreateAdmin context clusterName creates => s.getOrCreateAdmin context clusterName creates
  | .remove context clusterName => s.remove context clusterName
  | .reload context clusterName creates => s.reload context clusterName creates
  | .reloadEnvZkClient env creates destroys => s.reloadEnvZkClient env creates destroys
  | .removeEnvZkClient env destroys => s.removeEnvZkClient env destroys

def system : Guarded State Action where
  init s := s = start
  guard _ _ := True
  effect := effect

/-! ### Subscriptions that last -/

/-- Every cached object of an environment with a client listens to its node there. -/
def Sound (s : State) : Prop :=
  ∀ cached, s.Holds cached → ∀ client, s.evnDataSourceMap cached.env = some client →
    s.isClosed client = false ∧ ⟨client, cached.path, cached.object⟩ ∈ s.subscriptions

/-- The reload gets as far as the new client's place in the map. -/
def Replaces (s : State) (env : EnvId) (creates destroys : Bool) : Prop :=
  creates = true ∧ ((s.evnDataSourceMap env).isSome = true → destroys = true)

/-- A client is replaced only while nothing of its environment is cached. -/
def NothingCached (s : State) : Action → Prop
  | .reloadEnvZkClient env creates destroys =>
      Replaces s env creates destroys → ∀ cached, s.Holds cached → cached.env ≠ env
  | _ => True

/-! ### The steps -/

section Steps
variable {s t : State} {env : EnvId} {client : Nat}

/-- The clients in use are open and each is that of one environment. -/
structure Placed (s : State) : Prop where
  sound : Sound s
  inUse : ∀ env client, s.evnDataSourceMap env = some client → client < s.clients ∧ s.isClosed client = false
  distinct : ∀ env other client, s.evnDataSourceMap env = some client → s.evnDataSourceMap other = some client →
    env = other
  fresh : ∀ client, s.clients ≤ client → s.isClosed client = false
  known : ∀ subscription ∈ s.subscriptions, subscription.client < s.clients

theorem not_holds_start (cached : Cached) : ¬ start.Holds cached := by
  rintro (⟨key, impossible⟩ | ⟨key, impossible⟩) <;> cases impossible

theorem placed_start : Placed start where
  sound cached held := absurd held (not_holds_start cached)
  inUse _ _ impossible := by cases impossible
  distinct _ _ _ impossible := by cases impossible
  fresh _ _ := rfl
  known _ impossible := by cases impossible

theorem evnDataSourceMap_of_currentZkClient (current : s.currentZkClient (some env) = some client) :
    s.evnDataSourceMap env = some client := by
  obtain ⟨found, isFound, inMap⟩ := Option.bind_eq_some_iff.mp current
  obtain ⟨same, _⟩ := Option.filter_eq_some_iff.mp isFound
  rw [Option.some.inj same]
  exact inMap

/-- An object that listens at its environment's client, whether or not it gets into a cache. -/
theorem placed_listens (placed : Placed s) (current : s.evnDataSourceMap env = some client) {path : String}
    (dataSources : t.evnDataSourceMap = s.evnDataSourceMap) (clients : t.clients = s.clients)
    (closed : t.isClosed = s.isClosed) (subscriptions : t.subscriptions = s.subscriptions ++ [⟨client, path, s.objects⟩])
    (holds : ∀ cached, t.Holds cached → s.Holds cached ∨ cached = ⟨env, path, s.objects⟩) : Placed t where
  sound := by
    intro cached held other inMap
    rw [dataSources] at inMap
    rw [closed, subscriptions]
    rcases holds cached held with old | rfl
    · obtain ⟨isOpen, listens⟩ := placed.sound cached old other inMap
      exact ⟨isOpen, List.mem_append_left _ listens⟩
    · have same := Option.some.inj (current.symm.trans inMap)
      rw [← same]
      exact ⟨(placed.inUse env client current).2, List.mem_append_right _ List.mem_cons_self⟩
  inUse := by
    rw [dataSources, clients, closed]
    exact placed.inUse
  distinct := by
    rw [dataSources]
    exact placed.distinct
  fresh := by
    rw [clients, closed]
    exact placed.fresh
  known := by
    rw [clients, subscriptions]
    intro subscription member
    rcases List.mem_append.mp member with old | new
    · exact placed.known subscription old
    · rw [List.mem_singleton.mp new]
      exact (placed.inUse env client current).1

theorem holds_update {entries : String → Option Cached} {key other : String} {cached new : Cached}
    (found : Function.update entries key (some new) other = some cached) :
    entries other = some cached ∨ cached = new := by
  by_cases same : other = key
  · subst same
    rw [Function.update_self] at found
    exact .inr (Option.some.inj found).symm
  · rw [Function.update_of_ne same] at found
    exact .inl found

theorem placed_getCurrentProducer (placed : Placed s) (topic : String) (starting : Option Starting) :
    Placed (s.getCurrentProducer env topic starting) := by
  unfold State.getCurrentProducer
  split
  · exact placed
  · split
    · next current =>
        exact placed_listens placed (evnDataSourceMap_of_currentZkClient current) rfl rfl rfl rfl fun cached held =>
          .inl held
    · next current =>
        refine placed_listens placed (evnDataSourceMap_of_currentZkClient current) rfl rfl rfl rfl ?_
        rintro cached (⟨key, found⟩ | manager)
        · rcases holds_update found with old | new
          · exact .inl (.inl ⟨key, old⟩)
          · exact .inr new
        · exact .inl (.inr manager)
    · exact placed

theorem placed_getOrCreateAdmin (placed : Placed s) (context : Option EnvId) (clusterName : String) (creates : Bool) :
    Placed (s.getOrCreateAdmin context clusterName creates) := by
  unfold State.getOrCreateAdmin
  split
  · exact placed
  · split
    · next current =>
        refine placed_listens placed (evnDataSourceMap_of_currentZkClient current) rfl rfl rfl rfl ?_
        rintro cached (producer | ⟨key, found⟩)
        · exact .inl (.inl producer)
        · rcases holds_update found with old | new
          · exact .inl (.inr ⟨key, old⟩)
          · exact .inr new
    · exact placed

theorem some_of_update_none {κ ν : Type} [DecidableEq κ] {entries : κ → Option ν} {key other : κ} {value : ν}
    (found : Function.update entries key none other = some value) : entries other = some value := by
  by_cases same : other = key
  · rw [same, Function.update_self] at found
    cases found
  · rw [Function.update_of_ne same] at found
    exact found

theorem placed_remove (placed : Placed s) (context : Option EnvId) (clusterName : String) :
    Placed (s.remove context clusterName) where
  sound := by
    intro cached held
    apply placed.sound cached
    rcases held with producer | ⟨key, found⟩
    · exact .inl producer
    · exact .inr ⟨key, some_of_update_none found⟩
  inUse := placed.inUse
  distinct := placed.distinct
  fresh := placed.fresh
  known := placed.known

theorem placed_removeEnvZkClient (placed : Placed s) (env : EnvId) (destroys : Bool) :
    Placed (s.removeEnvZkClient env destroys) := by
  unfold State.removeEnvZkClient
  cases current : s.evnDataSourceMap env with
  | none => exact placed
  | some client =>
      have others : ∀ other c, Function.update s.evnDataSourceMap env none other = some c →
          s.evnDataSourceMap other = some c ∧ c ≠ client := by
        intro other c found
        by_cases same : other = env
        · subst same
          rw [Function.update_self] at found
          cases found
        · rw [Function.update_of_ne same] at found
          refine ⟨found, ?_⟩
          rintro rfl
          exact same (placed.distinct other env c found current)
      constructor
      · intro cached held other found
        obtain ⟨inMap, differs⟩ := others _ _ found
        obtain ⟨isOpen, listens⟩ := placed.sound cached held other inMap
        exact ⟨(Function.update_of_ne differs destroys s.isClosed).trans isOpen, listens⟩
      · intro other c found
        obtain ⟨inMap, differs⟩ := others _ _ found
        obtain ⟨known, isOpen⟩ := placed.inUse other c inMap
        exact ⟨known, (Function.update_of_ne differs destroys s.isClosed).trans isOpen⟩
      · intro first second c found again
        exact placed.distinct first second c (others _ _ found).1 (others _ _ again).1
      · intro c isNew
        have differs : c ≠ client := by
          rintro rfl
          exact absurd (placed.inUse env c current).1 (Nat.not_lt.mpr isNew)
        exact (Function.update_of_ne differs destroys s.isClosed).trans (placed.fresh c isNew)
      · exact placed.known

theorem placed_created (placed : Placed s) : Placed s.created where
  sound := placed.sound
  inUse env client current := (placed.inUse env client current).imp_left Nat.lt_succ_of_lt
  distinct := placed.distinct
  fresh client isNew := placed.fresh client (Nat.le_of_succ_le isNew)
  known subscription member := Nat.lt_succ_of_lt (placed.known subscription member)

theorem placed_put (placed : Placed s) (known : client < s.clients) (isOpen : s.isClosed client = false)
    (unused : ∀ env, s.evnDataSourceMap env ≠ some client) (nothing : ∀ cached, s.Holds cached → cached.env ≠ env) :
    Placed (s.put env client) := by
  have found : ∀ other c, Function.update s.evnDataSourceMap env (some client) other = some c →
      other = env ∧ c = client ∨ other ≠ env ∧ s.evnDataSourceMap other = some c := by
    intro other c found
    by_cases same : other = env
    · rw [same, Function.update_self] at found
      exact .inl ⟨same, (Option.some.inj found).symm⟩
    · rw [Function.update_of_ne same] at found
      exact .inr ⟨same, found⟩
  constructor
  · intro cached held c inMap
    rcases found _ _ inMap with ⟨same, _⟩ | ⟨_, old⟩
    · exact absurd same (nothing cached held)
    · exact placed.sound cached held c old
  · intro other c inMap
    rcases found _ _ inMap with ⟨_, rfl⟩ | ⟨_, old⟩
    · exact ⟨known, isOpen⟩
    · exact placed.inUse other c old
  · intro first second c inMap again
    rcases found _ _ inMap with ⟨isFirst, isNew⟩ | ⟨_, old⟩
    · rcases found _ _ again with ⟨isSecond, _⟩ | ⟨_, other⟩
      · rw [isFirst, isSecond]
      · rw [isNew] at other
        exact absurd other (unused second)
    · rcases found _ _ again with ⟨_, isNew⟩ | ⟨_, other⟩
      · rw [isNew] at old
        exact absurd old (unused first)
      · exact placed.distinct first second c old other
  · exact placed.fresh
  · exact placed.known

theorem clients_removeEnvZkClient (s : State) (env : EnvId) (destroys : Bool) :
    (s.removeEnvZkClient env destroys).clients = s.clients := by
  unfold State.removeEnvZkClient
  split <;> rfl

theorem holds_removeEnvZkClient (s : State) (env : EnvId) (destroys : Bool) (cached : Cached) :
    (s.removeEnvZkClient env destroys).Holds cached ↔ s.Holds cached := by
  unfold State.removeEnvZkClient
  split <;> rfl

theorem inUse_of_removed {other : EnvId} {destroys : Bool}
    (inMap : (s.removeEnvZkClient env destroys).evnDataSourceMap other = some client) :
    s.evnDataSourceMap other = some client := by
  unfold State.removeEnvZkClient at inMap
  split at inMap
  · exact inMap
  · exact some_of_update_none inMap

theorem isClosed_of_removed {destroys : Bool} (unused : ∀ env, s.evnDataSourceMap env ≠ some client) :
    (s.removeEnvZkClient env destroys).isClosed client = s.isClosed client := by
  unfold State.removeEnvZkClient
  split
  · rfl
  · next inMap =>
      apply Function.update_of_ne
      rintro rfl
      exact unused env inMap

theorem reloadEnvZkClient_of_not_replaces {creates destroys : Bool} (stuck : ¬Replaces s env creates destroys) :
    s.reloadEnvZkClient env creates destroys = s ∨
      s.reloadEnvZkClient env creates destroys = s.created.removeEnvZkClient env destroys := by
  unfold State.reloadEnvZkClient
  cases creates with
  | false => exact .inl rfl
  | true =>
      have isStuck : (s.evnDataSourceMap env).isSome = true ∧ ¬destroys = true := by
        by_contra goes
        exact stuck ⟨rfl, fun present => by_contra fun remains => goes ⟨present, remains⟩⟩
      exact .inr (if_pos isStuck)

theorem reloadEnvZkClient_of_replaces {creates destroys : Bool} (replaces : Replaces s env creates destroys) :
    s.reloadEnvZkClient env creates destroys = (s.created.removeEnvZkClient env destroys).put env s.clients := by
  unfold State.reloadEnvZkClient
  have goes : ¬((s.evnDataSourceMap env).isSome = true ∧ ¬destroys = true) := fun stuck => stuck.2 (replaces.2 stuck.1)
  rw [if_pos replaces.1, if_neg goes]

theorem placed_reloadEnvZkClient (placed : Placed s) {creates destroys : Bool}
    (nothing : Replaces s env creates destroys → ∀ cached, s.Holds cached → cached.env ≠ env) :
    Placed (s.reloadEnvZkClient env creates destroys) := by
  by_cases replaces : Replaces s env creates destroys
  · have unused : ∀ other, s.created.evnDataSourceMap other ≠ some s.clients := fun other inMap =>
      Nat.lt_irrefl _ (placed.inUse other s.clients inMap).1
    rw [reloadEnvZkClient_of_replaces replaces]
    apply placed_put (placed_removeEnvZkClient (placed_created placed) env destroys)
    · rw [clients_removeEnvZkClient]
      exact Nat.lt_succ_self s.clients
    · rw [isClosed_of_removed unused]
      exact placed.fresh s.clients (Nat.le_refl s.clients)
    · exact fun other inMap => unused other (inUse_of_removed inMap)
    · intro cached held
      exact nothing replaces cached ((holds_removeEnvZkClient s.created env destroys cached).mp held)
  · rcases reloadEnvZkClient_of_not_replaces replaces with same | removed
    · rw [same]
      exact placed
    · rw [removed]
      exact placed_removeEnvZkClient (placed_created placed) env destroys

theorem placed_effect (placed : Placed s) {a : Action} (nothing : NothingCached s a) : Placed (effect s a) := by
  cases a with
  | getCurrentProducer envId topic starting => exact placed_getCurrentProducer placed topic starting
  | getOrCreateAdmin context clusterName creates => exact placed_getOrCreateAdmin placed context clusterName creates
  | remove context clusterName => exact placed_remove placed context clusterName
  | reload context clusterName creates =>
      exact placed_getOrCreateAdmin (placed_remove placed context clusterName) context clusterName creates
  | reloadEnvZkClient env creates destroys => exact placed_reloadEnvZkClient placed nothing
  | removeEnvZkClient env destroys => exact placed_removeEnvZkClient placed env destroys

/-- As long as no client is replaced while something of its environment is cached, every cached object
listens at its environment's client. -/
theorem sound_of_nothingCached (reached : (system.restrict NothingCached).Reachable s) : Sound s := by
  have placed : Placed s := by
    apply reached.invariant Placed
    · rintro _ rfl
      exact placed_start
    · intro s a placed enabled
      exact placed_effect placed enabled.2
  exact placed.sound

end Steps

/-! ### A new address -/

section Reloaded

def connect : Action := .reloadEnvZkClient 1 true true

def produce : Action := .getCurrentProducer 1 "orders" (some .completes)

/-- The producer comes after the reload. -/
theorem sound_produced : Sound (effect (effect (effect start connect) connect) produce) := by
  have started : (system.restrict NothingCached).Reachable start := .start rfl
  have connected := Guarded.Reachable.step (a := connect) started
    ⟨trivial, fun _ cached held => absurd held (not_holds_start cached)⟩
  have reloaded := Guarded.Reachable.step (a := connect) connected ⟨trivial, by
    rintro _ cached (⟨key, impossible⟩ | ⟨key, impossible⟩) <;> cases impossible⟩
  exact sound_of_nothingCached (Guarded.Reachable.step (a := produce) reloaded ⟨trivial, trivial⟩)

/-- The producer's environment gets a new client. -/
theorem not_forall_reachable_sound : ¬∀ s, system.Reachable s → Sound s := by
  intro always
  have started : system.Reachable start := .start rfl
  have connected := Guarded.Reachable.step (a := connect) started trivial
  have produced := Guarded.Reachable.step (a := produce) connected trivial
  have sound := always _ (Guarded.Reachable.step (a := connect) produced trivial)
  obtain ⟨_, listens⟩ := sound ⟨1, topicPath "orders", 0⟩ (.inl ⟨cacheName 1 "orders", rfl⟩) 1 rfl
  have only : (⟨1, topicPath "orders", 0⟩ : Subscription) ∈ [⟨0, topicPath "orders", 0⟩] := listens
  have same := congrArg Subscription.client (List.mem_singleton.mp only)
  cases same

end Reloaded

end Zms.Portal.EnvSubscriptions
