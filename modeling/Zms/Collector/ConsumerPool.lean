import Zms.Transition.Guarded

/-! `KConsumerPoolManager` and the calls of `getLogSize` that borrow its consumers, any number of
them at a time.

A consumer is named by the number of its creation. A call takes one step to get a consumer and one
to release it; what it asks the consumer in between changes nothing here.
-/

set_option autoImplicit false

namespace Zms.Collector.KConsumerPoolManager

open Transition

variable {T : Type}

def K_CONSUMER_POOL_SIZE : Nat := 2

/-- A call of `getLogSize` that has got its consumer, or null. -/
structure Call where
  clusterName : String
  kConsumer : Option Nat

structure State (T : Type) where
  kConsumerPools : String → Option (List (Option Nat))
  calls : T → Option Call
  created : Nat
  closed : List Nat

/-- The consumers made by the attempts that do not throw. -/
def getKafkaConsumers (created : Nat) : List Bool → List Nat
  | [] => []
  | true :: rest => created :: getKafkaConsumers (created + 1) rest
  | false :: rest => getKafkaConsumers created rest

/-- `works` says which attempts to create a consumer succeed. -/
def getKafkaConsumerClient (s : State T) (clusterName : String) (works : Nat → Bool) : Option Nat × State T :=
  match s.kConsumerPools clusterName with
  | some (kConsumer :: rest) =>
      (kConsumer, { s with kConsumerPools := Function.update s.kConsumerPools clusterName (some rest) })
  | some [] | none =>
    match getKafkaConsumers s.created ((List.range K_CONSUMER_POOL_SIZE).map works) with
    -- `get(0)` throws, and null is returned
    | [] => (none, s)
    | kConsumer :: rest =>
        (some kConsumer, { s with
          kConsumerPools := Function.update s.kConsumerPools clusterName (some (rest.map some))
          created := s.created + rest.length + 1 })

/-- `close`, which throws for null. -/
def close (s : State T) : Option Nat → State T
  | some kConsumer => { s with closed := kConsumer :: s.closed }
  | none => s

def release (s : State T) (clusterName : String) (kConsumer : Option Nat) : State T :=
  match s.kConsumerPools clusterName with
  | some kConsumerPool =>
    if kConsumerPool.length < K_CONSUMER_POOL_SIZE then
      { s with kConsumerPools :=
          Function.update s.kConsumerPools clusterName (some (kConsumerPool ++ [kConsumer])) }
    else close s kConsumer
  | none => close s kConsumer

inductive Action (T : Type) where
  | acquire (t : T) (clusterName : String) (works : Nat → Bool)
  | release (t : T)

section
variable [DecidableEq T]

def effect (s : State T) : Action T → State T
  | .acquire t clusterName works =>
      let (kConsumer, s) := getKafkaConsumerClient s clusterName works
      { s with calls := Function.update s.calls t (some ⟨clusterName, kConsumer⟩) }
  | .release t =>
    match s.calls t with
    | some call =>
        let s := release s call.clusterName call.kConsumer
        { s with calls := Function.update s.calls t none }
    | none => s

def guard (s : State T) : Action T → Prop
  | .acquire t _ _ => s.calls t = none
  | .release t => (s.calls t).isSome

def start : State T := ⟨fun _ => none, fun _ => none, 0, []⟩

def system : Guarded (State T) (Action T) where
  init s := s = start
  guard := guard
  effect := effect

end

/-! ### A sound pool -/

def Lent (s : State T) (t : T) (kConsumer : Nat) : Prop :=
  ∃ clusterName, s.calls t = some ⟨clusterName, some kConsumer⟩

def Pooled (s : State T) (clusterName : String) (kConsumer : Option Nat) : Prop :=
  ∃ kConsumerPool, s.kConsumerPools clusterName = some kConsumerPool ∧ kConsumer ∈ kConsumerPool

structure Sound (s : State T) : Prop where
  lent_once : ∀ t u kConsumer, Lent s t kConsumer → Lent s u kConsumer → t = u
  lent_apart : ∀ t clusterName kConsumer, Lent s t kConsumer → ¬ Pooled s clusterName (some kConsumer)
  pooled_usable : ∀ clusterName pooled, Pooled s clusterName pooled →
    ∃ kConsumer, pooled = some kConsumer ∧ kConsumer ∉ s.closed
  size : ∀ clusterName kConsumerPool, s.kConsumerPools clusterName = some kConsumerPool →
    kConsumerPool.length ≤ K_CONSUMER_POOL_SIZE
  accounted : ∀ kConsumer < s.created,
    (∃ t, Lent s t kConsumer) ∨ (∃ clusterName, Pooled s clusterName (some kConsumer)) ∨ kConsumer ∈ s.closed
  /-- Once consumers can be created, a call gets one that is open. -/
  recovers : ∀ clusterName, ∃ kConsumer,
    (getKafkaConsumerClient s clusterName fun _ => true).1 = some kConsumer ∧ kConsumer ∉ s.closed

/-- A call that got no consumer finds no place in a pool to release it to. -/
def NothingReleased (s : State T) : Action T → Prop
  | .acquire _ _ _ => True
  | .release t => ∀ clusterName kConsumerPool, s.calls t = some ⟨clusterName, none⟩ →
      s.kConsumerPools clusterName = some kConsumerPool → K_CONSUMER_POOL_SIZE ≤ kConsumerPool.length

/-! ### The place of each consumer -/

inductive Place (T : Type) where
  | lent (t : T)
  | pooled (clusterName : String)
  | closed

/-- Every consumer that was created is in one place. -/
structure Placed (s : State T) (place : Nat → Place T) : Prop where
  lent : ∀ t kConsumer, Lent s t kConsumer ↔ kConsumer < s.created ∧ place kConsumer = .lent t
  pooled : ∀ clusterName kConsumer,
    Pooled s clusterName (some kConsumer) ↔ kConsumer < s.created ∧ place kConsumer = .pooled clusterName
  closed : ∀ kConsumer, kConsumer ∈ s.closed ↔ kConsumer < s.created ∧ place kConsumer = .closed
  something : ∀ clusterName, ¬ Pooled s clusterName none
  once : ∀ clusterName kConsumerPool, s.kConsumerPools clusterName = some kConsumerPool → kConsumerPool.Nodup
  size : ∀ clusterName kConsumerPool, s.kConsumerPools clusterName = some kConsumerPool →
    kConsumerPool.length ≤ K_CONSUMER_POOL_SIZE

theorem getKafkaConsumers_eq (created : Nat) (works : List Bool) :
    getKafkaConsumers created works = List.range' created (works.count true) := by
  induction works generalizing created with
  | nil => rfl
  | cons work rest ih =>
    cases work with
    | true => rw [getKafkaConsumers, ih, List.count_cons_self, List.range'_succ]
    | false => rw [getKafkaConsumers, ih, List.count_cons_of_ne (by decide)]

section Steps
variable {s : State T} {place : Nat → Place T} {clusterName : String} {kConsumer : Nat}

theorem sound_of_placed (placed : Placed s place) : Sound s where
  lent_once t u kConsumer first second := by
    have same := ((placed.lent t kConsumer).mp first).2.symm.trans ((placed.lent u kConsumer).mp second).2
    injection same
  lent_apart t clusterName kConsumer lent pooled := by
    have same := ((placed.lent t kConsumer).mp lent).2.symm.trans ((placed.pooled clusterName kConsumer).mp pooled).2
    cases same
  pooled_usable clusterName pooled member := by
    cases pooled with
    | none => exact absurd member (placed.something clusterName)
    | some kConsumer =>
      refine ⟨kConsumer, rfl, fun closed => ?_⟩
      have same := ((placed.pooled clusterName kConsumer).mp member).2.symm.trans ((placed.closed kConsumer).mp closed).2
      cases same
  size := placed.size
  accounted kConsumer created := by
    cases at_ : place kConsumer with
    | lent t => exact .inl ⟨t, (placed.lent t kConsumer).mpr ⟨created, at_⟩⟩
    | pooled clusterName => exact .inr (.inl ⟨clusterName, (placed.pooled clusterName kConsumer).mpr ⟨created, at_⟩⟩)
    | closed => exact .inr (.inr ((placed.closed kConsumer).mpr ⟨created, at_⟩))
  recovers clusterName := by
    have fresh : s.created ∉ s.closed := fun closed => lt_irrefl _ ((placed.closed _).mp closed).1
    unfold getKafkaConsumerClient
    cases pool : s.kConsumerPools clusterName with
    | none => exact ⟨s.created, rfl, fresh⟩
    | some kConsumerPool =>
      cases kConsumerPool with
      | nil => exact ⟨s.created, rfl, fresh⟩
      | cons first rest =>
        have member : Pooled s clusterName first := ⟨_, pool, List.mem_cons_self⟩
        cases first with
        | none => exact absurd member (placed.something clusterName)
        | some kConsumer =>
          refine ⟨kConsumer, rfl, fun closed => ?_⟩
          have same := ((placed.pooled clusterName kConsumer).mp member).2.symm.trans
            ((placed.closed kConsumer).mp closed).2
          cases same

theorem getKafkaConsumerClient_cases (s : State T) (clusterName : String) (works : Nat → Bool) :
    (∃ pooled rest, s.kConsumerPools clusterName = some (pooled :: rest) ∧
      getKafkaConsumerClient s clusterName works =
        (pooled, { s with kConsumerPools := Function.update s.kConsumerPools clusterName (some rest) })) ∨
    (∀ pooled, ¬ Pooled s clusterName pooled) ∧
      (getKafkaConsumerClient s clusterName works = (none, s) ∨
        ∃ n < K_CONSUMER_POOL_SIZE, getKafkaConsumerClient s clusterName works =
          (some s.created, { s with
            kConsumerPools :=
              Function.update s.kConsumerPools clusterName (some ((List.range' (s.created + 1) n).map some))
            created := s.created + n + 1 })) := by
  have made : getKafkaConsumers s.created ((List.range K_CONSUMER_POOL_SIZE).map works) =
      List.range' s.created (((List.range K_CONSUMER_POOL_SIZE).map works).count true) :=
    getKafkaConsumers_eq s.created _
  have few : ((List.range K_CONSUMER_POOL_SIZE).map works).count true ≤ K_CONSUMER_POOL_SIZE :=
    List.count_le_length.trans (by simp)
  have filled (empty : ∀ pooled rest, s.kConsumerPools clusterName ≠ some (pooled :: rest)) :
      getKafkaConsumerClient s clusterName works = (none, s) ∨
        ∃ n < K_CONSUMER_POOL_SIZE, getKafkaConsumerClient s clusterName works =
          (some s.created, { s with
            kConsumerPools :=
              Function.update s.kConsumerPools clusterName (some ((List.range' (s.created + 1) n).map some))
            created := s.created + n + 1 }) := by
    have unfolded : getKafkaConsumerClient s clusterName works =
        match getKafkaConsumers s.created ((List.range K_CONSUMER_POOL_SIZE).map works) with
        | [] => (none, s)
        | kConsumer :: rest =>
            (some kConsumer, { s with
              kConsumerPools := Function.update s.kConsumerPools clusterName (some (rest.map some))
              created := s.created + rest.length + 1 }) := by
      unfold getKafkaConsumerClient
      split
      next pooled rest found => exact absurd found (empty pooled rest)
      next => rfl
      next => rfl
    rw [unfolded, made]
    generalize ((List.range K_CONSUMER_POOL_SIZE).map works).count true = count at few
    cases count with
    | zero => exact .inl rfl
    | succ n =>
      refine .inr ⟨n, few, ?_⟩
      simp only [List.range'_succ, List.length_range']
  cases pool : s.kConsumerPools clusterName with
  | none =>
    refine .inr ⟨?_, filled fun pooled rest found => ?_⟩
    · rintro pooled ⟨kConsumerPool, found, -⟩
      rw [pool] at found
      cases found
    · rw [pool] at found
      cases found
  | some kConsumerPool =>
    cases kConsumerPool with
    | nil =>
      refine .inr ⟨?_, filled fun pooled rest found => ?_⟩
      · rintro pooled ⟨kConsumerPool, found, member⟩
        rw [pool] at found
        cases found
        cases member
      · rw [pool] at found
        cases found
    | cons pooled rest =>
      refine .inl ⟨pooled, rest, rfl, ?_⟩
      rw [getKafkaConsumerClient, pool]

variable {t : T} {after : State T}

theorem lent_update [DecidableEq T] {call : Option Call} (calls : after.calls = Function.update s.calls t call) (u : T)
    (kConsumer : Nat) :
    Lent after u kConsumer ↔
      u = t ∧ (∃ clusterName, call = some ⟨clusterName, some kConsumer⟩) ∨ u ≠ t ∧ Lent s u kConsumer := by
  unfold Lent
  rw [calls]
  by_cases own : u = t
  · subst own
    simp
  · simp [own]

theorem pooled_update {kConsumerPool : List (Option Nat)}
    (pools : after.kConsumerPools = Function.update s.kConsumerPools clusterName (some kConsumerPool))
    (other : String) (pooled : Option Nat) :
    Pooled after other pooled ↔
      other = clusterName ∧ pooled ∈ kConsumerPool ∨ other ≠ clusterName ∧ Pooled s other pooled := by
  unfold Pooled
  rw [pools]
  by_cases own : other = clusterName
  · subst own
    simp
  · simp [own]

theorem pools_update {kConsumerPool : List (Option Nat)} {P : List (Option Nat) → Prop}
    (pools : after.kConsumerPools = Function.update s.kConsumerPools clusterName (some kConsumerPool))
    (old : ∀ name pool, s.kConsumerPools name = some pool → P pool) (new : P kConsumerPool)
    (name : String) (pool : List (Option Nat)) (found : after.kConsumerPools name = some pool) : P pool := by
  rw [pools] at found
  by_cases own : name = clusterName
  · subst own
    rw [Function.update_self] at found
    obtain rfl := Option.some.inj found
    exact new
  · rw [Function.update_of_ne own] at found
    exact old name pool found

theorem not_lent_of_idle (idle : s.calls t = none) (kConsumer : Nat) : ¬ Lent s t kConsumer := by
  rintro ⟨clusterName, found⟩
  rw [idle] at found
  cases found

theorem placed_start : Placed (start : State T) fun _ => .closed := by
  refine ⟨?_, ?_, ?_, ?_, ?_, ?_⟩ <;> simp [start, Lent, Pooled]

variable [DecidableEq T]

theorem placed_nothing (placed : Placed s place) (held : ∀ kConsumer, ¬ Lent s t kConsumer) {call : Option Call}
    (nothing : ∀ clusterName kConsumer, call ≠ some ⟨clusterName, some kConsumer⟩) :
    Placed { s with calls := Function.update s.calls t call } place where
  lent u kConsumer := by
    rw [lent_update rfl, ← placed.lent u kConsumer]
    by_cases own : u = t
    · subst own
      simp [nothing, held]
    · simp [own]
  pooled := placed.pooled
  closed := placed.closed
  something := placed.something
  once := placed.once
  size := placed.size

theorem placed_borrow (placed : Placed s place) (idle : s.calls t = none) {rest : List (Option Nat)}
    (pool : s.kConsumerPools clusterName = some (some kConsumer :: rest)) :
    Placed { s with
      kConsumerPools := Function.update s.kConsumerPools clusterName (some rest)
      calls := Function.update s.calls t (some ⟨clusterName, some kConsumer⟩) }
      (Function.update place kConsumer (.lent t)) := by
  have pooled : Pooled s clusterName (some kConsumer) := ⟨_, pool, List.mem_cons_self⟩
  obtain ⟨created, at_⟩ := (placed.pooled clusterName kConsumer).mp pooled
  obtain ⟨absent, nodup⟩ := List.nodup_cons.mp (placed.once _ _ pool)
  have members (pooled : Option Nat) : Pooled s clusterName pooled ↔ pooled = some kConsumer ∨ pooled ∈ rest := by
    simp [Pooled, pool]
  refine ⟨?_, ?_, ?_, ?_, ?_, ?_⟩
  · intro u x
    rw [lent_update rfl, placed.lent]
    have idleOf := not_lent_of_idle idle x
    rw [placed.lent] at idleOf
    by_cases same : x = kConsumer
    · subst same
      simp [at_, created, eq_comm]
    · rw [Function.update_of_ne same]
      by_cases own : u = t
      · subst own
        simp [idleOf, Ne.symm same]
      · simp [own]
  · intro name x
    rw [pooled_update rfl, placed.pooled]
    by_cases same : x = kConsumer
    · subst same
      by_cases own : name = clusterName
      · simp [own, absent]
      · simp [own, at_, Ne.symm own]
    · rw [Function.update_of_ne same]
      by_cases own : name = clusterName
      · subst own
        have before := placed.pooled name x
        rw [members] at before
        simpa [same] using before
      · simp [own]
  · intro x
    rw [placed.closed]
    by_cases same : x = kConsumer
    · subst same
      simp [at_]
    · rw [Function.update_of_ne same]
  · intro name
    rw [pooled_update rfl]
    rintro (⟨rfl, member⟩ | ⟨-, member⟩)
    · exact placed.something name ((members none).mpr (.inr member))
    · exact placed.something name member
  · exact pools_update (s := s) rfl placed.once nodup
  · have whole := placed.size _ _ pool
    exact pools_update (s := s) rfl placed.size ((Nat.le_succ _).trans whole)

/-- Of the new consumers the first goes to the call and the others to the pool, which had none. -/
theorem placed_refill (placed : Placed s place) (idle : s.calls t = none)
    (empty : ∀ pooled, ¬ Pooled s clusterName pooled) {n : Nat} (few : n < K_CONSUMER_POOL_SIZE) :
    Placed { s with
      kConsumerPools :=
        Function.update s.kConsumerPools clusterName (some ((List.range' (s.created + 1) n).map some))
      created := s.created + n + 1
      calls := Function.update s.calls t (some ⟨clusterName, some s.created⟩) }
      fun kConsumer =>
        if kConsumer < s.created then place kConsumer
        else if kConsumer = s.created then .lent t else .pooled clusterName := by
  have new (x : Nat) : some x ∈ (List.range' (s.created + 1) n).map some ↔ s.created < x ∧ x < s.created + n + 1 := by
    simp only [List.mem_map, Option.some.injEq, exists_eq_right, List.mem_range'_1]
    omega
  refine ⟨?_, ?_, ?_, ?_, ?_, ?_⟩
  · intro u x
    rw [lent_update rfl, placed.lent]
    have idleOf := not_lent_of_idle idle x
    rw [placed.lent] at idleOf
    rcases lt_trichotomy x s.created with old | rfl | later
    · have created : x < s.created + n + 1 := by omega
      by_cases own : u = t
      · subst own
        simp [old, created, old.ne'] at idleOf ⊢
        exact idleOf
      · simp [own, old, created]
    · simp [eq_comm]
    · simp [later.ne, later.not_gt, later.ne']
  · intro name x
    rw [pooled_update rfl, placed.pooled, new]
    have emptyOf := empty (some x)
    rw [placed.pooled] at emptyOf
    rcases lt_trichotomy x s.created with old | rfl | later
    · have created : x < s.created + n + 1 := by omega
      by_cases own : name = clusterName
      · subst own
        simp [old, created, old.not_gt] at emptyOf ⊢
        exact emptyOf
      · simp [own, old, created]
    · simp
    · by_cases own : name = clusterName
      · simp [own, later, later.not_gt, later.ne']
      · simp [own, later.not_gt, later.ne', Ne.symm own]
  · intro x
    rw [placed.closed]
    rcases lt_trichotomy x s.created with old | rfl | later
    · have created : x < s.created + n + 1 := by omega
      simp [old, created]
    · simp
    · simp [later.not_gt, later.ne']
  · intro name
    rw [pooled_update rfl]
    rintro (⟨-, member⟩ | ⟨-, member⟩)
    · simp at member
    · exact placed.something name member
  · refine pools_update (s := s) rfl placed.once ?_
    exact List.Nodup.map (Option.some_injective _) List.nodup_range'
  · refine pools_update (s := s) rfl placed.size ?_
    simpa using few.le

theorem placed_giveBack (placed : Placed s place) (lent : s.calls t = some ⟨clusterName, some kConsumer⟩)
    {pool : List (Option Nat)} (found : s.kConsumerPools clusterName = some pool)
    (free : pool.length < K_CONSUMER_POOL_SIZE) :
    Placed { s with
      kConsumerPools := Function.update s.kConsumerPools clusterName (some (pool ++ [some kConsumer]))
      calls := Function.update s.calls t none }
      (Function.update place kConsumer (.pooled clusterName)) := by
  obtain ⟨created, at_⟩ := (placed.lent t kConsumer).mp ⟨clusterName, lent⟩
  have members (pooled : Option Nat) : Pooled s clusterName pooled ↔ pooled ∈ pool := by
    simp [Pooled, found]
  have only (x : Nat) : Lent s t x ↔ x = kConsumer := by
    simp [Lent, lent, eq_comm]
  refine ⟨?_, ?_, ?_, ?_, ?_, ?_⟩
  · intro u x
    rw [lent_update rfl]
    by_cases same : x = kConsumer
    · subst same
      by_cases own : u = t
      · simp [own]
      · simp [own, placed.lent, at_, Ne.symm own]
    · rw [Function.update_of_ne same, ← placed.lent u x]
      by_cases own : u = t
      · subst own
        simp [only, same]
      · simp [own]
  · intro name x
    rw [pooled_update rfl]
    by_cases same : x = kConsumer
    · subst same
      by_cases own : name = clusterName
      · simp [own, created]
      · simp [own, placed.pooled, at_, Ne.symm own]
    · rw [Function.update_of_ne same, ← placed.pooled name x]
      by_cases own : name = clusterName
      · subst own
        simp [members, same]
      · simp [own]
  · intro x
    rw [placed.closed]
    by_cases same : x = kConsumer
    · subst same
      simp [at_]
    · rw [Function.update_of_ne same]
  · intro name
    rw [pooled_update rfl]
    rintro (⟨rfl, member⟩ | ⟨-, member⟩)
    · exact placed.something name ((members none).mpr (by simpa using member))
    · exact placed.something name member
  · refine pools_update (s := s) rfl placed.once ?_
    have absent : some kConsumer ∉ pool := by
      rw [← members, placed.pooled, at_]
      simp
    refine List.nodup_append.mpr ⟨placed.once _ _ found, List.nodup_singleton _, ?_⟩
    intro pooled member back own same
    rw [List.mem_singleton] at own
    exact absent (own ▸ same ▸ member)
  · refine pools_update (s := s) rfl placed.size ?_
    rw [List.length_append, List.length_singleton]
    exact free

theorem placed_close (placed : Placed s place) (lent : s.calls t = some ⟨clusterName, some kConsumer⟩) :
    Placed { s with closed := kConsumer :: s.closed, calls := Function.update s.calls t none }
      (Function.update place kConsumer .closed) := by
  obtain ⟨created, at_⟩ := (placed.lent t kConsumer).mp ⟨clusterName, lent⟩
  have only (x : Nat) : Lent s t x ↔ x = kConsumer := by
    simp [Lent, lent, eq_comm]
  refine ⟨?_, ?_, ?_, placed.something, placed.once, placed.size⟩
  · intro u x
    rw [lent_update rfl]
    by_cases same : x = kConsumer
    · subst same
      by_cases own : u = t
      · simp [own]
      · simp [own, placed.lent, at_, Ne.symm own]
    · rw [Function.update_of_ne same, ← placed.lent u x]
      by_cases own : u = t
      · subst own
        simp [only, same]
      · simp [own]
  · intro name x
    refine (placed.pooled name x).trans ?_
    by_cases same : x = kConsumer
    · subst same
      simp [at_]
    · rw [Function.update_of_ne same]
  · intro x
    rw [List.mem_cons, placed.closed]
    by_cases same : x = kConsumer
    · subst same
      simp [created]
    · simp [same]

/-- Every action leaves each consumer in one place, unless it releases nothing. -/
theorem placed_effect (placed : Placed s place) {a : Action T} (guarded : guard s a) (allowed : NothingReleased s a) :
    ∃ place, Placed (effect s a) place := by
  cases a with
  | acquire t clusterName works =>
    have idle : s.calls t = none := guarded
    simp only [effect]
    rcases getKafkaConsumerClient_cases s clusterName works with
      ⟨pooled, rest, pool, got⟩ | ⟨empty, got | ⟨n, few, got⟩⟩
    · cases pooled with
      | none => exact absurd ⟨_, pool, List.mem_cons_self⟩ (placed.something clusterName)
      | some kConsumer =>
        rw [got]
        exact ⟨_, placed_borrow placed idle pool⟩
    · rw [got]
      exact ⟨place, placed_nothing placed (not_lent_of_idle idle) (by simp)⟩
    · rw [got]
      exact ⟨_, placed_refill placed idle empty few⟩
  | release t =>
    obtain ⟨⟨clusterName, held⟩, calls⟩ := Option.isSome_iff_exists.mp guarded
    simp only [effect, calls]
    unfold release
    cases held with
    | none =>
      have nothing (kConsumer : Nat) : ¬ Lent s t kConsumer := by
        simp [Lent, calls]
      cases pool : s.kConsumerPools clusterName with
      | none => exact ⟨place, placed_nothing placed nothing (by simp)⟩
      | some kConsumerPool =>
        have full := allowed clusterName kConsumerPool calls pool
        simp only [if_neg (not_lt.mpr full)]
        exact ⟨place, placed_nothing placed nothing (by simp)⟩
    | some kConsumer =>
      cases pool : s.kConsumerPools clusterName with
      | none => exact ⟨_, placed_close placed calls⟩
      | some kConsumerPool =>
        by_cases free : kConsumerPool.length < K_CONSUMER_POOL_SIZE
        · simp only [if_pos free]
          exact ⟨_, placed_giveBack placed calls pool free⟩
        · simp only [if_neg free]
          exact ⟨_, placed_close placed calls⟩

/-- As long as no call without a consumer finds a free place, the pool is sound, whatever the order
of calls and whichever creations fail. -/
theorem sound_of_nothingReleased (reached : (system.restrict NothingReleased).Reachable s) : Sound s := by
  have placed : ∃ place, Placed s place := by
    refine reached.invariant (fun s => ∃ place, Placed s place) ?_ ?_
    · rintro _ rfl
      exact ⟨_, placed_start⟩
    · rintro s a ⟨place, placed⟩ ⟨guarded, allowed⟩
      exact placed_effect placed guarded allowed
  obtain ⟨place, placed⟩ := placed
  exact sound_of_placed placed

end Steps

/-! ### A broker that is away -/

section Away

/-- One consumer can be created, and is lent to the first call. -/
def first : Action Nat := .acquire 0 "kafka" fun attempt => attempt = 0

/-- The second call gets null while the broker is away. -/
def second : Action Nat := .acquire 1 "kafka" fun _ => false

/-- The only consumer comes back to the pool. -/
theorem sound_returned : Sound (effect (effect start first) (.release 0)) := by
  have started : (system.restrict (NothingReleased (T := Nat))).Reachable start := .start rfl
  have lent := Guarded.Reachable.step (a := first) started ⟨rfl, trivial⟩
  refine sound_of_nothingReleased (Guarded.Reachable.step (a := Action.release 0) lent ⟨rfl, ?_⟩)
  rintro clusterName kConsumerPool ⟨⟩

theorem not_forall_sound : ¬ ∀ s : State Nat, system.Reachable s → Sound s := by
  intro always
  have started : (system (T := Nat)).Reachable start := .start rfl
  have lent := Guarded.Reachable.step (a := first) started rfl
  have away := Guarded.Reachable.step (a := second) lent rfl
  have released := always _ (Guarded.Reachable.step (a := Action.release 1) away rfl)
  obtain ⟨kConsumer, impossible, -⟩ := released.pooled_usable "kafka" none ⟨[none], rfl, by simp⟩
  cases impossible

end Away

end Zms.Collector.KConsumerPoolManager
