import Zms.Collector.ConsumerPool

/-! The consumers of `KConsumerPoolManager` with what a call that got null leaves in a pool: each is
with one call, in one pool or closed. -/

set_option autoImplicit false

namespace Zms.Collector.KConsumerPoolManager

/-- In the pool of the cluster, or with a task that will return it there. -/
def Held (s : State Nat) (name : String) (kConsumer : Nat) : Prop :=
  Pooled s name (some kConsumer) ∨ ∃ id, s.calls id = some ⟨name, some kConsumer⟩

def At (s : State Nat) (place : Place Nat) (kConsumer : Nat) : Prop :=
  match place with
  | .lent id => Lent s id kConsumer
  | .pooled name => Pooled s name (some kConsumer)
  | .closed => kConsumer ∈ s.closed

structure Apart (s : State Nat) : Prop where
  one : ∀ kConsumer place other, At s place kConsumer → At s other kConsumer → place = other
  created : ∀ kConsumer place, At s place kConsumer → kConsumer < s.created
  once : ∀ name pool, s.kConsumerPools name = some pool → pool.reduceOption.Nodup

section Places
variable {s after : State Nat} {thread : Nat} {name : String}

theorem Apart.open (apart : Apart s) {kConsumer : Nat} (lent : Lent s thread kConsumer) : kConsumer ∉ s.closed := by
  intro closed
  cases apart.one kConsumer (.lent thread) .closed lent closed

theorem Apart.moved (apart : Apart s) (moves : Nat → Prop) (target : Nat → Place Nat)
    (cases : ∀ kConsumer place, At after place kConsumer →
      moves kConsumer ∧ place = target kConsumer ∨ ¬moves kConsumer ∧ At s place kConsumer)
    (bound : ∀ kConsumer, moves kConsumer → kConsumer < after.created) (more : s.created ≤ after.created)
    (once : ∀ name pool, after.kConsumerPools name = some pool → pool.reduceOption.Nodup) : Apart after where
  one kConsumer place other first second := by
    rcases cases kConsumer place first with ⟨isMoved, isTarget⟩ | ⟨stays, before⟩
    · rcases cases kConsumer other second with ⟨_, isTarget'⟩ | ⟨stays, _⟩
      · exact isTarget.trans isTarget'.symm
      · exact absurd isMoved stays
    · rcases cases kConsumer other second with ⟨isMoved, _⟩ | ⟨_, before'⟩
      · exact absurd isMoved stays
      · exact apart.one kConsumer place other before before'
  created kConsumer place isThere := by
    rcases cases kConsumer place isThere with ⟨isMoved, _⟩ | ⟨_, before⟩
    · exact bound kConsumer isMoved
    · exact (apart.created kConsumer place before).trans_le more
  once := once

theorem Apart.fewer (apart : Apart s) (fewer : ∀ kConsumer place, At after place kConsumer → At s place kConsumer)
    (created : after.created = s.created)
    (once : ∀ name pool, after.kConsumerPools name = some pool → pool.reduceOption.Nodup) : Apart after :=
  apart.moved (fun _ => False) (fun _ => .closed)
    (fun kConsumer place isThere => .inr ⟨id, fewer kConsumer place isThere⟩)
    (fun _ impossible => impossible.elim) created.ge once

theorem nodup_update (apart : Apart s) {pool : List (Option Nat)}
    (pools : after.kConsumerPools = Function.update s.kConsumerPools name (some pool))
    (nodup : pool.reduceOption.Nodup) :
    ∀ name pool, after.kConsumerPools name = some pool → pool.reduceOption.Nodup :=
  pools_update (P := fun pool => pool.reduceOption.Nodup) pools apart.once nodup

/-- What a call that gets a consumer, or null, does. -/
structure Acquired (s after : State Nat) (thread : Nat) (name : String) (works : Nat → Bool) :
    Prop where
  apart : Apart after
  closed : after.closed = s.closed
  more : s.created ≤ after.created
  calls : ∃ pooled, after.calls = Function.update s.calls thread (some ⟨name, pooled⟩)
  held : ∀ other kConsumer, Held after other kConsumer →
    Held s other kConsumer ∨ other = name ∧ s.created ≤ kConsumer ∧ kConsumer < after.created
  creates : s.created < after.created →
    (∀ pooled, ¬Pooled s name pooled) ∧ ∃ i < K_CONSUMER_POOL_SIZE, works i = true

theorem held_of_lent {pooled : Option Nat} (calls : after.calls = Function.update s.calls thread (some ⟨name, pooled⟩))
    {other : String} {kConsumer user : Nat} (lent : after.calls user = some ⟨other, some kConsumer⟩) :
    Held s other kConsumer ∨ other = name ∧ pooled = some kConsumer := by
  rw [calls] at lent
  by_cases own : user = thread
  · rw [own, Function.update_self] at lent
    injection lent with same
    injection same with names consumers
    exact .inr ⟨names.symm, consumers⟩
  · rw [Function.update_of_ne own] at lent
    exact .inl (.inr ⟨user, lent⟩)

theorem Apart.of_pooled (apart : Apart s) {kConsumer : Nat} (pooled : Pooled s name (some kConsumer))
    (place : Place Nat) (isThere : At s place kConsumer) : place = .pooled name :=
  apart.one kConsumer place (.pooled name) isThere pooled

theorem acquired_pooled (apart : Apart s) {pooled : Option Nat} {rest : List (Option Nat)}
    (found : s.kConsumerPools name = some (pooled :: rest)) (works : Nat → Bool) :
    Acquired s { s with
      kConsumerPools := Function.update s.kConsumerPools name (some rest)
      calls := Function.update s.calls thread (some ⟨name, pooled⟩) } thread name works where
  apart := by
    have nodup := apart.once name _ found
    have first {kConsumer : Nat} (own : pooled = some kConsumer) : Pooled s name (some kConsumer) :=
      ⟨_, found, own ▸ List.mem_cons_self⟩
    refine apart.moved (fun kConsumer => pooled = some kConsumer) (fun _ => .lent thread) ?_ ?_ le_rfl ?_
    · intro kConsumer place isThere
      cases place with
      | lent user =>
          rcases (lent_update rfl user kConsumer).mp isThere with ⟨rfl, _, same⟩ | ⟨other, before⟩
          · injection same with same
            injection same with _ own
            exact .inl ⟨own, rfl⟩
          · refine .inr ⟨fun own => ?_, before⟩
            cases apart.of_pooled (first own) (.lent user) before
      | pooled other =>
          rcases (pooled_update rfl other (some kConsumer)).mp isThere with ⟨rfl, member⟩ | ⟨differs, before⟩
          · refine .inr ⟨fun own => ?_, _, found, List.mem_cons_of_mem _ member⟩
            rw [own, List.reduceOption_cons_of_some] at nodup
            exact (List.nodup_cons.mp nodup).1 (List.reduceOption_mem_iff.mpr member)
          · refine .inr ⟨fun own => ?_, before⟩
            injection apart.of_pooled (first own) (.pooled other) before with same
            exact differs same
      | closed =>
          refine .inr ⟨fun own => ?_, isThere⟩
          cases apart.of_pooled (first own) .closed isThere
    · exact fun kConsumer own => apart.created kConsumer (.pooled name) (first own)
    · exact nodup_update apart rfl (nodup.sublist ((List.sublist_cons_self _ _).filterMap _))
  closed := rfl
  more := le_rfl
  calls := ⟨pooled, rfl⟩
  held other kConsumer held := by
    rcases held with isPooled | ⟨user, lent⟩
    · rcases (pooled_update rfl other (some kConsumer)).mp isPooled with ⟨rfl, member⟩ | ⟨_, before⟩
      · exact .inl (.inl ⟨_, found, List.mem_cons_of_mem _ member⟩)
      · exact .inl (.inl before)
    · rcases held_of_lent rfl lent with before | ⟨rfl, own⟩
      · exact .inl before
      · exact .inl (.inl ⟨_, found, own ▸ List.mem_cons_self⟩)
  creates impossible := absurd impossible (lt_irrefl _)

theorem acquired_nothing (apart : Apart s) (works : Nat → Bool) :
    Acquired s { s with calls := Function.update s.calls thread (some ⟨name, none⟩) } thread name works where
  apart := by
    refine apart.fewer ?_ rfl apart.once
    intro kConsumer place isThere
    cases place with
    | lent user =>
        rcases (lent_update rfl user kConsumer).mp isThere with ⟨_, _, same⟩ | ⟨_, before⟩
        · injection same with same
          cases same
        · exact before
    | pooled other => exact isThere
    | closed => exact isThere
  closed := rfl
  more := le_rfl
  calls := ⟨none, rfl⟩
  held other kConsumer held := by
    rcases held with isPooled | ⟨user, lent⟩
    · exact .inl (.inl isPooled)
    · rcases held_of_lent rfl lent with before | ⟨_, impossible⟩
      · exact .inl before
      · cases impossible
  creates impossible := absurd impossible (lt_irrefl _)

theorem acquired_created (apart : Apart s) {works : Nat → Bool} {n : Nat}
    (empty : ∀ pooled, ¬Pooled s name pooled) (some_ : ∃ i < K_CONSUMER_POOL_SIZE, works i = true) :
    Acquired s { s with
      kConsumerPools := Function.update s.kConsumerPools name (some ((List.range' (s.created + 1) n).map some))
      created := s.created + n + 1
      calls := Function.update s.calls thread (some ⟨name, some s.created⟩) } thread name works where
  apart := by
    have more : s.created ≤ s.created + n + 1 := by omega
    have old {kConsumer : Nat} (place : Place Nat) (before : At s place kConsumer) : ¬s.created ≤ kConsumer :=
      not_le.mpr (apart.created kConsumer place before)
    refine apart.moved (fun kConsumer => s.created ≤ kConsumer ∧ kConsumer < s.created + n + 1)
      (fun kConsumer => if kConsumer = s.created then .lent thread else .pooled name) ?_ ?_ more ?_
    · intro kConsumer place isThere
      cases place with
      | lent user =>
          rcases (lent_update rfl user kConsumer).mp isThere with ⟨rfl, _, same⟩ | ⟨_, before⟩
          · injection same with same
            injection same with _ own
            obtain rfl := Option.some.inj own
            exact .inl ⟨by omega, (if_pos rfl).symm⟩
          · exact .inr ⟨fun isNew => old (.lent user) before isNew.1, before⟩
      | pooled other =>
          rcases (pooled_update rfl other (some kConsumer)).mp isThere with ⟨rfl, member⟩ | ⟨_, before⟩
          · obtain ⟨isNew, inRange, same⟩ := List.mem_map.mp member
            obtain rfl := Option.some.inj same
            have bounds := List.mem_range'_1.mp inRange
            exact .inl ⟨by omega, (if_neg (by omega)).symm⟩
          · exact .inr ⟨fun isNew => old (.pooled other) before isNew.1, before⟩
      | closed => exact .inr ⟨fun isNew => old .closed isThere isNew.1, isThere⟩
    · exact fun kConsumer isNew => isNew.2
    · refine nodup_update apart rfl ?_
      rw [List.reduceOption, List.filterMap_map, Function.id_comp, List.filterMap_some]
      exact List.nodup_range'
  closed := rfl
  more := (Nat.le_add_right _ n).trans (Nat.le_succ _)
  calls := ⟨some s.created, rfl⟩
  held other kConsumer held := by
    rcases held with isPooled | ⟨user, lent⟩
    · rcases (pooled_update rfl other (some kConsumer)).mp isPooled with ⟨rfl, member⟩ | ⟨_, before⟩
      · obtain ⟨isNew, inRange, same⟩ := List.mem_map.mp member
        obtain rfl := Option.some.inj same
        have bounds := List.mem_range'_1.mp inRange
        exact .inr ⟨rfl, by omega, by dsimp only; omega⟩
      · exact .inl (.inl before)
    · rcases held_of_lent rfl lent with before | ⟨rfl, own⟩
      · exact .inl before
      · obtain rfl := Option.some.inj own
        exact .inr ⟨rfl, le_rfl, by dsimp only; omega⟩
  creates _ := ⟨empty, some_⟩

theorem getKafkaConsumerClient_of_fails {works : Nat → Bool} (empty : ∀ pooled, ¬Pooled s name pooled)
    (fails : ∀ i < K_CONSUMER_POOL_SIZE, works i = false) :
    getKafkaConsumerClient s name works = (none, s) := by
  have nothing : getKafkaConsumers s.created ((List.range K_CONSUMER_POOL_SIZE).map works) = [] := by
    rw [getKafkaConsumers_eq, List.range'_eq_nil_iff, List.count_eq_zero, List.mem_map]
    rintro ⟨i, member, isTrue⟩
    rw [fails i (List.mem_range.mp member)] at isTrue
    cases isTrue
  unfold getKafkaConsumerClient
  split
  · next pooled rest found => exact absurd ⟨_, found, List.mem_cons_self⟩ (empty pooled)
  · rw [nothing]
  · rw [nothing]

theorem acquired (apart : Apart s) (thread : Nat) (name : String) (works : Nat → Bool) :
    Acquired s (effect s (.acquire thread name works)) thread name works := by
  have got : effect s (.acquire thread name works) =
      { (getKafkaConsumerClient s name works).2 with
        calls := Function.update (getKafkaConsumerClient s name works).2.calls thread
          (some ⟨name, (getKafkaConsumerClient s name works).1⟩) } := rfl
  rw [got]
  rcases getKafkaConsumerClient_cases s name works with ⟨pooled, rest, found, is⟩ | ⟨empty, is | ⟨n, few, is⟩⟩
  · rw [is]
    exact acquired_pooled apart found works
  · rw [is]
    exact acquired_nothing apart works
  · rw [is]
    refine acquired_created apart empty ?_
    by_contra noneWorks
    have fails : ∀ i < K_CONSUMER_POOL_SIZE, works i = false := fun i isBelow =>
      Bool.eq_false_of_not_eq_true fun isTrue => noneWorks ⟨i, isBelow, isTrue⟩
    rw [getKafkaConsumerClient_of_fails empty fails] at is
    cases is

/-- What a call that releases its consumer, or null, does. -/
structure Released (s after : State Nat) (thread : Nat) : Prop where
  apart : Apart after
  closed : ∀ kConsumer ∈ s.closed, kConsumer ∈ after.closed
  created : after.created = s.created
  calls : after.calls = Function.update s.calls thread none
  held : ∀ other kConsumer, Held after other kConsumer → Held s other kConsumer

section Releasing
variable {kConsumer : Option Nat}

theorem lent_of_released {user x : Nat} (calls : after.calls = Function.update s.calls thread none)
    (lent : Lent after user x) : user ≠ thread ∧ Lent s user x := by
  rcases (lent_update calls user x).mp lent with ⟨_, _, impossible⟩ | before
  · cases impossible
  · exact before

theorem held_of_released {other : String} {x : Nat} (calls : after.calls = Function.update s.calls thread none)
    (lent : ∃ user, after.calls user = some ⟨other, some x⟩) : Held s other x := by
  obtain ⟨user, lent⟩ := lent
  rw [calls] at lent
  by_cases own : user = thread
  · rw [own, Function.update_self] at lent
    cases lent
  · rw [Function.update_of_ne own] at lent
    exact .inr ⟨user, lent⟩

theorem Apart.of_lent (apart : Apart s) (lent : s.calls thread = some ⟨name, kConsumer⟩) {x : Nat}
    (own : kConsumer = some x) (place : Place Nat) (isThere : At s place x) : place = .lent thread :=
  apart.one x place (.lent thread) isThere ⟨name, own ▸ lent⟩

theorem released_back (apart : Apart s) (lent : s.calls thread = some ⟨name, kConsumer⟩) {pool : List (Option Nat)}
    (found : s.kConsumerPools name = some pool) :
    Released s { s with
      kConsumerPools := Function.update s.kConsumerPools name (some (pool ++ [kConsumer]))
      calls := Function.update s.calls thread none } thread where
  apart := by
    refine apart.moved (fun x => kConsumer = some x) (fun _ => .pooled name) ?_ ?_ le_rfl ?_
    · intro x place isThere
      cases place with
      | lent user =>
          obtain ⟨other, before⟩ := lent_of_released rfl isThere
          refine .inr ⟨fun own => ?_, before⟩
          injection apart.of_lent lent own (.lent user) before with same
          exact other same
      | pooled other =>
          rcases (pooled_update rfl other (some x)).mp isThere with ⟨rfl, member⟩ | ⟨_, before⟩
          · rcases List.mem_append.mp member with before | last
            · refine .inr ⟨fun own => ?_, _, found, before⟩
              cases apart.of_lent lent own (.pooled other) ⟨_, found, before⟩
            · exact .inl ⟨(List.mem_singleton.mp last).symm, rfl⟩
          · refine .inr ⟨fun own => ?_, before⟩
            cases apart.of_lent lent own (.pooled other) before
      | closed =>
          refine .inr ⟨fun own => ?_, isThere⟩
          cases apart.of_lent lent own .closed isThere
    · exact fun x own => apart.created x (.lent thread) ⟨name, own ▸ lent⟩
    · refine nodup_update apart rfl ?_
      have nodup := apart.once name pool found
      rw [List.reduceOption_append, List.reduceOption_singleton]
      cases kConsumer with
      | none => rwa [Option.toList_none, List.append_nil]
      | some x =>
          rw [Option.toList_some, List.nodup_append_comm]
          refine List.nodup_cons.mpr ⟨fun member => ?_, nodup⟩
          have before : Pooled s name (some x) := ⟨_, found, List.reduceOption_mem_iff.mp member⟩
          cases apart.of_lent lent rfl (.pooled name) before
  closed _ isClosed := isClosed
  created := rfl
  calls := rfl
  held other x held := by
    rcases held with isPooled | isLent
    · rcases (pooled_update rfl other (some x)).mp isPooled with ⟨rfl, member⟩ | ⟨_, before⟩
      · rcases List.mem_append.mp member with before | last
        · exact .inl ⟨_, found, before⟩
        · exact .inr ⟨thread, (List.mem_singleton.mp last) ▸ lent⟩
      · exact .inl before
    · exact held_of_released rfl isLent

theorem released_closed (apart : Apart s) (lent : s.calls thread = some ⟨name, kConsumer⟩) :
    Released s { s with
      closed := kConsumer.toList ++ s.closed
      calls := Function.update s.calls thread none } thread where
  apart := by
    refine apart.moved (fun x => kConsumer = some x) (fun _ => .closed) ?_ ?_ le_rfl apart.once
    · intro x place isThere
      cases place with
      | lent user =>
          obtain ⟨other, before⟩ := lent_of_released rfl isThere
          refine .inr ⟨fun own => ?_, before⟩
          injection apart.of_lent lent own (.lent user) before with same
          exact other same
      | pooled other =>
          refine .inr ⟨fun own => ?_, isThere⟩
          cases apart.of_lent lent own (.pooled other) isThere
      | closed =>
          rcases List.mem_append.mp isThere with isNew | before
          · exact .inl ⟨Option.mem_toList.mp isNew, rfl⟩
          · refine .inr ⟨fun own => ?_, before⟩
            cases apart.of_lent lent own .closed before
    · exact fun x own => apart.created x (.lent thread) ⟨name, own ▸ lent⟩
  closed _ isClosed := List.mem_append_right _ isClosed
  created := rfl
  calls := rfl
  held other x held := by
    rcases held with isPooled | isLent
    · exact .inl isPooled
    · exact held_of_released rfl isLent

theorem released (apart : Apart s) (lent : s.calls thread = some ⟨name, kConsumer⟩) :
    Released s (effect s (.release thread)) thread := by
  have gave : effect s (.release thread) =
      { release s name kConsumer with
        calls := Function.update (release s name kConsumer).calls thread none } := by
    simp only [effect, lent]
  have closes : Released s { close s kConsumer with calls := Function.update (close s kConsumer).calls thread none }
      thread := by
    have closed := released_closed apart lent
    cases kConsumer with
    | none => exact closed
    | some x => exact closed
  rw [gave]
  unfold release
  cases found : s.kConsumerPools name with
  | none => exact closes
  | some pool =>
      dsimp only
      split
      · exact released_back apart lent found
      · exact closes

end Releasing

theorem not_at_start (place : Place Nat) (kConsumer : Nat) : ¬At start place kConsumer := by
  intro isThere
  cases place with
  | lent user =>
      obtain ⟨_, impossible⟩ := isThere
      cases impossible
  | pooled name =>
      obtain ⟨_, impossible, _⟩ := isThere
      cases impossible
  | closed => cases isThere

theorem apart_start : Apart start where
  one kConsumer place _ isThere := absurd isThere (not_at_start place kConsumer)
  created kConsumer place isThere := absurd isThere (not_at_start place kConsumer)
  once _ _ impossible := by cases impossible

theorem not_held_start (name : String) (kConsumer : Nat) : ¬Held start name kConsumer := by
  rintro (pooled | ⟨user, lent⟩)
  · exact not_at_start (.pooled name) kConsumer pooled
  · exact not_at_start (.lent user) kConsumer ⟨name, lent⟩

end Places

end Zms.Collector.KConsumerPoolManager
