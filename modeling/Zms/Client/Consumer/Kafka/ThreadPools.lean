import Mathlib
import Zms.Client.Consumer.Kafka.Restart

/-! Which thread settings the pools of a Kafka consumer can be built from, at every start. -/

set_option autoImplicit false

namespace Zms.Client.Consumer.Kafka

open Zms.Transition

/-- The two settings, decimals where they are there. -/
structure ThreadSettings where
  consumeThreadMin : Option Nat
  consumeThreadMax : Option Nat
  deriving DecidableEq, Repr

/-- `Integer.valueOf` of a decimal; `none` is its exception. -/
def integerValueOf (decimal : Nat) : Option Int := if decimal < 2 ^ 31 then some decimal else none

def ThreadSettings.read (settings : ThreadSettings) : Option CustomizedProperties := do
  let consumeThreadMin ← settings.consumeThreadMin.mapM integerValueOf
  let consumeThreadMax ← settings.consumeThreadMax.mapM integerValueOf
  return { consumeThreadMin, consumeThreadMax }

def ThreadSettings.pools (settings : ThreadSettings) (isOrderly : Bool) (processors : Nat) :
    Option (List ThreadPoolExecutor) :=
  settings.read.bind (addUserDefinedProperties isOrderly processors)

structure ThreadSettings.Positive (settings : ThreadSettings) : Prop where
  min : ∀ least ∈ settings.consumeThreadMin, 0 < least
  max : ∀ most ∈ settings.consumeThreadMax, 0 < most
  ordered : ∀ least ∈ settings.consumeThreadMin, ∀ most ∈ settings.consumeThreadMax, least ≤ most

/-- The settings are integers, and a maximum without a minimum is no less than the number of
processors, unless every partition has its own pool. -/
structure ThreadSettings.Allowed (settings : ThreadSettings) (isOrderly : Bool) (processors : Nat) : Prop where
  min : ∀ least ∈ settings.consumeThreadMin, least < 2 ^ 31
  max : ∀ most ∈ settings.consumeThreadMax, most < 2 ^ 31
  default : isOrderly = true ∨ settings.consumeThreadMin.isSome ∨
    ∀ most ∈ settings.consumeThreadMax, processors ≤ most

def Sound (pools : List ThreadPoolExecutor) : Prop :=
  pools ≠ [] ∧ ∀ pool ∈ pools, pool.corePoolSize ≤ pool.maximumPoolSize ∧ 0 < pool.maximumPoolSize

section Building
variable {settings : ThreadSettings} {isOrderly : Bool} {processors : Nat}

theorem mapM_integerValueOf_eq_some_iff {setting : Option Nat} {value : Option Int} :
    setting.mapM integerValueOf = some value ↔
      (∀ decimal ∈ setting, decimal < 2 ^ 31) ∧ value = setting.map Int.ofNat := by
  cases setting with
  | none => simp [eq_comm]
  | some decimal =>
    by_cases small : decimal < 2 ^ 31 <;> simp [integerValueOf, eq_comm]

theorem read_eq_some_iff {properties : CustomizedProperties} : settings.read = some properties ↔
    (∀ least ∈ settings.consumeThreadMin, least < 2 ^ 31) ∧ (∀ most ∈ settings.consumeThreadMax, most < 2 ^ 31) ∧
      properties = ⟨settings.consumeThreadMin.map Int.ofNat, settings.consumeThreadMax.map Int.ofNat⟩ := by
  unfold ThreadSettings.read
  simp only [Option.bind_eq_bind, Option.bind_eq_some_iff, mapM_integerValueOf_eq_some_iff, Option.pure_def,
    Option.some.injEq]
  constructor
  · rintro ⟨min, ⟨minSmall, rfl⟩, max, ⟨maxSmall, rfl⟩, rfl⟩
    exact ⟨minSmall, maxSmall, rfl⟩
  · rintro ⟨minSmall, maxSmall, rfl⟩
    exact ⟨_, ⟨minSmall, rfl⟩, _, ⟨maxSmall, rfl⟩, rfl⟩

/-- The numbers that are read, for settings that are integers. -/
def ThreadSettings.properties (settings : ThreadSettings) : CustomizedProperties :=
  ⟨settings.consumeThreadMin.map Int.ofNat, settings.consumeThreadMax.map Int.ofNat⟩

theorem threadsNumMin_pos (positive : settings.Positive) (processor : 1 ≤ processors) :
    0 < threadsNumMin processors settings.properties := by
  unfold threadsNumMin ThreadSettings.properties
  cases min : settings.consumeThreadMin with
  | none =>
    have some : 0 < processors := processor
    simpa using some
  | some least => simpa using positive.min least min

theorem threadsNumMax_pos (positive : settings.Positive) (processor : 1 ≤ processors) :
    0 < threadsNumMax processors settings.properties := by
  have least := threadsNumMin_pos positive processor
  unfold threadsNumMax
  cases max : settings.consumeThreadMax with
  | none =>
    simp only [ThreadSettings.properties, max, Option.map_none, Option.getD_none] at least ⊢
    split
    · exact least
    · omega
  | some most =>
    simp only [ThreadSettings.properties, max, Option.map_some, Option.getD_some]
    exact Int.ofNat_lt.mpr (positive.max most max)

theorem threadsNumMin_le_iff (positive : settings.Positive) :
    threadsNumMin processors settings.properties ≤ threadsNumMax processors settings.properties ↔
      settings.consumeThreadMin.isSome ∨ ∀ most ∈ settings.consumeThreadMax, processors ≤ most := by
  cases max : settings.consumeThreadMax with
  | none =>
    -- the default maximum is never below the minimum
    have below : threadsNumMin processors settings.properties ≤ threadsNumMax processors settings.properties := by
      unfold threadsNumMax
      simp only [ThreadSettings.properties, max, Option.map_none, Option.getD_none]
      split
      · exact le_refl _
      · omega
    simp [below]
  | some most =>
    have isMax : threadsNumMax processors settings.properties = most := by
      simp [threadsNumMax, ThreadSettings.properties, max]
    rw [isMax]
    cases min : settings.consumeThreadMin with
    | none => simp [threadsNumMin, ThreadSettings.properties, min]
    | some least =>
      have ordered := positive.ordered least min most max
      simp [threadsNumMin, ThreadSettings.properties, min, ordered]

/-- With integers, the constructor refuses only a default minimum above the maximum. -/
theorem addUserDefinedProperties_built_iff (positive : settings.Positive) (processor : 1 ≤ processors) :
    (∃ pools, addUserDefinedProperties isOrderly processors settings.properties = some pools ∧ Sound pools) ↔
      isOrderly = true ∨ settings.consumeThreadMin.isSome ∨
        ∀ most ∈ settings.consumeThreadMax, processors ≤ most := by
  have least := threadsNumMin_pos positive processor
  have most := threadsNumMax_pos positive processor
  rw [← threadsNumMin_le_iff positive]
  unfold addUserDefinedProperties
  cases isOrderly with
  | true =>
    refine iff_of_true ⟨_, rfl, ?_, ?_⟩ (.inl rfl)
    · simp only [ne_eq, List.replicate_eq_nil_iff]
      omega
    · intro pool member
      rw [List.eq_of_mem_replicate member]
      exact ⟨Nat.le_refl 1, Nat.one_pos⟩
  | false =>
    simp only [Bool.not_false, if_true, Bool.false_eq_true, false_or]
    constructor
    · rintro ⟨pools, built, -⟩
      split at built
      · cases built
      · omega
    · intro ordered
      rw [if_neg (by omega)]
      refine ⟨_, rfl, by simp, fun pool member => ?_⟩
      rw [List.mem_singleton.mp member]
      show _ ≤ Int.toNat _ ∧ 0 < Int.toNat _
      simp only [ThreadPoolExecutor.new]
      omega

theorem pools_built_iff (positive : settings.Positive) (processor : 1 ≤ processors) :
    (∃ pools, settings.pools isOrderly processors = some pools ∧ Sound pools) ↔
      settings.Allowed isOrderly processors := by
  have built := @addUserDefinedProperties_built_iff settings isOrderly processors positive processor
  constructor
  · rintro ⟨pools, isPools, sound⟩
    obtain ⟨properties, read, adds⟩ := Option.bind_eq_some_iff.mp isPools
    obtain ⟨min, max, rfl⟩ := read_eq_some_iff.mp read
    exact ⟨min, max, built.mp ⟨pools, adds, sound⟩⟩
  · rintro ⟨min, max, default⟩
    obtain ⟨pools, adds, sound⟩ := built.mpr default
    refine ⟨pools, ?_, sound⟩
    rw [ThreadSettings.pools, read_eq_some_iff.mpr ⟨min, max, rfl⟩]
    exact adds

end Building

/-- `start` begins only when every earlier poll thread has terminated. -/
def AfterJoin (s : State) : Action → Prop
  | .consumerStart _ => ∀ t, t < s.threadCount → (s.threads t).pc = .terminated
  | _ => True

instance (s : State) (a : Action) : Decidable (AfterJoin s a) := by
  apply Action.casesOn (motive := fun a => Decidable (AfterJoin s a)) a <;> intros <;>
    dsimp only [AfterJoin] <;> infer_instance

/-- A consumer with the settings. -/
def ThreadSettings.config (settings : ThreadSettings) (isOrderly : Bool) (processors : Nat) (batchListener : Bool) :
    Config :=
  ⟨isOrderly, settings.read, processors, batchListener⟩

/-- Every partition has an executor. -/
def Routed (s : State) : Prop := ∀ partition : Nat, ∃ p, s.executors[partition % s.executors.length]? = some p

/-- The executors are there from the start on, until the poll thread fails or the proxy is
shut down. -/
structure Equipped (config : Config) (s : State) : Prop where
  builds : s.control = .sleeping → s.running = false →
    ∃ pools, (machine config).guard s (.consumerStart pools) ∧ Sound pools
  starting : s.control = .registering ∨ s.control = .spawning → Routed s
  awaiting : ∀ t, s.control = .awaiting t → (s.threads t).err = false → Routed s
  started : s.started = true → (s.threads (s.threadCount - 1)).err = false → Routed s

theorem routed_of_ne {s : State} (nonempty : s.executors ≠ []) : Routed s := by
  intro partition
  have inside : partition % s.executors.length < s.executors.length :=
    Nat.mod_lt _ (List.length_pos_of_ne_nil nonempty)
  exact ⟨_, List.getElem?_eq_getElem inside⟩

theorem executors_of_built {settings : ThreadSettings} {isOrderly : Bool} {processors : Nat}
    {pools : List ThreadPoolExecutor} (built : settings.pools isOrderly processors = some pools)
    (batchListener : Bool) : (settings.config isOrderly processors batchListener).executors = some pools := by
  obtain ⟨properties, read, adds⟩ := Option.bind_eq_some_iff.mp built
  rw [Config.executors, ThreadSettings.config, read]
  exact adds

theorem joined_of_afterJoin {config : Config} {pools : List ThreadPoolExecutor}
    (executors : config.executors = some pools) (nonempty : pools ≠ []) {s : State}
    (reached : ((machine config).restrict AfterJoin).Reachable s) :
    ((machine config).restrict State.Joined).Reachable s := by
  apply reached.invariant
  · exact fun s initial => .start initial
  · rintro s a earlier ⟨enabled, join⟩
    refine .step earlier ⟨enabled, ?_⟩
    cases a with
    | consumerStart added =>
      obtain ⟨-, -, isExecutors⟩ := enabled
      obtain rfl := Option.some.inj (executors.symm.trans isExecutors)
      exact ⟨nonempty, join⟩
    | _ => trivial

namespace Run

/-- Two executors of its own for each of two processors, with neither setting. -/
def unset : ThreadSettings := ⟨none, none⟩

end Run

end Zms.Client.Consumer.Kafka
