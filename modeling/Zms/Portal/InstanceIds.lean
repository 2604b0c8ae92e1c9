import Mathlib
import Zms.Portal.Assemble
import Zms.Registry.Unused
import Zms.Text.Separated

/-! `assembleAddInstance` of Kafka and of ZooKeeper: the ids that new instances of a service
get. `none` is an exception, or a loop that has not ended. -/

set_option autoImplicit false

namespace Zms.Portal.AddInstance

open Zms.Registry Zms.Portal.Serve

structure AddInstanceAssembleDTO where
  serviceId : Int
  instanceName : String
  instanceId : Int
  propertyId : Option Int
  currentValue : Option String
  deriving DecidableEq

def toInt32 (n : Int) : Int := (n + 2 ^ 31) % 2 ^ 32 - 2 ^ 31

def increment (id : Int) : Int := toInt32 (id + 1)

namespace Kafka

def withId (serviceId : Int) (brokerIdPropertyId : Option Int) (instanceId brokerId : Int) : AddInstanceAssembleDTO where
  serviceId := serviceId
  instanceName := "broker-" ++ toString brokerId
  instanceId := instanceId
  propertyId := brokerIdPropertyId
  currentValue := some (toString brokerId)

/-- The loop over the new instances. -/
def addFrom (serviceId : Int) (brokerIdPropertyId : Option Int) : Int → List Int → List AddInstanceAssembleDTO
  | _, [] => []
  | brokerId, instanceId :: rest =>
    withId serviceId brokerIdPropertyId instanceId (increment brokerId) ::
      addFrom serviceId brokerIdPropertyId (increment brokerId) rest

/-- `stored` is what `listByServiceIdAndPropertyId` has of the broker ids. -/
def assembleAddInstance (serviceId : Int) (brokerIdPropertyId : Option Int) (stored : List String)
    (instanceIds : List Int) : Option (List AddInstanceAssembleDTO) := do
  let brokerIds ← stored.mapM parseInt
  let brokerId := (brokerIds.mergeSort (· ≤ ·)).getLast?.getD 0
  return addFrom serviceId brokerIdPropertyId brokerId instanceIds

end Kafka

namespace Zookeeper

def withId (serviceId : Int) (myIdPropertyId : Option Int) (instanceId myId : Int) : AddInstanceAssembleDTO where
  serviceId := serviceId
  instanceName := "instance-" ++ toString myId
  instanceId := instanceId
  propertyId := myIdPropertyId
  currentValue := some (toString myId)

/-- The loop over the new instances; `fuel` bounds the rounds of each loop within. -/
def addFrom (fuel : ℕ) (serviceId : Int) (myIdPropertyId : Option Int) (myIds : List Int) :
    Int → List Int → Option (List AddInstanceAssembleDTO)
  | _, [] => some []
  | myId, instanceId :: rest => do
    let myId ← nextUnused increment myIds fuel myId
    let later ← addFrom fuel serviceId myIdPropertyId myIds myId rest
    return withId serviceId myIdPropertyId instanceId myId :: later

def assembleAddInstance (fuel : ℕ) (serviceId : Int) (myIdPropertyId : Option Int) (stored : List String)
    (instanceIds : List Int) : Option (List AddInstanceAssembleDTO) := do
  let myIds ← stored.mapM parseInt
  addFrom fuel serviceId myIdPropertyId (myIds.mergeSort (· ≤ ·)) 0 instanceIds

end Zookeeper

/-- What `addConsumeInstanceConfig` stores of the property, in place of the values that came with
the new instances. -/
def currentValues (added : List AddInstanceAssembleDTO) : List String :=
  added.filterMap fun dto => dto.currentValue.filter (· ≠ "")

/-- One addition after the other: what was stored before each, and what it added. -/
def additions (assemble : List String → List Int → Option (List AddInstanceAssembleDTO)) :
    List String → List (List Int) → Option (List (List String × List AddInstanceAssembleDTO))
  | _, [] => some []
  | stored, instanceIds :: rest => do
    let added ← assemble stored instanceIds
    let later ← additions assemble (stored ++ currentValues added) rest
    return (stored, added) :: later

def idsOf (stored : List String) : List Int := stored.filterMap parseInt

/-- The new instances have the ids, one each. -/
structure Gives (instanceIds : List Int) (added : List AddInstanceAssembleDTO) (ids : List Int) : Prop where
  instances : added.map AddInstanceAssembleDTO.instanceId = instanceIds
  values : added.map AddInstanceAssembleDTO.currentValue = ids.map fun id => some (toString id)

/-- No id is stored already or that of another new instance. -/
def Fresh (stored : List String) (ids : List Int) : Prop := ids.Nodup ∧ ∀ id ∈ ids, id ∉ idsOf stored

def Assigns (stored : List String) (instanceIds : List Int) (added : List AddInstanceAssembleDTO) : Prop :=
  ∃ ids, Gives instanceIds added ids ∧ Fresh stored ids

/-! Ids as texts. -/

/-- What `parseInt` makes of the digits, once it has read the sign. -/
def signed (sign : Int) (digits : List Char) : Option Int :=
  let value := sign * (digits.foldl (fun n c => 10 * n + (c.toNat - '0'.toNat)) 0 : Nat)
  if digits ≠ [] ∧ digits.all Char.isDigit ∧ -2 ^ 31 ≤ value ∧ value < 2 ^ 31 then some value else none

theorem parseInt_minus {text : String} {digits : List Char} (shape : text.toList = '-' :: digits) :
    parseInt text = signed (-1) digits := by
  unfold parseInt
  rw [shape]
  rfl

theorem parseInt_unsigned {text : String} (noMinus : text.toList.head? ≠ some '-')
    (noPlus : text.toList.head? ≠ some '+') : parseInt text = signed 1 text.toList := by
  unfold parseInt
  generalize text.toList = chars at noMinus noPlus
  cases chars with
  | nil => rfl
  | cons c rest =>
    split
    next sign digits read =>
      split at read
      · next shape => exact absurd (congrArg List.head? shape) noMinus
      · next shape => exact absurd (congrArg List.head? shape) noPlus
      · obtain ⟨rfl, rfl⟩ := Prod.mk.inj read
        rfl

theorem signed_toDigits {sign : Int} {k : ℕ} (low : -2 ^ 31 ≤ sign * k) (high : sign * k < 2 ^ 31) :
    signed sign (Nat.toDigits 10 k) = some (sign * k) := by
  have value : (Nat.toDigits 10 k).foldl (fun n c => 10 * n + (c.toNat - '0'.toNat)) 0 = k :=
    Nat.ofDigitChars_ten_toDigits
  have digits : (Nat.toDigits 10 k).all Char.isDigit = true :=
    List.all_eq_true.mpr fun c member => Nat.isDigit_of_mem_toDigits (by decide) (by decide) member
  unfold signed
  rw [value]
  exact if_pos ⟨Nat.toDigits_ne_nil, digits, low, high⟩

theorem toList_natRepr (k : ℕ) : k.repr.toList = Nat.toDigits 10 k := by
  rw [Nat.repr_eq_ofList_toDigits, String.toList_ofList]

theorem parseInt_toString {n : Int} (low : -2 ^ 31 ≤ n) (high : n < 2 ^ 31) : parseInt (toString n) = some n := by
  cases n with
  | ofNat k =>
    have shape : (toString (Int.ofNat k)).toList = Nat.toDigits 10 k := toList_natRepr k
    have noSign : ∀ c, c.isDigit = false → (toString (Int.ofNat k)).toList.head? ≠ some c := by
      intro c noDigit isHead
      have digit := Nat.isDigit_of_mem_toDigits (by decide) (by decide) (shape ▸ List.mem_of_mem_head? isHead)
      exact Bool.noConfusion (noDigit.symm.trans digit)
    rw [parseInt_unsigned (noSign '-' rfl) (noSign '+' rfl), shape]
    have value : (1 : Int) * k = Int.ofNat k := Int.one_mul _
    rw [signed_toDigits (value ▸ low) (value ▸ high), value]
  | negSucc k =>
    have shape : (toString (Int.negSucc k)).toList = '-' :: Nat.toDigits 10 (k + 1) := by
      have chars : (toString (Int.negSucc k)).toList = '-' :: (k + 1).repr.toList := String.toList_append
      rw [chars, toList_natRepr]
    have same : Int.negSucc k = -1 * ((k + 1 : ℕ) : Int) := by omega
    rw [parseInt_minus shape, same]
    exact signed_toDigits (by omega) (by omega)

theorem bounds_of_parseInt {text : String} {n : Int} (read : parseInt text = some n) : -2 ^ 31 ≤ n ∧ n < 2 ^ 31 := by
  unfold parseInt at read
  split at read
  obtain ⟨⟨-, -, low, high⟩, value⟩ := Option.ite_none_right_eq_some.mp read
  rw [← Option.some.inj value]
  exact ⟨low, high⟩

theorem bounds_of_mem_idsOf {stored : List String} {id : Int} (member : id ∈ idsOf stored) :
    -2 ^ 31 ≤ id ∧ id < 2 ^ 31 := by
  obtain ⟨text, -, read⟩ := List.mem_filterMap.mp member
  exact bounds_of_parseInt read

/-- The stored texts are all ids. -/
def Readable (stored : List String) : Prop := ∀ text ∈ stored, (parseInt text).isSome

theorem mapM_parseInt {stored : List String} (readable : Readable stored) :
    stored.mapM parseInt = some (idsOf stored) := by
  induction stored with
  | nil => rfl
  | cons text rest ih =>
    obtain ⟨id, read⟩ := Option.isSome_iff_exists.mp (readable text List.mem_cons_self)
    have others := ih fun other member => readable other (List.mem_cons_of_mem _ member)
    have cons : idsOf (text :: rest) = id :: idsOf rest := List.filterMap_cons_some read
    rw [List.mapM_cons, read, others, cons]
    rfl

/-! Counting up. -/

theorem bounds_toInt32 (n : Int) : -2 ^ 31 ≤ toInt32 n ∧ toInt32 n < 2 ^ 31 := by
  unfold toInt32
  omega

theorem toInt32_of_bounds {n : Int} (low : -2 ^ 31 ≤ n) (high : n < 2 ^ 31) : toInt32 n = n := by
  unfold toInt32
  omega

theorem increment_toInt32 (n : Int) : increment (toInt32 n) = toInt32 (n + 1) := by
  unfold increment toInt32
  omega

theorem iterate_increment (n : Int) (k : ℕ) : increment^[k] (toInt32 n) = toInt32 (n + k) := by
  induction k generalizing n with
  | zero => simp
  | succ k ih =>
    rw [Function.iterate_succ_apply, increment_toInt32, ih]
    congr 1
    omega

theorem iterate_increment_ne (n : Int) {i j : ℕ} (before : i < j) (upto : j < 2 ^ 32) :
    increment^[i] (toInt32 n) ≠ increment^[j] (toInt32 n) := by
  rw [iterate_increment, iterate_increment]
  unfold toInt32
  omega

theorem eq_of_gives {instanceIds : List Int} {added : List AddInstanceAssembleDTO} {ids ids' : List Int}
    (gives : Gives instanceIds added ids) (gives' : Gives instanceIds added ids') : ids = ids' := by
  have injective : Function.Injective fun id : Int => some (toString id) :=
    fun a b same => Int.repr_injective (Option.some.inj same)
  exact List.map_injective_iff.mpr injective (gives.values.symm.trans gives'.values)

theorem currentValues_of_gives {instanceIds : List Int} {added : List AddInstanceAssembleDTO} {ids : List Int}
    (gives : Gives instanceIds added ids) : currentValues added = ids.map toString := by
  have nonempty : ∀ id : Int, id.repr ≠ "" := by
    intro id empty
    cases id with
    | ofNat k => exact Nat.repr_ne_empty empty
    | negSucc k =>
      have chars : (Int.negSucc k).repr.toList = '-' :: (k + 1).repr.toList := String.toList_append
      rw [empty] at chars
      cases chars
  have mapped : currentValues added =
      (added.map AddInstanceAssembleDTO.currentValue).filterMap fun value => value.filter (· ≠ "") := by
    rw [List.filterMap_map]
    rfl
  rw [mapped, gives.values, List.filterMap_map]
  refine (List.filterMap_congr fun id _ => ?_).trans (congrFun (List.filterMap_eq_map (f := toString)) ids)
  simp [nonempty id]

/-! Kafka continues after the largest id. -/

/-- No two stored ids are so far apart that the ids of that many new instances come round to the
smaller one. -/
def Narrow (stored : List String) (count : ℕ) : Prop :=
  ∀ a ∈ idsOf stored, ∀ b ∈ idsOf stored, a - b + count < 2 ^ 32

namespace Kafka
variable {serviceId : Int} {propertyId : Option Int}

def following (n : Int) (count : ℕ) : List Int := (List.range count).map fun k : ℕ => toInt32 (n + 1 + k)

theorem following_succ (n : Int) (count : ℕ) :
    following n (count + 1) = toInt32 (n + 1) :: following (n + 1) count := by
  unfold following
  rw [List.range_succ_eq_map, List.map_cons, List.map_map]
  congr 1
  · simp
  · refine List.map_congr_left fun k _ => congrArg toInt32 ?_
    rw [Nat.cast_succ]
    omega

theorem gives_addFrom (n : Int) (instanceIds : List Int) : Gives instanceIds
    (addFrom serviceId propertyId (toInt32 n) instanceIds) (following n instanceIds.length) := by
  induction instanceIds generalizing n with
  | nil => exact ⟨rfl, rfl⟩
  | cons instanceId rest ih =>
    obtain ⟨instances, values⟩ := ih (n + 1)
    constructor
    · rw [addFrom, increment_toInt32, List.map_cons, instances]
      rfl
    · rw [addFrom, increment_toInt32, List.map_cons, values, List.length_cons, following_succ]
      rfl

theorem last_spec (ids : List Int) :
    (ids = [] ∧ (ids.mergeSort (· ≤ ·)).getLast? = none) ∨
    ∃ last ∈ ids, (ids.mergeSort (· ≤ ·)).getLast? = some last ∧ ∀ id ∈ ids, id ≤ last := by
  have perm := List.mergeSort_perm ids (· ≤ ·)
  have ordered : (ids.mergeSort (· ≤ ·)).Pairwise fun a b => decide (a ≤ b) = true :=
    List.pairwise_mergeSort (by simp; omega) (by simp; omega) ids
  rcases List.eq_nil_or_concat' (ids.mergeSort (· ≤ ·)) with empty | ⟨init, last, split⟩
  · exact .inl ⟨List.Perm.eq_nil (empty ▸ perm.symm), by rw [empty]; rfl⟩
  · refine .inr ⟨last, perm.mem_iff.mp (by simp [split]), by simp [split], fun id member => ?_⟩
    rw [split, List.pairwise_append] at ordered
    have inSorted : id ∈ init ++ [last] := split ▸ perm.mem_iff.mpr member
    rcases List.mem_append.mp inSorted with early | isLast
    · exact of_decide_eq_true (ordered.2.2 id early last (List.mem_singleton_self last))
    · exact (List.mem_singleton.mp isLast).le

theorem assigns_iff {stored : List String} (readable : Readable stored) {instanceIds : List Int}
    (small : instanceIds.length < 2 ^ 31) :
    ∃ added ids, assembleAddInstance serviceId propertyId stored instanceIds = some added ∧
      Gives instanceIds added ids ∧ (∀ id ∈ ids, -2 ^ 31 ≤ id ∧ id < 2 ^ 31) ∧
      (Assigns stored instanceIds added ↔ Narrow stored instanceIds.length) := by
  obtain ⟨last, starts, low, high, lastOf⟩ : ∃ last, ((idsOf stored).mergeSort (· ≤ ·)).getLast?.getD 0 = last ∧
      -2 ^ 31 ≤ last ∧ last < 2 ^ 31 ∧ ∀ id ∈ idsOf stored, last ∈ idsOf stored ∧ id ≤ last := by
    rcases last_spec (idsOf stored) with ⟨empty, none⟩ | ⟨last, member, some, largest⟩
    · exact ⟨0, by rw [none]; rfl, by omega, by omega, fun id member => absurd (empty ▸ member) List.not_mem_nil⟩
    · obtain ⟨low, high⟩ := bounds_of_mem_idsOf member
      exact ⟨last, by rw [some]; rfl, low, high, fun id inStored => ⟨member, largest id inStored⟩⟩
  have gives :
      Gives instanceIds (addFrom serviceId propertyId last instanceIds) (following last instanceIds.length) := by
    have fromLast := @gives_addFrom serviceId propertyId last instanceIds
    rwa [toInt32_of_bounds low high] at fromLast
  refine ⟨addFrom serviceId propertyId last instanceIds, following last instanceIds.length, ?_, gives, ?_, ?_⟩
  · rw [assembleAddInstance, mapM_parseInt readable, Option.bind_eq_bind, Option.bind_some, starts]
    rfl
  · intro id member
    obtain ⟨k, -, rfl⟩ := List.mem_map.mp member
    exact bounds_toInt32 _
  · constructor
    · rintro ⟨ids, gives', -, unused⟩ a inA b inB
      by_contra wide
      obtain ⟨lowB, highB⟩ := bounds_of_mem_idsOf inB
      have upto := (lastOf a inA).2
      -- the smaller id comes up again, that many ids after the last one
      obtain ⟨k, back⟩ := Int.eq_ofNat_of_zero_le (show 0 ≤ b - last + 2 ^ 32 - 1 by omega)
      have again : toInt32 (last + 1 + k) = b := by unfold toInt32; omega
      have listed : b ∈ following last instanceIds.length :=
        List.mem_map.mpr ⟨k, List.mem_range.mpr (by omega), again⟩
      exact unused b (eq_of_gives gives' gives ▸ listed) inB
    · intro narrow
      refine ⟨_, gives, ?_, ?_⟩
      · refine List.Nodup.map_on (fun i inI j inJ same => ?_) List.nodup_range
        rw [List.mem_range] at inI inJ
        unfold toInt32 at same
        omega
      · intro id member inStored
        obtain ⟨k, inRange, rfl⟩ := List.mem_map.mp member
        rw [List.mem_range] at inRange
        obtain ⟨isStored, upto⟩ := lastOf _ inStored
        have near := narrow last isStored _ inStored
        unfold toInt32 at near upto
        omega

end Kafka

/-! ZooKeeper looks for gaps. -/

namespace Zookeeper
variable {serviceId : Int} {propertyId : Option Int} {fuel : ℕ} {myIds : List Int}

/-- The loop over the new instances, from the numbers that lie ahead. -/
theorem addFrom_spec {room : ℕ} {myId : Int} {remaining : List Int} (ahead : Ahead increment myIds myId room remaining)
    (enough : remaining.length < fuel) (instanceIds : List Int) (fits : instanceIds.length + remaining.length ≤ room) :
    ∃ (added : List AddInstanceAssembleDTO) (steps : List ℕ),
      addFrom fuel serviceId propertyId myIds myId instanceIds = some added ∧
      Gives instanceIds added (steps.map fun d => increment^[d] myId) ∧ steps.Pairwise (· < ·) ∧
      ∀ d ∈ steps, 1 ≤ d ∧ d ≤ room ∧ increment^[d] myId ∉ myIds := by
  induction instanceIds generalizing room myId remaining with
  | nil => exact ⟨[], [], rfl, ⟨rfl, rfl⟩, List.Pairwise.nil, nofun⟩
  | cons instanceId rest ih =>
    rw [List.length_cons] at fits
    obtain ⟨d, remaining', found, positive, upto, unused, later, met⟩ := nextUnused_spec ahead enough (by omega)
    obtain ⟨added, steps, adds, gives, ordered, each⟩ := ih later (by omega) (by omega)
    have shifted : ∀ e, increment^[e] (increment^[d] myId) = increment^[e + d] myId :=
      fun e => (Function.iterate_add_apply increment e d myId).symm
    refine ⟨withId serviceId propertyId instanceId (increment^[d] myId) :: added, d :: steps.map (· + d), ?_, ?_, ?_, ?_⟩
    · rw [addFrom, found, Option.bind_eq_bind, Option.bind_some, adds]
      rfl
    · constructor
      · rw [List.map_cons, gives.instances]
        rfl
      · rw [List.map_cons, gives.values]
        simp only [List.map_cons, List.map_map, Function.comp_def, shifted]
        rfl
    · rw [List.pairwise_cons, List.pairwise_map]
      refine ⟨fun e member => ?_, ordered.imp fun before => Nat.add_lt_add_right before d⟩
      obtain ⟨e, inSteps, rfl⟩ := List.mem_map.mp member
      exact Nat.lt_add_of_pos_left (each e inSteps).1
    · intro e member
      rcases List.mem_cons.mp member with rfl | member
      · exact ⟨positive, upto, unused⟩
      · obtain ⟨e, inSteps, rfl⟩ := List.mem_map.mp member
        obtain ⟨positiveStep, uptoStep, unusedStep⟩ := each e inSteps
        exact ⟨by omega, by omega, shifted e ▸ unusedStep⟩

theorem assigns {stored : List String} (readable : Readable stored) {instanceIds : List Int}
    (small : stored.length + instanceIds.length < 2 ^ 31) (enough : 2 ^ 31 ≤ fuel) :
    ∃ added ids, assembleAddInstance fuel serviceId propertyId stored instanceIds = some added ∧
      Gives instanceIds added ids ∧ (∀ id ∈ ids, -2 ^ 31 ≤ id ∧ id < 2 ^ 31) ∧ Assigns stored instanceIds added := by
  have sorted := List.mergeSort_perm (idsOf stored) (· ≤ ·)
  have count : ((idsOf stored).mergeSort (· ≤ ·)).length ≤ stored.length := by
    rw [sorted.length_eq]
    exact List.length_filterMap_le _ _
  have ahead : Ahead increment ((idsOf stored).mergeSort (· ≤ ·)) (toInt32 0) (2 ^ 32 - 1)
      ((idsOf stored).mergeSort (· ≤ ·)) := by
    refine Ahead.start fun i j before upto => iterate_increment_ne 0 before ?_
    omega
  have rounds : ((idsOf stored).mergeSort (· ≤ ·)).length < fuel := by omega
  obtain ⟨added, steps, adds, gives, ordered, each⟩ :=
    @addFrom_spec serviceId propertyId _ _ _ _ _ ahead rounds instanceIds (by omega)
  refine ⟨added, _, ?_, gives, ?_, _, gives, ?_, ?_⟩
  · rw [assembleAddInstance, mapM_parseInt readable]
    exact adds
  · intro id member
    obtain ⟨d, -, rfl⟩ := List.mem_map.mp member
    rw [iterate_increment]
    exact bounds_toInt32 _
  · refine List.pairwise_map.mpr (ordered.imp_of_mem fun _ inSteps before => ?_)
    have upto := (each _ inSteps).2.1
    refine iterate_increment_ne 0 before ?_
    omega
  · intro id member inStored
    obtain ⟨d, inSteps, rfl⟩ := List.mem_map.mp member
    exact (each d inSteps).2.2 (sorted.mem_iff.mpr inStored)

end Zookeeper

/-! Any number of additions. -/

/-- The rows are ids, and there are at most as many of them as row ids, those of the additions
included. -/
def Fits (stored : List String) (batches : List (List Int)) : Prop :=
  Readable stored ∧ stored.length + (batches.map List.length).sum < 2 ^ 31

theorem Fits.next {stored : List String} {instanceIds : List Int} {rest : List (List Int)}
    (fits : Fits stored (instanceIds :: rest)) {added : List AddInstanceAssembleDTO} {ids : List Int}
    (gives : Gives instanceIds added ids) (bounded : ∀ id ∈ ids, -2 ^ 31 ≤ id ∧ id < 2 ^ 31) :
    Fits (stored ++ currentValues added) rest := by
  have values := currentValues_of_gives gives
  have count : (currentValues added).length = instanceIds.length := by
    have sameLength := congrArg List.length gives.values
    simp only [List.length_map] at sameLength
    rw [values, List.length_map, ← sameLength, ← gives.instances, List.length_map]
  constructor
  · intro text member
    rcases List.mem_append.mp member with old | new
    · exact fits.1 text old
    · rw [values] at new
      obtain ⟨id, inIds, rfl⟩ := List.mem_map.mp new
      rw [parseInt_toString (bounded id inIds).1 (bounded id inIds).2]
      rfl
  · have room := fits.2
    rw [List.map_cons, List.sum_cons] at room
    rw [List.length_append, count]
    omega

theorem exists_additions {assemble : List String → List Int → Option (List AddInstanceAssembleDTO)}
    (holds : List Int → List String → List AddInstanceAssembleDTO → Prop)
    (one : ∀ stored instanceIds, Readable stored → stored.length + instanceIds.length < 2 ^ 31 →
      ∃ added ids, assemble stored instanceIds = some added ∧ Gives instanceIds added ids ∧
        (∀ id ∈ ids, -2 ^ 31 ≤ id ∧ id < 2 ^ 31) ∧ holds instanceIds stored added)
    {stored : List String} {batches : List (List Int)} (fits : Fits stored batches) :
    ∃ trace, additions assemble stored batches = some trace ∧
      List.Forall₂ (fun instanceIds step => holds instanceIds step.1 step.2) batches trace := by
  induction batches generalizing stored with
  | nil => exact ⟨[], rfl, .nil⟩
  | cons instanceIds rest ih =>
    have room := fits.2
    rw [List.map_cons, List.sum_cons] at room
    obtain ⟨added, ids, adds, gives, bounded, held⟩ := one stored instanceIds fits.1 (by omega)
    obtain ⟨trace, others, each⟩ := ih (fits.next gives bounded)
    refine ⟨(stored, added) :: trace, ?_, .cons held each⟩
    rw [additions, adds, Option.bind_eq_bind, Option.bind_some, others]
    rfl

/-- After an id of the largest `int`, two additions give the same id. -/
theorem kafka_gives_twice : ∃ first second,
    additions (Kafka.assembleAddInstance 1 (some 9)) ["2147483647"] [[21], [22]] = some [first, second] ∧
      ¬ Assigns second.1 [22] second.2 := by
  have once : Kafka.assembleAddInstance 1 (some 9) ["2147483647"] [21] =
      some [Kafka.withId 1 (some 9) 21 (-2147483648)] := by
    have read : ["2147483647"].mapM parseInt = some [2147483647] := by decide
    rw [Kafka.assembleAddInstance, read, Option.bind_eq_bind, Option.bind_some, List.mergeSort_singleton]
    rfl
  have stored : currentValues [Kafka.withId 1 (some 9) 21 (-2147483648)] = ["-2147483648"] := by decide
  have readable : Readable ["2147483647", "-2147483648"] := by unfold Readable; decide
  have one : [(22 : Int)].length < 2 ^ 31 := by decide
  obtain ⟨added, ids, adds, -, -, assigns⟩ :=
    @Kafka.assigns_iff 1 (some 9) _ readable _ one
  refine ⟨(["2147483647"], [Kafka.withId 1 (some 9) 21 (-2147483648)]), (["2147483647", "-2147483648"], added), ?_, ?_⟩
  · rw [additions, once, Option.bind_eq_bind, Option.bind_some, stored, additions]
    simp only [List.cons_append, List.nil_append, adds, additions]
    rfl
  · intro assigned
    have narrow := assigns.mp assigned 2147483647 (by decide) (-2147483648) (by decide)
    exact absurd narrow (by decide)

/-- ZooKeeper's additions always end and give new ids, and Kafka's give new ids exactly where
those that are stored lie close enough together. -/
theorem additions_assign (serviceId : Int) (propertyId : Option Int) {stored : List String} {batches : List (List Int)}
    (fits : Fits stored batches) {fuel : ℕ} (enough : 2 ^ 31 ≤ fuel) :
    (∃ trace, additions (Kafka.assembleAddInstance serviceId propertyId) stored batches = some trace ∧
      List.Forall₂ (fun instanceIds step =>
        Assigns step.1 instanceIds step.2 ↔ Narrow step.1 instanceIds.length) batches trace) ∧
    (∃ trace, additions (Zookeeper.assembleAddInstance fuel serviceId propertyId) stored batches = some trace ∧
      List.Forall₂ (fun instanceIds step => Assigns step.1 instanceIds step.2) batches trace) := by
  constructor
  · refine exists_additions (fun instanceIds stored added => Assigns stored instanceIds added ↔
      Narrow stored instanceIds.length) (fun stored instanceIds readable small => ?_) fits
    exact Kafka.assigns_iff readable (by omega)
  · refine exists_additions (fun instanceIds stored added => Assigns stored instanceIds added)
      (fun stored instanceIds readable small => ?_) fits
    exact Zookeeper.assigns readable small enough

theorem additions_assign_gaps :
    (∃ trace, additions (Kafka.assembleAddInstance 1 (some 9)) ["7", "3"] [[21, 22], [23]] = some trace ∧
      List.Forall₂ (fun instanceIds step =>
        Assigns step.1 instanceIds step.2 ↔ Narrow step.1 instanceIds.length) [[21, 22], [23]] trace) ∧
    (∃ trace, additions (Zookeeper.assembleAddInstance (2 ^ 31) 1 (some 9)) ["7", "3"] [[21, 22], [23]] = some trace ∧
      List.Forall₂ (fun instanceIds step => Assigns step.1 instanceIds step.2) [[21, 22], [23]] trace) :=
  additions_assign 1 (some 9) ⟨by unfold Readable; decide, by decide⟩ le_rfl

end Zms.Portal.AddInstance
