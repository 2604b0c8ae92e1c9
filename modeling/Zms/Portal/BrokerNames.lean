import Mathlib
import Zms.Portal.InstanceIds
import Zms.Transition.Collecting

/-! `assembleAddInstance` of the brokers and of the name servers of RocketMQ, and the names
that live instances of a service have after instances were added and deleted. -/

set_option autoImplicit false

namespace Zms.Portal.AddInstance

open Zms.Registry Zms.Portal.Serve

structure ServicePropertyValueRef where
  instanceId : Int
  propertyId : Int
  currentValue : String
  deriving DecidableEq

def WORDS : List String :=
  ["a", "b", "c", "d", "e", "f", "g", "h", "i", "j", "k", "l", "m", "n", "o", "p", "q", "r", "s", "t", "u", "v",
    "w", "x", "y", "z"]

namespace RocketMqBroker

/-- The name at one place of the batch; there are no words after the last. -/
def brokerName (instanceIdNameMap : List (Int × String)) (instanceId : Int) (i : ℕ) : Option String :=
  match instanceIdNameMap.lookup instanceId with
  | some name => some name
  | none => WORDS[i]?.map ("broker-" ++ ·)

def assembleAddInstance (serviceId brokerNamePropertyId brokerIdPropertyId : Int) (instanceIds : List Int)
    (refs : List ServicePropertyValueRef) : Option (List AddInstanceAssembleDTO) :=
  if instanceIds = [] then some []
  else do
    let instanceIdNameMap ← toMap ((refs.filter fun item => item.propertyId = brokerNamePropertyId).map
      fun item => (item.instanceId, some item.currentValue))
    let instanceIdBrokerIdMap ← toMap ((refs.filter fun item => item.propertyId = brokerIdPropertyId).map
      fun item => (item.instanceId, some item.currentValue))
    instanceIds.zipIdx.mapM fun (instanceId, i) => do
      let brokerName ← brokerName instanceIdNameMap instanceId i
      let master := decide (instanceIdBrokerIdMap.lookup instanceId = some "0")
      let instanceName := if master then brokerName else brokerName ++ "-s"
      return ⟨serviceId, instanceName, instanceId, some brokerNamePropertyId, some brokerName⟩

end RocketMqBroker

namespace RocketMqNameSvr

def withNumber (serviceId instanceId : Int) (nameSvrCount : ℕ) : AddInstanceAssembleDTO where
  serviceId := serviceId
  instanceName := "nameSvr-" ++ toString nameSvrCount
  instanceId := instanceId
  propertyId := none
  currentValue := none

def addFrom (serviceId : Int) : ℕ → List Int → List AddInstanceAssembleDTO
  | _, [] => []
  | nameSvrCount, instanceId :: rest =>
    withNumber serviceId instanceId (nameSvrCount + 1) :: addFrom serviceId (nameSvrCount + 1) rest

/-- `listed` are the name servers that are not deleted, the new ones among them. -/
def assembleAddInstance (serviceId : Int) (listed instanceIds : List Int) : List AddInstanceAssembleDTO :=
  addFrom serviceId (listed.filter fun id => id ∉ instanceIds).length instanceIds

end RocketMqNameSvr

/-- `getPropertyValueRefAddList` of a property that is typed in: no row for an empty text. -/
def getPropertyValueRefAddList (defaultValue currentValue : String) : List String :=
  if currentValue = "" ∧ defaultValue = "" then []
  else [if currentValue = "" then defaultValue else currentValue]

/-- What a form says of a new broker. -/
structure NewBroker where
  brokerName : String
  brokerId : String
  deriving DecidableEq

/-- A live broker; `entered` tells whether its name is the user's. -/
structure Broker where
  instanceId : Int
  instanceName : String
  brokerName : String
  brokerId : String
  entered : Bool
  deriving DecidableEq

structure NameServer where
  instanceId : Int
  instanceName : String
  deriving DecidableEq

/-- The live instances of a RocketMQ service; `nextId` is the next id of the table. -/
structure Service where
  serviceId : Int
  nextId : Int
  brokers : List Broker
  nameServers : List NameServer
  deriving DecidableEq

/-- The ids of the two properties of a broker. -/
structure Properties where
  brokerNamePropertyId : Int
  brokerIdPropertyId : Int
  distinct : brokerNamePropertyId ≠ brokerIdPropertyId

/-- The new brokers with the ids that `insertList` gives them. -/
def withIds (next : Int) (batch : List NewBroker) : List (Int × NewBroker) :=
  batch.zipIdx.map fun entry => (next + entry.2, entry.1)

/-- The rows of the two properties, with the defaults of the installation. -/
def refsOf (p : Properties) (added : List (Int × NewBroker)) : List ServicePropertyValueRef :=
  added.flatMap fun entry =>
    (getPropertyValueRefAddList "" entry.2.brokerName).map (⟨entry.1, p.brokerNamePropertyId, ·⟩) ++
      (getPropertyValueRefAddList "0" entry.2.brokerId).map (⟨entry.1, p.brokerIdPropertyId, ·⟩)

def storedBrokerId (broker : NewBroker) : String := if broker.brokerId = "" then "0" else broker.brokerId

/-- The broker as it is stored. -/
def store (dto : AddInstanceAssembleDTO) (broker : NewBroker) : Broker where
  instanceId := dto.instanceId
  instanceName := dto.instanceName
  brokerName := dto.currentValue.getD ""
  brokerId := storedBrokerId broker
  entered := broker.brokerName ≠ ""

inductive Step where
  | add (batch : List NewBroker) (nameServers : ℕ)
  | delete (ids : List Int)

/-- `addServiceInstance` and `deleteServiceInstance`; an exception rolls the addition back. -/
def Service.step (p : Properties) (s : Service) : Step → Option Service
  | .add batch count => do
    let added := withIds s.nextId batch
    let nameServerIds := (List.range count).map fun k : ℕ => s.nextId + batch.length + k
    let brokers ← RocketMqBroker.assembleAddInstance s.serviceId p.brokerNamePropertyId p.brokerIdPropertyId
      (added.map Prod.fst) (refsOf p added)
    let nameServers := RocketMqNameSvr.assembleAddInstance s.serviceId
      (s.nameServers.map NameServer.instanceId ++ nameServerIds) nameServerIds
    return { s with
      nextId := s.nextId + batch.length + count
      brokers := s.brokers ++ brokers.zipWith store batch
      nameServers := s.nameServers ++ nameServers.map fun dto => ⟨dto.instanceId, dto.instanceName⟩ }
  | .delete ids => some { s with
      brokers := s.brokers.filter fun broker => broker.instanceId ∉ ids
      nameServers := s.nameServers.filter fun server => server.instanceId ∉ ids }

def Broker.master (broker : Broker) : Prop := broker.brokerId = "0"

instance (broker : Broker) : Decidable broker.master := inferInstanceAs (Decidable (broker.brokerId = "0"))

/-- Two masters share a name only where the user has entered both. -/
def MastersApart (x y : Broker) : Prop :=
  x.master → y.master → x.brokerName = y.brokerName → x.entered = true ∧ y.entered = true

/-- A slave has the name of a master only where the user has entered it. -/
def SlaveApart (x y : Broker) : Prop := ¬x.master → y.master → x.brokerName = y.brokerName → x.entered = true

def NamesApart (brokers : List Broker) : Prop :=
  brokers.Pairwise MastersApart ∧ ∀ x ∈ brokers, ∀ y ∈ brokers, SlaveApart x y

/-- The names of the live instances are what they should be. -/
structure Service.Unique (s : Service) : Prop where
  brokers : NamesApart s.brokers
  nameServers : (s.nameServers.map NameServer.instanceName).Nodup

/-- Each step succeeds, and the names are right after it. -/
def Kept (p : Properties) : Service → List Step → Prop
  | _, [] => True
  | s, step :: rest => ∃ s', s.step p step = some s' ∧ s'.Unique ∧ Kept p s' rest

/-! What an addition does, broker by broker. -/

section Maps
variable {κ α β : Type} [DecidableEq κ]

/-- What each element of a list with keys has, if it has something. -/
def having (f : α → Option β) (added : List (κ × α)) : List (κ × β) :=
  added.filterMap fun entry => (f entry.2).map (entry.1, ·)

omit [DecidableEq κ] in
theorem keys_having (f : α → Option β) (added : List (κ × α)) :
    ((having f added).map Prod.fst).Sublist (added.map Prod.fst) := by
  induction added with
  | nil => exact List.Sublist.slnil
  | cons entry rest ih =>
    cases has : f entry.2 with
    | none =>
      have skip : having f (entry :: rest) = having f rest := List.filterMap_cons_none (by rw [has]; rfl)
      rw [skip]
      exact ih.cons _
    | some value =>
      have take : having f (entry :: rest) = (entry.1, value) :: having f rest :=
        List.filterMap_cons_some (by rw [has]; rfl)
      rw [take]
      exact ih.cons_cons _

theorem lookup_having (f : α → Option β) {added : List (κ × α)} (distinct : (added.map Prod.fst).Nodup) {key : κ} {a : α}
    (member : (key, a) ∈ added) : (having f added).lookup key = f a := by
  induction added with
  | nil => cases member
  | cons entry rest ih =>
    obtain ⟨fresh, distinctRest⟩ := List.nodup_cons.mp distinct
    cases has : f entry.2 with
    | none =>
      have skip : having f (entry :: rest) = having f rest := List.filterMap_cons_none (by rw [has]; rfl)
      rw [skip]
      rcases List.mem_cons.mp member with rfl | later
      · rw [has, List.lookup_eq_none_iff]
        intro pair inRest
        have isKey := (keys_having f rest).subset (List.mem_map_of_mem inRest)
        simp only [bne_iff_ne, ne_eq]
        exact fun same => fresh (same ▸ isKey)
      · exact ih distinctRest later
    | some value =>
      have take : having f (entry :: rest) = (entry.1, value) :: having f rest :=
        List.filterMap_cons_some (by rw [has]; rfl)
      rw [take]
      rcases List.mem_cons.mp member with rfl | later
      · rw [List.lookup_cons_self, has]
      · have other : (key == entry.1) = false := by
          simp only [beq_eq_false_iff_ne, ne_eq]
          exact fun same => fresh (same ▸ List.mem_map_of_mem later)
        rw [List.lookup_cons, other]
        exact ih distinctRest later

end Maps

theorem toMap_some {κ ν : Type} [DecidableEq κ] {pairs : List (κ × ν)} (distinct : (pairs.map Prod.fst).Nodup) :
    toMap (pairs.map fun pair => (pair.1, some pair.2)) = some pairs := by
  have keys : (pairs.map fun pair => (pair.1, some pair.2)).map Prod.fst = pairs.map Prod.fst := by
    rw [List.map_map]
    rfl
  unfold toMap
  rw [keys, if_pos distinct, Transition.mapM_eq_some_iff, List.forall₂_map_left_iff]
  exact List.forall₂_same.mpr fun pair _ => rfl

def enteredName (broker : NewBroker) : Option String := if broker.brokerName = "" then none else some broker.brokerName

theorem map_filter_refsOf (p : Properties) (added : List (Int × NewBroker)) :
    ((refsOf p added).filter fun item => item.propertyId = p.brokerNamePropertyId).map
        (fun item => (item.instanceId, some item.currentValue)) =
      (having enteredName added).map (fun pair => (pair.1, some pair.2)) ∧
    ((refsOf p added).filter fun item => item.propertyId = p.brokerIdPropertyId).map
        (fun item => (item.instanceId, some item.currentValue)) =
      (having (fun broker => some (storedBrokerId broker)) added).map (fun pair => (pair.1, some pair.2)) := by
  induction added with
  | nil => exact ⟨rfl, rfl⟩
  | cons entry rest ih =>
    have split : refsOf p (entry :: rest) =
        ((getPropertyValueRefAddList "" entry.2.brokerName).map (⟨entry.1, p.brokerNamePropertyId, ·⟩) ++
          (getPropertyValueRefAddList "0" entry.2.brokerId).map (⟨entry.1, p.brokerIdPropertyId, ·⟩)) ++
          refsOf p rest := rfl
    rw [split]
    simp only [List.filter_append, List.map_append]
    rw [ih.1, ih.2]
    have oneId : getPropertyValueRefAddList "0" entry.2.brokerId = [storedBrokerId entry.2] := by
      simp [getPropertyValueRefAddList, storedBrokerId]
    rw [oneId]
    by_cases leftOut : entry.2.brokerName = ""
    · simp [getPropertyValueRefAddList, having, enteredName, leftOut, p.distinct.symm]
    · simp [getPropertyValueRefAddList, having, enteredName, leftOut, p.distinct, p.distinct.symm]

/-! The new brokers of a batch. -/

/-- A broker as it is stored, from its place in the batch. -/
def newBroker (next : Int) (entry : NewBroker × ℕ) (name : String) : Broker where
  instanceId := next + entry.2
  instanceName := if storedBrokerId entry.1 = "0" then name else name ++ "-s"
  brokerName := name
  brokerId := storedBrokerId entry.1
  entered := entry.1.brokerName ≠ ""

/-- The name that a broker gets at its place in the batch. -/
def givenName (entry : NewBroker × ℕ) : Option String :=
  match enteredName entry.1 with
  | some name => some name
  | none => WORDS[entry.2]?.map ("broker-" ++ ·)

theorem keys_withIds (next : Int) (batch : List NewBroker) :
    (withIds next batch).map Prod.fst = batch.zipIdx.map fun entry => next + entry.2 := by
  rw [withIds, List.map_map]
  rfl

theorem distinct_withIds (next : Int) (batch : List NewBroker) : ((withIds next batch).map Prod.fst).Nodup := by
  have indices : (batch.zipIdx.map Prod.snd).Nodup := by
    rw [List.zipIdx_map_snd]
    exact List.nodup_range'
  have shape : (withIds next batch).map Prod.fst = (batch.zipIdx.map Prod.snd).map fun i : ℕ => next + i := by
    rw [keys_withIds, List.map_map]
    rfl
  rw [shape]
  exact indices.map fun i j same => by simpa using same

theorem zipIdx_keys (next : Int) (batch : List NewBroker) :
    ((withIds next batch).map Prod.fst).zipIdx = batch.zipIdx.map fun entry => (next + (entry.2 : Int), entry.2) := by
  rw [keys_withIds]
  refine List.ext_getElem (by simp) fun i _ _ => ?_
  simp

theorem assembleAddInstance_eq (p : Properties) (serviceId next : Int) (batch : List NewBroker) :
    RocketMqBroker.assembleAddInstance serviceId p.brokerNamePropertyId p.brokerIdPropertyId
        ((withIds next batch).map Prod.fst) (refsOf p (withIds next batch)) =
      batch.zipIdx.mapM fun entry => (givenName entry).map fun name =>
        ⟨serviceId, (newBroker next entry name).instanceName, next + entry.2, some p.brokerNamePropertyId,
          some name⟩ := by
  by_cases none : batch = []
  · subst none
    rfl
  have some : (withIds next batch).map Prod.fst ≠ [] := by
    intro empty
    have lengths := congrArg List.length empty
    rw [keys_withIds, List.length_map, List.length_zipIdx] at lengths
    exact none (List.length_eq_zero_iff.mp lengths)
  have distinct := distinct_withIds next batch
  obtain ⟨names, ids⟩ := map_filter_refsOf p (withIds next batch)
  unfold RocketMqBroker.assembleAddInstance
  rw [if_neg some, names, ids, toMap_some (distinct.sublist (keys_having _ _)),
    toMap_some (distinct.sublist (keys_having _ _)), Option.bind_eq_bind, Option.bind_some, Option.bind_eq_bind,
    Option.bind_some, zipIdx_keys, List.mapM_map]
  refine Transition.mapM_congr fun entry member => ?_
  have inBatch : (next + (entry.2 : Int), entry.1) ∈ withIds next batch := List.mem_map.mpr ⟨entry, member, rfl⟩
  have name : RocketMqBroker.brokerName (having enteredName (withIds next batch)) (next + entry.2) entry.2 =
      givenName entry := by
    rw [RocketMqBroker.brokerName, lookup_having enteredName distinct inBatch]
    rfl
  have id := lookup_having (fun broker => Option.some (storedBrokerId broker)) distinct inBatch
  simp only [Function.comp_apply, name, id, Option.some.injEq]
  cases givenName entry with
  | none => rfl
  | some given =>
    by_cases master : storedBrokerId entry.1 = "0"
    · simp [newBroker, master]
    · simp [newBroker, master]

def brokersOf (next : Int) (batch : List NewBroker) : Option (List Broker) :=
  batch.zipIdx.mapM fun entry => (givenName entry).map (newBroker next entry)

theorem map_zipWith_mapM {α β γ : Type} (f : α × ℕ → Option β) (g : β → α → γ) (xs : List α) (k : ℕ) :
    ((xs.zipIdx k).mapM f).map (fun ys => ys.zipWith g xs) =
      (xs.zipIdx k).mapM fun entry => (f entry).map (g · entry.1) := by
  induction xs generalizing k with
  | nil => rfl
  | cons x rest ih =>
    rw [List.zipIdx_cons, List.mapM_cons, List.mapM_cons, ← ih (k + 1)]
    cases f (x, k) with
    | none => rfl
    | some y => cases (rest.zipIdx (k + 1)).mapM f <;> rfl

theorem map_store_assembleAddInstance (p : Properties) (serviceId next : Int) (batch : List NewBroker) :
    (RocketMqBroker.assembleAddInstance serviceId p.brokerNamePropertyId p.brokerIdPropertyId
      ((withIds next batch).map Prod.fst) (refsOf p (withIds next batch))).map (fun dtos => dtos.zipWith store batch) =
      brokersOf next batch := by
  rw [assembleAddInstance_eq, map_zipWith_mapM]
  refine Transition.mapM_congr fun entry _ => ?_
  rw [Option.map_map]
  rfl

/-! The new name servers. -/

def newNameServers (next : Int) (live count : ℕ) : List NameServer :=
  (List.range count).map fun k : ℕ => ⟨next + k, "nameSvr-" ++ toString (live + k + 1)⟩

theorem map_addFrom (serviceId : Int) (live : ℕ) (ids : List Int) :
    (RocketMqNameSvr.addFrom serviceId live ids).map (fun dto => (⟨dto.instanceId, dto.instanceName⟩ : NameServer)) =
      ids.zipIdx.map fun entry => ⟨entry.1, "nameSvr-" ++ toString (live + entry.2 + 1)⟩ := by
  have shifted : ∀ k, (RocketMqNameSvr.addFrom serviceId (live + k) ids).map
        (fun dto => (⟨dto.instanceId, dto.instanceName⟩ : NameServer)) =
      (ids.zipIdx k).map fun entry => ⟨entry.1, "nameSvr-" ++ toString (live + entry.2 + 1)⟩ := by
    induction ids with
    | nil => exact fun _ => rfl
    | cons id rest ih =>
      intro k
      rw [RocketMqNameSvr.addFrom, List.map_cons, List.zipIdx_cons, List.map_cons, Nat.add_assoc live k 1, ih (k + 1)]
      rfl
  exact shifted 0

/-- The ids of live instances have been given away already. -/
def Service.Numbered (s : Service) : Prop := ∀ server ∈ s.nameServers, server.instanceId < s.nextId

theorem step_add (p : Properties) {s : Service} (numbered : s.Numbered) (batch : List NewBroker) (count : ℕ) :
    s.step p (.add batch count) = (brokersOf s.nextId batch).map fun news =>
      { s with
        nextId := s.nextId + batch.length + count
        brokers := s.brokers ++ news
        nameServers := s.nameServers ++ newNameServers (s.nextId + batch.length) s.nameServers.length count } := by
  have others : ((s.nameServers.map NameServer.instanceId ++
      (List.range count).map fun k : ℕ => s.nextId + batch.length + k).filter
        fun id => id ∉ (List.range count).map fun k : ℕ => s.nextId + batch.length + k).length =
      s.nameServers.length := by
    rw [List.filter_append, List.filter_eq_self.mpr, List.filter_eq_nil_iff.mpr, List.append_nil, List.length_map]
    · intro id isNew notNew
      exact of_decide_eq_true notNew isNew
    · intro id isLive
      obtain ⟨server, member, rfl⟩ := List.mem_map.mp isLive
      refine decide_eq_true fun isNew => ?_
      obtain ⟨k, -, same⟩ := List.mem_map.mp isNew
      have earlier := numbered server member
      omega
  have servers : (RocketMqNameSvr.addFrom s.serviceId s.nameServers.length
      ((List.range count).map fun k : ℕ => s.nextId + batch.length + k)).map
        (fun dto => (⟨dto.instanceId, dto.instanceName⟩ : NameServer)) =
      newNameServers (s.nextId + batch.length) s.nameServers.length count := by
    rw [map_addFrom, newNameServers]
    refine List.ext_getElem (by simp) fun i _ _ => ?_
    simp
  rw [← map_store_assembleAddInstance p s.serviceId]
  unfold Service.step RocketMqNameSvr.assembleAddInstance
  simp only [others, servers]
  cases RocketMqBroker.assembleAddInstance s.serviceId p.brokerNamePropertyId p.brokerIdPropertyId
    ((withIds s.nextId batch).map Prod.fst) (refsOf p (withIds s.nextId batch)) <;> rfl

/-! When an addition keeps the names apart. -/

def NewBroker.master (broker : NewBroker) : Prop := storedBrokerId broker = "0"

/-- What an addition may not meet: of the brokers whose name is left out, the names of their
places in the batch; of the other masters, a name that was given to a live broker; and of the
name servers, the numbers after that of how many are live. -/
structure Suits (s : Service) (batch : List NewBroker) (count : ℕ) : Prop where
  places : ∀ entry ∈ batch.zipIdx, entry.1.brokerName = "" → entry.2 < WORDS.length
  masters : ∀ entry ∈ batch.zipIdx, entry.1.brokerName = "" → ∀ word, WORDS[entry.2]? = some word →
    (∀ y ∈ s.brokers, y.master → y.brokerName ≠ "broker-" ++ word) ∧
      ∀ other ∈ batch, other.master → other.brokerName ≠ "broker-" ++ word
  slaves : ∀ entry ∈ batch.zipIdx, entry.1.brokerName = "" → entry.1.master → ∀ word, WORDS[entry.2]? = some word →
    ∀ x ∈ s.brokers, ¬x.master → x.entered = false → x.brokerName ≠ "broker-" ++ word
  entered : ∀ other ∈ batch, other.brokerName ≠ "" → other.master →
    ∀ x ∈ s.brokers, x.entered = false → x.brokerName ≠ other.brokerName
  numbers : ∀ server ∈ s.nameServers, ∀ k, k < count →
    server.instanceName ≠ "nameSvr-" ++ toString (s.nameServers.length + k + 1)

theorem mastersApart_symm {x y : Broker} (apart : MastersApart x y) : MastersApart y x :=
  fun masterY masterX same => (apart masterX masterY same.symm).symm

theorem namesApart_append {xs ys : List Broker} : NamesApart (xs ++ ys) ↔
    NamesApart xs ∧ NamesApart ys ∧ ∀ x ∈ xs, ∀ y ∈ ys, MastersApart x y ∧ SlaveApart x y ∧ SlaveApart y x := by
  unfold NamesApart
  rw [List.pairwise_append]
  constructor
  · rintro ⟨⟨mastersX, mastersY, cross⟩, slaves⟩
    have inX : ∀ {x}, x ∈ xs → x ∈ xs ++ ys := fun member => List.mem_append_left _ member
    have inY : ∀ {y}, y ∈ ys → y ∈ xs ++ ys := fun member => List.mem_append_right _ member
    exact ⟨⟨mastersX, fun x hx y hy => slaves x (inX hx) y (inX hy)⟩,
      ⟨mastersY, fun x hx y hy => slaves x (inY hx) y (inY hy)⟩,
      fun x hx y hy => ⟨cross x hx y hy, slaves x (inX hx) y (inY hy), slaves y (inY hy) x (inX hx)⟩⟩
  · rintro ⟨⟨mastersX, slavesX⟩, ⟨mastersY, slavesY⟩, cross⟩
    refine ⟨⟨mastersX, mastersY, fun x hx y hy => (cross x hx y hy).1⟩, ?_⟩
    intro x hx y hy
    rcases List.mem_append.mp hx with hx | hx <;> rcases List.mem_append.mp hy with hy | hy
    · exact slavesX x hx y hy
    · exact (cross x hx y hy).2.1
    · exact (cross y hy x hx).2.2
    · exact slavesY x hx y hy

/-- The broker at a place of the batch, where there is a name for it. -/
def placed (next : Int) (entry : NewBroker × ℕ) : Broker := newBroker next entry ((givenName entry).getD "")

theorem isSome_givenName_iff (entry : NewBroker × ℕ) :
    (givenName entry).isSome ↔ (entry.1.brokerName = "" → entry.2 < WORDS.length) := by
  unfold givenName enteredName
  by_cases leftOut : entry.1.brokerName = ""
  · simp [leftOut]
  · simp [leftOut]

theorem brokersOf_eq_some_iff {next : Int} {batch : List NewBroker} {news : List Broker} :
    brokersOf next batch = some news ↔
      (∀ entry ∈ batch.zipIdx, entry.1.brokerName = "" → entry.2 < WORDS.length) ∧
        news = batch.zipIdx.map (placed next) := by
  have each : ∀ (entry : NewBroker × ℕ) broker, (givenName entry).map (newBroker next entry) = some broker ↔
      (entry.1.brokerName = "" → entry.2 < WORDS.length) ∧ placed next entry = broker := by
    intro entry broker
    rw [← isSome_givenName_iff, placed]
    cases givenName entry <;> simp
  rw [brokersOf, Transition.mapM_eq_some_iff]
  simp only [each, List.forall₂_and_left]
  rw [eq_comm (a := news), ← List.forall₂_eq_eq_eq, List.forall₂_map_left_iff]

section Placed
variable {next : Int} {entry : NewBroker × ℕ}

theorem brokerName_of_entered (entered : entry.1.brokerName ≠ "") :
    (placed next entry).brokerName = entry.1.brokerName := by
  simp [placed, newBroker, givenName, enteredName, entered]

theorem exists_word (next : Int) (leftOut : entry.1.brokerName = "") (place : entry.2 < WORDS.length) :
    ∃ word, WORDS[entry.2]? = some word ∧ (placed next entry).brokerName = "broker-" ++ word := by
  refine ⟨WORDS[entry.2], List.getElem?_eq_getElem place, ?_⟩
  simp [placed, newBroker, givenName, enteredName, leftOut, List.getElem?_eq_getElem place]

theorem entered_placed : (placed next entry).entered = true ↔ entry.1.brokerName ≠ "" := by
  simp [placed, newBroker]

theorem master_placed : (placed next entry).master ↔ entry.1.master := Iff.rfl

end Placed

theorem not_entered_placed {next : Int} {entry : NewBroker × ℕ} (leftOut : entry.1.brokerName = "") :
    (placed next entry).entered = false := by
  simp [placed, newBroker, leftOut]

theorem place_unique {i j : ℕ} {word : String} (first : WORDS[i]? = some word) (second : WORDS[j]? = some word) :
    i = j := by
  have distinct : WORDS.Nodup := by decide
  obtain ⟨inRange, -⟩ := List.getElem?_eq_some_iff.mp first
  exact (List.getElem?_inj inRange distinct).mp (first.trans second.symm)

section Batch
variable {next : Int} {batch : List NewBroker}

theorem exists_place {other : NewBroker} (inBatch : other ∈ batch) : ∃ i, (other, i) ∈ batch.zipIdx := by
  obtain ⟨i, bound, found⟩ := List.getElem_of_mem inBatch
  exact ⟨i, List.mem_zipIdx_iff_getElem?.mpr (List.getElem?_eq_some_iff.mpr ⟨bound, found⟩)⟩

theorem namesApart_batch_iff (places : ∀ entry ∈ batch.zipIdx, entry.1.brokerName = "" → entry.2 < WORDS.length) :
    NamesApart (batch.zipIdx.map (placed next)) ↔
      ∀ entry ∈ batch.zipIdx, entry.1.brokerName = "" → ∀ word, WORDS[entry.2]? = some word →
        ∀ other ∈ batch, other.master → other.brokerName ≠ "broker-" ++ word := by
  constructor
  · rintro ⟨masters, slaves⟩ entry member leftOut word atPlace other inBatch master same
    obtain ⟨i, otherMember⟩ := exists_place inBatch
    obtain ⟨word', atPlace', name⟩ := exists_word next leftOut (places entry member leftOut)
    obtain rfl := Option.some.inj (atPlace.symm.trans atPlace')
    have isEntered : other.brokerName ≠ "" := by
      rw [same]
      exact fun empty => by simpa using congrArg String.length empty
    have sameNames : (placed next entry).brokerName = (placed next (other, i)).brokerName := by
      rw [name, @brokerName_of_entered next (other, i) isEntered, same]
    have notEntered : (placed next entry).entered = false := not_entered_placed leftOut
    by_cases isMaster : (placed next entry).master
    · have differ : entry ≠ (other, i) := by
        intro equal
        subst equal
        exact isEntered leftOut
      rw [List.pairwise_map] at masters
      have : Std.Symm fun a b => MastersApart (placed next a) (placed next b) := ⟨fun _ _ => mastersApart_symm⟩
      have apart := masters.forall member otherMember differ
      exact Bool.noConfusion (notEntered.symm.trans (apart isMaster master sameNames).1)
    · have slave := slaves _ (List.mem_map_of_mem member) _ (List.mem_map_of_mem otherMember) isMaster master sameNames
      exact Bool.noConfusion (notEntered.symm.trans slave)
  · intro apart
    -- a name that was left out is that of no other master of the batch
    have leftOutApart : ∀ entry ∈ batch.zipIdx, ∀ other ∈ batch.zipIdx, entry.1.brokerName = "" → other.1.master →
        (placed next entry).brokerName = (placed next other).brokerName → entry = other := by
      intro entry member other otherMember leftOut master same
      obtain ⟨word, atPlace, name⟩ := exists_word next leftOut (places entry member leftOut)
      by_cases otherLeftOut : other.1.brokerName = ""
      · obtain ⟨word', atPlace', name'⟩ := exists_word next otherLeftOut (places other otherMember otherLeftOut)
        have sameWord : word = word' := (String.append_right_inj "broker-").mp (name.symm.trans (same.trans name'))
        have samePlace := place_unique atPlace (sameWord ▸ atPlace')
        have atEntry := List.mem_zipIdx_iff_getElem?.mp member
        have atOther := List.mem_zipIdx_iff_getElem?.mp otherMember
        exact Prod.ext (Option.some.inj (atEntry.symm.trans (samePlace ▸ atOther))) samePlace
      · have inBatch : other.1 ∈ batch := List.mem_of_getElem? (List.mem_zipIdx_iff_getElem?.mp otherMember)
        refine absurd ?_ (apart entry member leftOut word atPlace other.1 inBatch master)
        rw [← brokerName_of_entered otherLeftOut, ← same, name]
    constructor
    · rw [List.pairwise_map]
      have indices : (batch.zipIdx.map Prod.snd).Nodup := by
        rw [List.zipIdx_map_snd]
        exact List.nodup_range'
      refine indices.of_map.pairwise_of_forall_ne fun entry member other otherMember differ => ?_
      intro masterEntry masterOther same
      rw [entered_placed, entered_placed]
      constructor
      · exact fun leftOut => differ (leftOutApart entry member other otherMember leftOut masterOther same)
      · exact fun leftOut => differ (leftOutApart other otherMember entry member leftOut masterEntry same.symm).symm
    · intro x hx y hy slave master same
      obtain ⟨entry, member, rfl⟩ := List.mem_map.mp hx
      obtain ⟨other, otherMember, rfl⟩ := List.mem_map.mp hy
      rw [entered_placed]
      intro leftOut
      have equal := leftOutApart entry member other otherMember leftOut master same
      exact slave (equal ▸ master)

theorem crossApart_iff (places : ∀ entry ∈ batch.zipIdx, entry.1.brokerName = "" → entry.2 < WORDS.length)
    (live : List Broker) :
    (∀ x ∈ live, ∀ y ∈ batch.zipIdx.map (placed next), MastersApart x y ∧ SlaveApart x y ∧ SlaveApart y x) ↔
      (∀ entry ∈ batch.zipIdx, entry.1.brokerName = "" → ∀ word, WORDS[entry.2]? = some word →
        ∀ y ∈ live, y.master → y.brokerName ≠ "broker-" ++ word) ∧
      (∀ entry ∈ batch.zipIdx, entry.1.brokerName = "" → entry.1.master → ∀ word, WORDS[entry.2]? = some word →
        ∀ x ∈ live, ¬x.master → x.entered = false → x.brokerName ≠ "broker-" ++ word) ∧
      (∀ other ∈ batch, other.brokerName ≠ "" → other.master →
        ∀ x ∈ live, x.entered = false → x.brokerName ≠ other.brokerName) := by
  constructor
  · intro apart
    refine ⟨?_, ?_, ?_⟩
    · intro entry member leftOut word atPlace y inLive master same
      obtain ⟨word', atPlace', name⟩ := exists_word next leftOut (places entry member leftOut)
      obtain rfl := Option.some.inj (atPlace.symm.trans atPlace')
      obtain ⟨masters, -, slave⟩ := apart y inLive _ (List.mem_map_of_mem member)
      have isEntered : (placed next entry).entered = true := by
        by_cases isMaster : (placed next entry).master
        · exact (masters master isMaster (same.trans name.symm)).2
        · exact slave isMaster master (name.trans same.symm)
      exact entered_placed.mp isEntered leftOut
    · intro entry member leftOut master word atPlace x inLive slave notEntered same
      obtain ⟨word', atPlace', name⟩ := exists_word next leftOut (places entry member leftOut)
      obtain rfl := Option.some.inj (atPlace.symm.trans atPlace')
      obtain ⟨-, slaves, -⟩ := apart x inLive _ (List.mem_map_of_mem member)
      exact Bool.noConfusion (notEntered.symm.trans (slaves slave master (same.trans name.symm)))
    · intro other inBatch isEntered master x inLive notEntered same
      obtain ⟨i, member⟩ := exists_place inBatch
      have name : (placed next (other, i)).brokerName = other.brokerName :=
        @brokerName_of_entered next (other, i) isEntered
      obtain ⟨masters, slaves, -⟩ := apart x inLive _ (List.mem_map_of_mem member)
      have isTrue : x.entered = true := by
        by_cases isMaster : x.master
        · exact (masters isMaster master (same.trans name.symm)).1
        · exact slaves isMaster master (same.trans name.symm)
      exact Bool.noConfusion (notEntered.symm.trans isTrue)
  · rintro ⟨masters, slaves, entered⟩ x inLive y inNews
    obtain ⟨entry, member, rfl⟩ := List.mem_map.mp inNews
    by_cases leftOut : entry.1.brokerName = ""
    · obtain ⟨word, atPlace, name⟩ := exists_word next leftOut (places entry member leftOut)
      have noMaster : x.master → x.brokerName ≠ (placed next entry).brokerName := by
        intro master same
        exact masters entry member leftOut word atPlace x inLive master (same.trans name)
      refine ⟨fun master _ same => absurd same (noMaster master), fun slave master same => ?_,
        fun _ master same => absurd same.symm (noMaster master)⟩
      by_contra notEntered
      exact slaves entry member leftOut master word atPlace x inLive slave (Bool.eq_false_iff.mpr notEntered)
        (same.trans name)
    · have isEntered : (placed next entry).entered = true := entered_placed.mpr leftOut
      have inBatch : entry.1 ∈ batch := List.mem_of_getElem? (List.mem_zipIdx_iff_getElem?.mp member)
      have liveEntered : entry.1.master → x.brokerName = (placed next entry).brokerName → x.entered = true := by
        intro master same
        by_contra notEntered
        exact entered entry.1 inBatch leftOut master x inLive (Bool.eq_false_iff.mpr notEntered)
          (same.trans (brokerName_of_entered leftOut))
      exact ⟨fun _ master same => ⟨liveEntered master same, isEntered⟩, fun _ master same => liveEntered master same,
        fun _ _ _ => isEntered⟩

end Batch

theorem instanceNames_newNameServers (next : Int) (live count : ℕ) :
    (newNameServers next live count).map NameServer.instanceName =
      (List.range count).map fun k : ℕ => "nameSvr-" ++ toString (live + k + 1) := by
  rw [newNameServers, List.map_map]
  rfl

theorem nameServers_apart_iff {names : List String} (apart : names.Nodup) (live count : ℕ) :
    (names ++ (List.range count).map fun k : ℕ => "nameSvr-" ++ toString (live + k + 1)).Nodup ↔
      ∀ name ∈ names, ∀ k, k < count → name ≠ "nameSvr-" ++ toString (live + k + 1) := by
  have newApart : ((List.range count).map fun k : ℕ => "nameSvr-" ++ toString (live + k + 1)).Nodup := by
    refine List.nodup_range.map fun i j same => ?_
    have sameNumber := Nat.repr_injective ((String.append_right_inj "nameSvr-").mp same)
    omega
  rw [List.nodup_append]
  constructor
  · rintro ⟨-, -, differ⟩ name member k inRange
    exact differ name member _ (List.mem_map.mpr ⟨k, List.mem_range.mpr inRange, rfl⟩)
  · intro differ
    refine ⟨apart, newApart, fun name member other isNew => ?_⟩
    obtain ⟨k, inRange, rfl⟩ := List.mem_map.mp isNew
    exact differ name member k (List.mem_range.mp inRange)

/-- An addition succeeds and keeps the names apart exactly where it suits the live instances. -/
theorem add_unique_iff (p : Properties) {s : Service} (numbered : s.Numbered) (unique : s.Unique)
    (batch : List NewBroker) (count : ℕ) : (∃ s', s.step p (.add batch count) = some s' ∧ s'.Unique) ↔ Suits s batch count := by
  rw [step_add p numbered]
  simp only [Option.map_eq_some_iff, brokersOf_eq_some_iff]
  constructor
  · rintro ⟨-, ⟨-, ⟨places, rfl⟩, rfl⟩, ⟨brokers, nameServers⟩⟩
    obtain ⟨-, inner, cross⟩ := namesApart_append.mp brokers
    obtain ⟨masters, slaves, entered⟩ := (crossApart_iff places s.brokers).mp cross
    rw [List.map_append, instanceNames_newNameServers, nameServers_apart_iff unique.nameServers] at nameServers
    refine ⟨places, fun entry member leftOut word atPlace => ⟨?_, ?_⟩, slaves, entered, fun server member => ?_⟩
    · exact masters entry member leftOut word atPlace
    · exact (namesApart_batch_iff places).mp inner entry member leftOut word atPlace
    · exact nameServers server.instanceName (List.mem_map_of_mem member)
  · rintro ⟨places, masters, slaves, entered, numbers⟩
    refine ⟨_, ⟨_, ⟨places, rfl⟩, rfl⟩, ⟨?_, ?_⟩⟩
    · refine namesApart_append.mpr ⟨unique.brokers, ?_, ?_⟩
      · exact (namesApart_batch_iff places).mpr fun entry member leftOut word atPlace =>
          (masters entry member leftOut word atPlace).2
      · exact (crossApart_iff places s.brokers).mpr ⟨fun entry member leftOut word atPlace =>
          (masters entry member leftOut word atPlace).1, slaves, entered⟩
    · rw [List.map_append, instanceNames_newNameServers, nameServers_apart_iff unique.nameServers]
      intro name member
      obtain ⟨server, isLive, rfl⟩ := List.mem_map.mp member
      exact numbers server isLive

theorem unique_delete {s : Service} (unique : s.Unique) (p : Properties) (ids : List Int) :
    ∃ s', s.step p (.delete ids) = some s' ∧ s'.Unique := by
  refine ⟨_, rfl, ⟨⟨unique.brokers.1.filter _, ?_⟩, ?_⟩⟩
  · intro x hx y hy
    exact unique.brokers.2 x (List.mem_of_mem_filter hx) y (List.mem_of_mem_filter hy)
  · exact unique.nameServers.sublist (List.filter_sublist.map _)

theorem numbered_step {p : Properties} {s s' : Service} (numbered : s.Numbered) {step : Step}
    (done : s.step p step = some s') : s'.Numbered := by
  cases step with
  | add batch count =>
    rw [step_add p numbered] at done
    obtain ⟨news, -, rfl⟩ := Option.map_eq_some_iff.mp done
    intro server member
    rcases List.mem_append.mp member with live | new
    · have earlier := numbered server live
      change server.instanceId < s.nextId + batch.length + count
      omega
    · obtain ⟨k, inRange, rfl⟩ := List.mem_map.mp new
      rw [List.mem_range] at inRange
      change s.nextId + batch.length + (k : Int) < s.nextId + batch.length + count
      omega
  | delete ids =>
    obtain rfl := Option.some.inj done
    exact fun server member => numbered server (List.mem_of_mem_filter member)

/-! Whole histories. -/

def Step.Suits (s : Service) : Step → Prop
  | .add batch count => AddInstance.Suits s batch count
  | .delete _ => True

/-- Each addition suits the instances that are live before it. -/
def AllSuit (p : Properties) : Service → List Step → Prop
  | _, [] => True
  | s, step :: rest => step.Suits s ∧ ∀ s', s.step p step = some s' → AllSuit p s' rest

theorem step_unique_iff (p : Properties) {s : Service} (numbered : s.Numbered) (unique : s.Unique) (step : Step) :
    (∃ s', s.step p step = some s' ∧ s'.Unique) ↔ step.Suits s := by
  cases step with
  | add batch count => exact add_unique_iff p numbered unique batch count
  | delete ids => exact iff_of_true (unique_delete unique p ids) trivial

theorem kept_iff_allSuit (p : Properties) {s : Service} (numbered : s.Numbered) (unique : s.Unique) (steps : List Step) :
    Kept p s steps ↔ AllSuit p s steps := by
  induction steps generalizing s with
  | nil => exact Iff.rfl
  | cons step rest ih =>
    have one := step_unique_iff p numbered unique step
    constructor
    · rintro ⟨s', done, unique', kept⟩
      refine ⟨one.mp ⟨s', done, unique'⟩, fun other doneOther => ?_⟩
      obtain rfl := Option.some.inj (done.symm.trans doneOther)
      exact (ih (numbered_step numbered done) unique').mp kept
    · rintro ⟨suits, later⟩
      obtain ⟨s', done, unique'⟩ := one.mpr suits
      exact ⟨s', done, unique', (ih (numbered_step numbered done) unique').mpr (later s' done)⟩

/-- A service without instances yet. -/
def Service.created (serviceId nextId : Int) : Service := ⟨serviceId, nextId, [], []⟩

/-- From the creation of a service on, all additions succeed and the names stay apart exactly
where each addition suits the instances that are live at its time. -/
theorem names_kept_iff (p : Properties) (serviceId nextId : Int) (steps : List Step) :
    Kept p (Service.created serviceId nextId) steps ↔ AllSuit p (Service.created serviceId nextId) steps := by
  have numbered : (Service.created serviceId nextId).Numbered := fun _ member => absurd member List.not_mem_nil
  have brokers : NamesApart (Service.created serviceId nextId).brokers :=
    ⟨List.Pairwise.nil, fun _ member => absurd member List.not_mem_nil⟩
  exact kept_iff_allSuit p numbered ⟨brokers, List.nodup_nil⟩ steps

/-- Two masters, added one after the other, are both called broker-a. -/
theorem masters_called_alike :
    ¬ Kept ⟨41, 42, by decide⟩ (Service.created 1 100) [.add [⟨"", "0"⟩] 0, .add [⟨"", "0"⟩] 0] := by
  rintro ⟨first, done, -, second, doneAgain, unique, -⟩
  obtain rfl := Option.some.inj done
  obtain rfl := Option.some.inj doneAgain
  have apart := (List.pairwise_cons.mp unique.brokers.1).1 _ (List.mem_cons_self ..)
  exact absurd (apart rfl rfl rfl).1 (by decide)

end Zms.Portal.AddInstance
