import Mathlib
import Zms.Portal.PerInstance
import Zms.Registry.Layered

/-! Whether all values of a property get into the configuration that
`getProcessPropertyValueRefList` generates: those of the instance go before those of the
service, and what its assemble adds before both. -/

set_option autoImplicit false

namespace Zms.Portal.Serve

open Zms.Registry

inductive Level where
  | ofService
  | ofInstance
  | assembled
  deriving DecidableEq

def Level.rank : Level → ℕ
  | .ofService => 0
  | .ofInstance => 1
  | .assembled => 2

/-- A ref and where it comes from. -/
structure Entry where
  level : Level
  ref : ProcessPropertyValueRef
  deriving DecidableEq

def Entry.rank (entry : Entry) : ℕ := entry.level.rank

/-- The property of an instance, by the group and the name that one level replaces in another. -/
def ProcessPropertyValueRef.property (ref : ProcessPropertyValueRef) : Option Int × Option String × String :=
  (ref.instanceId, ref.propertyGroup, ref.propertyName)

def ProcessPropertyValueRef.value (ref : ProcessPropertyValueRef) : Option Int × Option String × Option String :=
  (ref.propertyId, ref.currentValue, ref.realValue)

/-- What is stored for an instance. -/
def stored (m : Mappers) (serviceRefs : List ServicePropertyValueRefDTO) (instanceId : Int) : List Entry :=
  serviceRefs.map (fun item => ⟨.ofService, { item.copyProperties with instanceId := some instanceId }⟩) ++
    (m.queryByInstanceId instanceId).map fun item =>
      ⟨.ofInstance, { item.copyProperties with realValue := some item.currentValue }⟩

section Json
variable (toJSONString : List (String × String) → String)

/-- The entries of one instance more; those before bear the names the assemble leaves them. -/
def addEntries (m : Mappers) (serviceId : Int) (serviceType : String) (serviceRefs : List ServicePropertyValueRefDTO)
    (entries : List Entry) (i : ServiceInstance) : Option (List Entry) :=
  let before := entries ++ stored m serviceRefs i.id
  (assembleConfigFile toJSONString m serviceId i.id (before.map Entry.ref)).map fun assembled =>
    List.zipWith Entry.mk (before.map Entry.level) assembled.2 ++
      assembled.1.map fun ref => ⟨.assembled, addressed serviceId serviceType i ref⟩

/-- All that is stored or assembled for the instances. -/
def storedOrAssembled (m : Mappers) (serviceId : Int) (instances : List ServiceInstance) (flag : Bool) :
    Option (List Entry) := do
  let service ← m.getById serviceId
  let serviceRefs ← getDependenceRealValue m flag (m.queryByServiceId serviceId)
  instances.foldlM (addEntries toJSONString m serviceId service.serverType serviceRefs) []

end Json

/-- An entry that applies to its instance: no level above has its property. -/
def Applies (entries : List Entry) (entry : Entry) : Prop :=
  Top (fun entry : Entry => entry.ref.property) Entry.rank entries entry

/-- Every value that applies to an instance is generated for it, and nothing else. -/
def Reaches (entries : List Entry) (generated : List ProcessPropertyValueRef) (i : ServiceInstance) : Prop :=
  (∀ entry, entry.ref.instanceId = some i.id → Applies entries entry →
    ∃ ref ∈ generated, ref.property = entry.ref.property ∧ ref.value = entry.ref.value) ∧
  ∀ ref ∈ generated, ref.instanceId = some i.id → ∃ entry ∈ entries, entry.ref = ref

/-- What applies under a key of the instance is of one property and one value. -/
def OneValueEach (entries : List Entry) (i : ServiceInstance) : Prop :=
  ∀ entry other, entry.ref.instanceId = some i.id → Applies entries entry →
    Top (fun entry : Entry => entry.ref.key) Entry.rank entries other → other.ref.key = entry.ref.key →
    other.ref.property = entry.ref.property ∧ other.ref.value = entry.ref.value

section Collected
variable {toJSONString : List (String × String) → String} {m : Mappers} {serviceId : Int} {serviceType : String}
  {serviceRefs : List ServicePropertyValueRefDTO}

theorem stored_ref (instanceId : Int) :
    (stored m serviceRefs instanceId).map Entry.ref = configured m serviceRefs instanceId := by
  simp only [stored, configured, List.map_append, List.map_map, Function.comp_def]

theorem instanceId_renameFirst (propertyId : Option Int) (name : String) (refs : List ProcessPropertyValueRef) :
    (renameFirst propertyId name refs).map ProcessPropertyValueRef.instanceId =
      refs.map ProcessPropertyValueRef.instanceId := by
  induction refs with
  | nil => rfl
  | cons ref rest ih =>
    simp only [renameFirst]
    split
    · rfl
    · rw [List.map_cons, ih, List.map_cons]

theorem instanceId_assembled {instanceId : Int} {refs adds left : List ProcessPropertyValueRef}
    (assembled : assembleConfigFile toJSONString m serviceId instanceId refs = some (adds, left)) :
    left.map ProcessPropertyValueRef.instanceId = refs.map ProcessPropertyValueRef.instanceId := by
  by_cases backup : m.getProgramTypeByInstanceId instanceId = some "zms_backup_cluster-instance"
  · unfold assembleConfigFile at assembled
    rw [backup] at assembled
    rw [(backupClusterConfig_spec assembled).2.1, instanceId_renameFirst]
  · obtain ⟨_, same⟩ := @assembleConfigFile_of_not toJSONString m serviceId ⟨instanceId, "", 0⟩ backup
    rw [show assembleConfigFile toJSONString m serviceId instanceId refs = _ from same refs] at assembled
    obtain ⟨_, -, rest⟩ := Option.map_eq_some_iff.mp assembled
    cases rest
    rfl

/-- What the ranks of the entries are compared by. -/
def Entry.place (entry : Entry) : Option Int × ℕ := (entry.ref.instanceId, entry.rank)

theorem map_ref_zipWith {levels : List Level} {refs : List ProcessPropertyValueRef}
    (same : refs.length = levels.length) : (List.zipWith Entry.mk levels refs).map Entry.ref = refs := by
  induction levels generalizing refs with
  | nil => rw [List.length_eq_zero_iff.mp same]; rfl
  | cons level levels ih =>
    cases refs with
    | nil => cases same
    | cons ref refs => rw [List.zipWith_cons_cons, List.map_cons, ih (Nat.succ.inj same)]

theorem map_place_zipWith {entries : List Entry} {refs : List ProcessPropertyValueRef}
    (same : refs.map ProcessPropertyValueRef.instanceId =
      (entries.map Entry.ref).map ProcessPropertyValueRef.instanceId) :
    (List.zipWith Entry.mk (entries.map Entry.level) refs).map Entry.place = entries.map Entry.place := by
  induction entries generalizing refs with
  | nil => rfl
  | cons entry entries ih =>
    cases refs with
    | nil => cases same
    | cons ref refs =>
      obtain ⟨first, others⟩ := List.cons.inj same
      rw [List.map_cons, List.zipWith_cons_cons, List.map_cons, ih others, List.map_cons]
      exact congrArg (· :: _) (congrArg (·, entry.rank) first)

theorem addEntries_ref (entries : List Entry) (i : ServiceInstance) :
    (addEntries toJSONString m serviceId serviceType serviceRefs entries i).map (List.map Entry.ref) =
      addInstance toJSONString m serviceId serviceType serviceRefs (entries.map Entry.ref) i := by
  simp only [addEntries, addInstance, List.map_append, stored_ref, Option.map_map]
  cases assembled : assembleConfigFile toJSONString m serviceId i.id
      (entries.map Entry.ref ++ configured m serviceRefs i.id) with
  | none => rfl
  | some both =>
    have kept := congrArg List.length (instanceId_assembled assembled)
    have same : both.2.length = (entries.map Entry.level ++ (stored m serviceRefs i.id).map Entry.level).length := by
      simpa [← stored_ref] using kept
    simp only [Option.map_some, Function.comp_apply, List.map_append, map_ref_zipWith same, List.map_map]
    rfl

theorem foldlM_addEntries_ref (entries : List Entry) (instances : List ServiceInstance) :
    (instances.foldlM (addEntries toJSONString m serviceId serviceType serviceRefs) entries).map (List.map Entry.ref) =
      instances.foldlM (addInstance toJSONString m serviceId serviceType serviceRefs) (entries.map Entry.ref) := by
  induction instances generalizing entries with
  | nil => rfl
  | cons i rest ih =>
    rw [List.foldlM_cons, List.foldlM_cons, ← addEntries_ref]
    cases addEntries toJSONString m serviceId serviceType serviceRefs entries i with
    | none => rfl
    | some added => exact ih added

theorem generated_eq {instances : List ServiceInstance} {flag : Bool} :
    getProcessPropertyValueRefList toJSONString m serviceId instances flag =
      (storedOrAssembled toJSONString m serviceId instances flag).map fun entries =>
        latest ProcessPropertyValueRef.key (entries.map Entry.ref) := by
  unfold getProcessPropertyValueRefList storedOrAssembled
  cases m.getById serviceId with
  | none => rfl
  | some service =>
    cases getDependenceRealValue m flag (m.queryByServiceId serviceId) with
    | none => rfl
    | some serviceRefs =>
      have folded := @foldlM_addEntries_ref toJSONString m serviceId service.serverType serviceRefs [] instances
      simp only [Option.bind_eq_bind, Option.bind_some, Option.pure_def]
      rw [show ([] : List Entry).map Entry.ref = [] from rfl] at folded
      rw [← folded]
      cases instances.foldlM (addEntries toJSONString m serviceId service.serverType serviceRefs) [] <;> rfl

theorem stored_place (instanceId : Int) :
    (stored m serviceRefs instanceId).map Entry.place =
      List.replicate serviceRefs.length (some instanceId, 0) ++
        List.replicate (m.queryByInstanceId instanceId).length (some instanceId, 1) := by
  simp only [stored, List.map_append, List.map_map]
  congr 1
  · change List.map (fun _ => (some instanceId, 0)) serviceRefs = _
    exact List.map_const'
  · refine List.eq_replicate_iff.mpr ⟨List.length_map _, fun place member => ?_⟩
    obtain ⟨item, found, rfl⟩ := List.mem_map.mp member
    exact congrArg (·, 1) (m.ofInstance instanceId item found)

theorem addEntries_place {entries added : List Entry} {i : ServiceInstance}
    (returned : addEntries toJSONString m serviceId serviceType serviceRefs entries i = some added) :
    ∃ block : List (Option Int × ℕ), added.map Entry.place = entries.map Entry.place ++ block ∧
      (∀ place ∈ block, place.1 = some i.id) ∧ block.Pairwise fun first second => first.2 ≤ second.2 := by
  obtain ⟨⟨adds, left⟩, assembled, rfl⟩ := Option.map_eq_some_iff.mp returned
  have places : (adds.map fun ref => (⟨.assembled, addressed serviceId serviceType i ref⟩ : Entry)).map Entry.place =
      List.replicate adds.length (some i.id, 2) := by
    rw [List.map_map]
    change List.map (fun _ => (some i.id, 2)) adds = _
    exact List.map_const'
  rw [List.map_append, map_place_zipWith (instanceId_assembled assembled), places, List.map_append, stored_place,
    List.append_assoc]
  refine ⟨_, rfl, ?_, ?_⟩
  · intro place member
    simp only [List.mem_append, List.mem_replicate] at member
    rcases member with (⟨-, rfl⟩ | ⟨-, rfl⟩) | ⟨-, rfl⟩ <;> rfl
  · simp [List.pairwise_append, List.pairwise_replicate, List.mem_replicate]

/-- The entries of an instance come in the order of their levels. -/
theorem foldlM_addEntries_ascending {instances : List ServiceInstance} {entries collected : List Entry}
    (distinct : (instances.map ServiceInstance.id).Nodup)
    (before : (entries.map Entry.place).Pairwise fun first second => first.1 = second.1 → first.2 ≤ second.2)
    (others : ∀ place ∈ entries.map Entry.place, ∀ i ∈ instances, place.1 ≠ some i.id)
    (folded : instances.foldlM (addEntries toJSONString m serviceId serviceType serviceRefs) entries =
      some collected) :
    (collected.map Entry.place).Pairwise fun first second => first.1 = second.1 → first.2 ≤ second.2 := by
  induction instances generalizing entries with
  | nil =>
    cases folded
    exact before
  | cons i rest ih =>
    obtain ⟨unused, distinctRest⟩ := List.nodup_cons.mp distinct
    rw [List.foldlM_cons] at folded
    obtain ⟨added, first, later⟩ := Option.bind_eq_some_iff.mp folded
    obtain ⟨block, places, own, ascending⟩ := addEntries_place first
    refine ih distinctRest ?_ ?_ later
    · rw [places]
      refine List.pairwise_append.mpr ⟨before, ascending.imp fun {first second} below (_ : first.1 = second.1) => below, ?_⟩
      intro place member new isNew same
      exact absurd (same.trans (own new isNew)) (others place member i List.mem_cons_self)
    · rw [places]
      intro place member j inRest
      rcases List.mem_append.mp member with earlier | isNew
      · exact others place earlier j (List.mem_cons_of_mem _ inRest)
      · rw [own place isNew]
        intro same
        exact unused (Option.some.inj same ▸ List.mem_map_of_mem inRest)

theorem storedOrAssembled_ascending {instances : List ServiceInstance} {flag : Bool} {entries : List Entry}
    (distinct : (instances.map ServiceInstance.id).Nodup)
    (collected : storedOrAssembled toJSONString m serviceId instances flag = some entries) :
    entries.Pairwise fun first second => first.ref.key = second.ref.key → first.rank ≤ second.rank := by
  simp only [storedOrAssembled, Option.bind_eq_bind, Option.bind_eq_some_iff] at collected
  obtain ⟨service, -, serviceRefs, -, folded⟩ := collected
  have ascending :=
    foldlM_addEntries_ascending distinct List.Pairwise.nil (fun _ member => absurd member List.not_mem_nil) folded
  refine (List.pairwise_map.mp ascending).imp ?_
  intro first second below sameKey
  exact below (key_inj sameKey).1

theorem key_of_property {ref other : ProcessPropertyValueRef} (same : ref.property = other.property) :
    ref.key = other.key := by
  obtain ⟨ids, groupAndName⟩ := Prod.mk.inj same
  obtain ⟨groups, names⟩ := Prod.mk.inj groupAndName
  simp only [ProcessPropertyValueRef.key, ids, groups, names]

end Collected

section Json
variable (toJSONString : List (String × String) → String) {m : Mappers} {serviceId : Int} {flag : Bool}
  {instances : List ServiceInstance} {entries : List Entry} {generated : List ProcessPropertyValueRef}

/-- All values that apply reach an instance exactly where no property has two of them. -/
theorem reaches_iff (distinct : (instances.map ServiceInstance.id).Nodup)
    (collected : storedOrAssembled toJSONString m serviceId instances flag = some entries)
    (returned : getProcessPropertyValueRefList toJSONString m serviceId instances flag = some generated)
    (i : ServiceInstance) : Reaches entries generated i ↔ OneValueEach entries i := by
  rw [generated_eq, collected, Option.map_some, Option.some.injEq] at returned
  subst returned
  have kept := tops_kept_iff (fun entry : Entry => entry.ref.property) (fun entry => entry.ref.value)
    (fun entry => entry.ref.instanceId = some i.id) (storedOrAssembled_ascending distinct collected)
    (fun _ _ same => key_of_property same)
    fun _ _ same own => (key_inj same).1.symm.trans own
  have nothingElse : ∀ ref ∈ latest ProcessPropertyValueRef.key (entries.map Entry.ref),
      ref.instanceId = some i.id → ∃ entry ∈ entries, entry.ref = ref :=
    fun ref member _ => List.mem_map.mp (mem_of_mem_latest member)
  rw [Reaches, and_iff_left nothingElse, latest_map]
  simp only [List.mem_map, exists_exists_and_eq_and]
  exact kept

end Json

section Example

def choice (value : String) : ServicePropertyValueRefDTO :=
  ⟨1, none, 31, none, value, "ZMS_COLLECTOR", some "SERVICE", "protocols", some "", some "zms-collector-config", false,
    none, none⟩

/-- A service with the given values of a property to choose several from, and one instance. -/
def choiceMappers (values : List String) : Mappers :=
  { backupMappers "zms_collector-instance" with queryByServiceId := fun _ => values.map choice }

def chosen (value : String) : Entry :=
  ⟨.ofService, { (choice value).copyProperties with instanceId := some 11, realValue := some value }⟩

/-- Of two chosen values the instance gets the last. -/
theorem two_values_collapse : ∃ entries generated,
    storedOrAssembled printJson (choiceMappers ["tcp", "udp"]) 1 [⟨11, "INSTANCE", 7⟩] true = some entries ∧
    getProcessPropertyValueRefList printJson (choiceMappers ["tcp", "udp"]) 1 [⟨11, "INSTANCE", 7⟩] true =
      some generated ∧
    ¬Reaches entries generated ⟨11, "INSTANCE", 7⟩ := by
  refine ⟨[chosen "tcp", chosen "udp"], [(chosen "udp").ref], by decide, by decide, fun reaches => ?_⟩
  obtain ⟨ref, member, -, sameValue⟩ := reaches.1 (chosen "tcp") rfl ⟨List.mem_cons_self, by decide⟩
  rw [List.mem_singleton.mp member] at sameValue
  exact absurd sameValue (by decide)

/-- One chosen value reaches the instance. -/
theorem reaches_one_value : Reaches [chosen "tcp"] [(chosen "tcp").ref] ⟨11, "INSTANCE", 7⟩ := by
  have collected : storedOrAssembled printJson (choiceMappers ["tcp"]) 1 [⟨11, "INSTANCE", 7⟩] true =
      some [chosen "tcp"] := by decide
  refine (reaches_iff printJson (by decide) collected (by decide) _).mpr ?_
  intro entry other _ applies top _
  rw [List.mem_singleton.mp applies.1, List.mem_singleton.mp top.1]
  exact ⟨rfl, rfl⟩

end Example

end Zms.Portal.Serve
