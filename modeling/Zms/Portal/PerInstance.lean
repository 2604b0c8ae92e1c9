import Mathlib
import Zms.Portal.ServeInstances
import Zms.Text.Separated
import Zms.Transition.Collecting

/-! Whether the property values generated for an instance depend on the other instances of
the request. Only the assemble of the backup cluster looks at the refs it is handed, and it
is handed those of all instances before it.
-/

set_option autoImplicit false

namespace Zms.Portal.Serve

open Zms.Registry

section Keys

theorem notMem_printed {c : Char} (noMinus : c ≠ '-') (noDigit : c.isDigit = false) (noLetter : c ∉ "null".toList)
    (id : Option Int) : c ∉ (printed (id.map toString)).toList := by
  cases id with
  | none => exact noLetter
  | some n => exact Text.notMem_toString noMinus noDigit n

theorem printed_inj {id other : Option Int} (same : printed (id.map toString) = printed (other.map toString)) :
    id = other := by
  have notNull : ∀ n : Int, toString n ≠ "null" := by
    intro n isNull
    have letter : 'n' ∈ (toString n).toList := by rw [isNull]; decide
    exact Text.notMem_toString (by decide) (by decide) n letter
  cases id with
  | none =>
    cases other with
    | none => rfl
    | some m => exact absurd same.symm (notNull m)
  | some n =>
    cases other with
    | none => exact absurd same (notNull n)
    | some m => exact congrArg some (Int.repr_injective same)

/-- The rest of a key: the group and the name. -/
def ProcessPropertyValueRef.label (ref : ProcessPropertyValueRef) : String :=
  printed ref.propertyGroup ++ "&" ++ ref.propertyName

theorem key_inj {ref other : ProcessPropertyValueRef} (same : ref.key = other.key) :
    ref.instanceId = other.instanceId ∧ ref.label = other.label := by
  have shape : printed (ref.instanceId.map toString) ++ "&" ++ ref.label =
      printed (other.instanceId.map toString) ++ "&" ++ other.label := by
    simpa only [ProcessPropertyValueRef.key, ProcessPropertyValueRef.label, String.append_assoc] using same
  have free := notMem_printed (c := '&') (by decide) (by decide) (by decide)
  obtain ⟨ids, labels⟩ := Text.separated_inj (c := '&') rfl (free ref.instanceId) (free other.instanceId) shape
  exact ⟨printed_inj ids, labels⟩

end Keys

/-- The property values that are generated for an instance. -/
def valuesFor (instanceId : Int) (refs : List ProcessPropertyValueRef) : Set ProcessPropertyValueRef :=
  {ref | ref ∈ refs ∧ ref.instanceId = some instanceId}

theorem valuesFor_latest (instanceId : Int) (refs : List ProcessPropertyValueRef) :
    valuesFor instanceId (latest ProcessPropertyValueRef.key refs) =
      {ref | ref ∈ latest ProcessPropertyValueRef.key (refs.filter fun ref => ref.instanceId = some instanceId)} := by
  rw [← filter_latest]
  · ext ref
    simp [valuesFor, List.mem_filter]
  · intro ref other same
    simp only [(key_inj same).1]

section Json
variable (toJSONString : List (String × String) → String) (m : Mappers) (serviceId : Int) (flag : Bool)

/-- Every permutation of a part of the instances gives an instance the values that
`instances` gives it. -/
def PerInstance (instances : List ServiceInstance) (refs : List ProcessPropertyValueRef) : Prop :=
  ∀ others, others.Subperm instances → ∀ i ∈ others,
    ∃ generated, getProcessPropertyValueRefList toJSONString m serviceId others flag = some generated ∧
      valuesFor i.id generated = valuesFor i.id refs

end Json

theorem instanceId_of_mem_configured {m : Mappers} {serviceRefs : List ServicePropertyValueRefDTO} {instanceId : Int}
    {ref : ProcessPropertyValueRef} (member : ref ∈ configured m serviceRefs instanceId) :
    ref.instanceId = some instanceId := by
  rcases List.mem_append.mp member with ofService | ofInstance
  · obtain ⟨_, -, rfl⟩ := List.mem_map.mp ofService
    rfl
  · obtain ⟨item, found, rfl⟩ := List.mem_map.mp ofInstance
    exact m.ofInstance instanceId item found

section Rename

theorem mem_renameFirst {propertyId : Option Int} {name : String} {refs : List ProcessPropertyValueRef}
    {ref : ProcessPropertyValueRef} (member : ref ∈ renameFirst propertyId name refs) :
    ∃ old ∈ refs, ref = old ∨ ref = { old with propertyName := name } := by
  induction refs with
  | nil => cases member
  | cons first rest ih =>
    simp only [renameFirst] at member
    split at member
    · rcases List.mem_cons.mp member with rfl | later
      · exact ⟨first, List.mem_cons_self, .inr rfl⟩
      · exact ⟨ref, List.mem_cons_of_mem _ later, .inl rfl⟩
    · rcases List.mem_cons.mp member with rfl | later
      · exact ⟨ref, List.mem_cons_self, .inl rfl⟩
      · obtain ⟨old, found, same⟩ := ih later
        exact ⟨old, List.mem_cons_of_mem _ found, same⟩

theorem exists_mem_renameFirst (propertyId : Option Int) (name : String) {refs : List ProcessPropertyValueRef}
    {ref : ProcessPropertyValueRef} (member : ref ∈ refs) :
    ∃ now ∈ renameFirst propertyId name refs, now.propertyId = ref.propertyId := by
  induction refs with
  | nil => cases member
  | cons first rest ih =>
    simp only [renameFirst]
    rcases List.mem_cons.mp member with rfl | later
    · split
      · exact ⟨_, List.mem_cons_self, rfl⟩
      · exact ⟨ref, List.mem_cons_self, rfl⟩
    · split
      · exact ⟨ref, List.mem_cons_of_mem _ later, rfl⟩
      · obtain ⟨now, found, same⟩ := ih later
        exact ⟨now, List.mem_cons_of_mem _ found, same⟩

theorem renamed_mem {propertyId : Option Int} {name : String} {refs : List ProcessPropertyValueRef}
    {ref : ProcessPropertyValueRef} (found : refs.find? (fun ref => ref.propertyId = propertyId) = some ref) :
    { ref with propertyName := name } ∈ renameFirst propertyId name refs := by
  induction refs with
  | nil => cases found
  | cons first rest ih =>
    simp only [renameFirst]
    by_cases same : first.propertyId = propertyId
    · simp only [List.find?_cons, same, decide_true, Option.some.injEq] at found
      rw [if_pos same, found]
      exact List.mem_cons_self
    · simp only [List.find?_cons, same, decide_false] at found
      rw [if_neg same]
      exact List.mem_cons_of_mem _ (ih found)

theorem renameFirst_append {propertyId : Option Int} {name : String} {refs : List ProcessPropertyValueRef}
    (before : ∃ ref ∈ refs, ref.propertyId = propertyId) (after : List ProcessPropertyValueRef) :
    renameFirst propertyId name (refs ++ after) = renameFirst propertyId name refs ++ after := by
  induction refs with
  | nil => obtain ⟨_, member, -⟩ := before; cases member
  | cons first rest ih =>
    simp only [List.cons_append, renameFirst]
    split
    · rfl
    · next other =>
      obtain ⟨ref, member, same⟩ := before
      rcases List.mem_cons.mp member with rfl | later
      · exact absurd same other
      · rw [ih ⟨ref, later, same⟩, List.cons_append]

end Rename

section Assemble
variable {toJSONString : List (String × String) → String} {m : Mappers} {serviceId : Int}
  {refs : List ProcessPropertyValueRef}

theorem backupAdded_label {propertyId : Option Int} {name value : String} :
    (backupAdded propertyId name value).label = "&" ++ name := rfl

/-- The assemble finds the ref of the origin environment, names it anew, and adds no ref of
that name. -/
theorem backupClusterConfig_spec {adds left : List ProcessPropertyValueRef}
    (returned : backupClusterConfig toJSONString m serviceId refs = some (adds, left)) :
    (∃ ref, refs.find? (fun ref => ref.propertyId = originEnvPropertyId m) = some ref) ∧
      left = renameFirst (originEnvPropertyId m) ORIGIN_ENV_ID refs ∧
      ∀ ref ∈ adds, ref.label ≠ "&" ++ ORIGIN_ENV_ID := by
  simp only [backupClusterConfig, Option.bind_eq_bind, Option.bind_eq_some_iff, Option.pure_def, Option.some.injEq,
    Prod.mk.injEq] at returned
  obtain ⟨service, -, -, -, -, -, pairs, -, environmentId, -, current, -, ref, found, origin, -, zookeeper, -,
    rfl, rfl⟩ := returned
  refine ⟨⟨ref, found⟩, rfl, ?_⟩
  intro added member
  simp only [List.mem_cons, List.not_mem_nil, or_false] at member
  rcases member with rfl | rfl | rfl | rfl | rfl | rfl <;> rw [backupAdded_label] <;> decide

end Assemble

section Separate
variable {toJSONString : List (String × String) → String} {m : Mappers} {serviceId : Int} {serviceType : String}
  {serviceRefs : List ServicePropertyValueRefDTO}

def IsBackupCluster (m : Mappers) (i : ServiceInstance) : Prop :=
  m.getProgramTypeByInstanceId i.id = some "zms_backup_cluster-instance"

theorem assembleConfigFile_of_not {i : ServiceInstance} (other : ¬ IsBackupCluster m i) :
    ∃ adds : Option (List ProcessPropertyValueRef), ∀ refs,
      assembleConfigFile toJSONString m serviceId i.id refs = adds.map (·, refs) := by
  unfold assembleConfigFile
  split
  · exact ⟨some _, fun _ => rfl⟩
  · exact ⟨_, fun _ => rfl⟩
  · exact ⟨_, fun _ => rfl⟩
  · exact ⟨_, fun _ => rfl⟩
  · next isBackup => exact absurd isBackup other
  · exact ⟨some [], fun _ => rfl⟩

variable (toJSONString m serviceId serviceType serviceRefs) in
/-- The refs of one instance by itself. -/
def own (i : ServiceInstance) : Option (List ProcessPropertyValueRef) :=
  addInstance toJSONString m serviceId serviceType serviceRefs [] i

theorem addInstance_of_not {i : ServiceInstance} (other : ¬ IsBackupCluster m i) (refs : List ProcessPropertyValueRef) :
    addInstance toJSONString m serviceId serviceType serviceRefs refs i =
      (own toJSONString m serviceId serviceType serviceRefs i).map (refs ++ ·) := by
  obtain ⟨adds, same⟩ := @assembleConfigFile_of_not toJSONString m serviceId i other
  simp only [own, addInstance, same]
  cases adds <;> simp

theorem foldlM_addInstance {instances : List ServiceInstance} (others : ∀ i ∈ instances, ¬ IsBackupCluster m i)
    (refs : List ProcessPropertyValueRef) :
    instances.foldlM (addInstance toJSONString m serviceId serviceType serviceRefs) refs =
      (instances.mapM (own toJSONString m serviceId serviceType serviceRefs)).map (refs ++ ·.flatten) := by
  induction instances generalizing refs with
  | nil => simp
  | cons i rest ih =>
    simp only [List.foldlM_cons, List.mapM_cons, addInstance_of_not (others i List.mem_cons_self)]
    cases own toJSONString m serviceId serviceType serviceRefs i with
    | none => rfl
    | some refsOfI =>
      have tail := ih (fun j member => others j (List.mem_cons_of_mem _ member)) (refs ++ refsOfI)
      simp only [Option.map_some, Option.bind_eq_bind, Option.bind_some, tail]
      cases rest.mapM (own toJSONString m serviceId serviceType serviceRefs) <;> simp

theorem addInstance_spec {refs collected : List ProcessPropertyValueRef} {i : ServiceInstance}
    (returned : addInstance toJSONString m serviceId serviceType serviceRefs refs i = some collected) :
    ∃ adds left : List ProcessPropertyValueRef, collected = left ++ adds.map (addressed serviceId serviceType i) ∧
      (left = refs ++ configured m serviceRefs i.id ∨
        left = renameFirst (originEnvPropertyId m) ORIGIN_ENV_ID (refs ++ configured m serviceRefs i.id)) := by
  obtain ⟨⟨adds, left⟩, assembled, rfl⟩ := Option.map_eq_some_iff.mp returned
  refine ⟨adds, left, rfl, ?_⟩
  by_cases backup : IsBackupCluster m i
  · unfold assembleConfigFile at assembled
    rw [show m.getProgramTypeByInstanceId i.id = _ from backup] at assembled
    exact .inr (backupClusterConfig_spec assembled).2.1
  · obtain ⟨_, same⟩ := @assembleConfigFile_of_not toJSONString m serviceId i backup
    rw [same] at assembled
    obtain ⟨_, -, same⟩ := Option.map_eq_some_iff.mp assembled
    exact .inl (congrArg Prod.snd same).symm

theorem instanceId_of_mem_own {i : ServiceInstance} {refs : List ProcessPropertyValueRef}
    (found : own toJSONString m serviceId serviceType serviceRefs i = some refs)
    {ref : ProcessPropertyValueRef} (member : ref ∈ refs) : ref.instanceId = some i.id := by
  obtain ⟨adds, left, rfl, kept⟩ := addInstance_spec found
  rcases List.mem_append.mp member with inLeft | new
  · rcases kept with rfl | rfl
    · exact instanceId_of_mem_configured inLeft
    · obtain ⟨old, isOld, rfl | rfl⟩ := mem_renameFirst inLeft
      · exact instanceId_of_mem_configured isOld
      · show old.instanceId = _
        exact instanceId_of_mem_configured isOld
  · obtain ⟨_, -, rfl⟩ := List.mem_map.mp new
    rfl

theorem filter_flatMap_own {refsOf : ServiceInstance → List ProcessPropertyValueRef}
    {instances : List ServiceInstance} (bears : ∀ i ∈ instances, ∀ ref ∈ refsOf i, ref.instanceId = some i.id)
    (distinct : (instances.map ServiceInstance.id).Nodup) {i : ServiceInstance} (member : i ∈ instances) :
    (instances.flatMap refsOf).filter (fun ref => ref.instanceId = some i.id) = refsOf i := by
  induction instances with
  | nil => cases member
  | cons j rest ih =>
    obtain ⟨unused, distinctRest⟩ := List.nodup_cons.mp distinct
    have bearsRest := fun k later => bears k (List.mem_cons_of_mem _ later)
    rw [List.flatMap_cons, List.filter_append]
    rcases List.mem_cons.mp member with rfl | later
    · have all : (refsOf i).filter (fun ref => ref.instanceId = some i.id) = refsOf i := by
        apply List.filter_eq_self.mpr
        intro ref own
        simpa using bears i List.mem_cons_self ref own
      have noOther : (rest.flatMap refsOf).filter (fun ref => ref.instanceId = some i.id) = [] := by
        apply List.filter_eq_nil_iff.mpr
        intro ref found
        obtain ⟨k, later, own⟩ := List.mem_flatMap.mp found
        have differs : k.id ≠ i.id := fun same => unused (same ▸ List.mem_map_of_mem later)
        simpa [bearsRest k later ref own] using differs
      rw [all, noOther, List.append_nil]
    · have differs : j.id ≠ i.id := fun same => unused (same ▸ List.mem_map_of_mem later)
      have noOther : (refsOf j).filter (fun ref => ref.instanceId = some i.id) = [] := by
        apply List.filter_eq_nil_iff.mpr
        intro ref own
        simpa [bears j List.mem_cons_self ref own] using differs
      rw [noOther, List.nil_append, ih bearsRest distinctRest later]

theorem isSome_of_mapM {α β : Type} {f : α → Option β} {xs : List α} {ys : List β} (all : xs.mapM f = some ys)
    {x : α} (member : x ∈ xs) : (f x).isSome := by
  obtain ⟨y, _, found⟩ := Transition.exists_of_mem_of_mapM all member
  exact Option.isSome_iff_exists.mpr ⟨y, found⟩

theorem mapM_getD {α β : Type} {f : α → Option β} {d : β} {xs : List α} (all : ∀ x ∈ xs, (f x).isSome) :
    xs.mapM f = some (xs.map fun x => (f x).getD d) := by
  induction xs with
  | nil => rfl
  | cons y rest ih =>
    obtain ⟨z, first⟩ := Option.isSome_iff_exists.mp (all y List.mem_cons_self)
    simp [List.mapM_cons, first, ih fun x member => all x (List.mem_cons_of_mem _ member)]

theorem valuesFor_of_not {instances : List ServiceInstance} {refs : List ProcessPropertyValueRef}
    (others : ∀ i ∈ instances, ¬ IsBackupCluster m i) (distinct : (instances.map ServiceInstance.id).Nodup)
    (collected : instances.foldlM (addInstance toJSONString m serviceId serviceType serviceRefs) [] = some refs)
    {i : ServiceInstance} (member : i ∈ instances) :
    valuesFor i.id (latest ProcessPropertyValueRef.key refs) = {ref | ref ∈ latest ProcessPropertyValueRef.key
      ((own toJSONString m serviceId serviceType serviceRefs i).getD [])} := by
  rw [foldlM_addInstance others] at collected
  obtain ⟨blocks, all, rfl⟩ := Option.map_eq_some_iff.mp collected
  have each := fun j inList => isSome_of_mapM all (x := j) inList
  rw [mapM_getD (d := []) each] at all
  cases all
  rw [valuesFor_latest, List.nil_append, ← List.flatMap_def, filter_flatMap_own _ distinct member]
  intro j inList ref ownRef
  obtain ⟨ownRefs, found⟩ := Option.isSome_iff_exists.mp (each j inList)
  rw [found] at ownRef
  exact instanceId_of_mem_own found ownRef

theorem generates_iff {flag : Bool} {instances : List ServiceInstance} {refs : List ProcessPropertyValueRef} :
    getProcessPropertyValueRefList toJSONString m serviceId instances flag = some refs ↔
      ∃ service serviceRefs collected, m.getById serviceId = some service ∧
        getDependenceRealValue m flag (m.queryByServiceId serviceId) = some serviceRefs ∧
        instances.foldlM (addInstance toJSONString m serviceId service.serverType serviceRefs) [] = some collected ∧
        refs = latest ProcessPropertyValueRef.key collected := by
  simp only [getProcessPropertyValueRefList, Option.bind_eq_bind, Option.bind_eq_some_iff, Option.pure_def,
    Option.some.injEq]
  constructor
  · rintro ⟨service, found, serviceRefs, dependent, collected, folded, rfl⟩
    exact ⟨service, serviceRefs, collected, found, dependent, folded, rfl⟩
  · rintro ⟨service, serviceRefs, collected, found, dependent, folded, rfl⟩
    exact ⟨service, found, serviceRefs, dependent, collected, folded, rfl⟩

theorem perInstance_of_not {flag : Bool} {instances : List ServiceInstance} {refs : List ProcessPropertyValueRef}
    (returned : getProcessPropertyValueRefList toJSONString m serviceId instances flag = some refs)
    (distinct : (instances.map ServiceInstance.id).Nodup) (noBackup : ∀ i ∈ instances, ¬ IsBackupCluster m i) :
    PerInstance toJSONString m serviceId flag instances refs := by
  intro others part i member
  obtain ⟨service, serviceRefs, collected, found, dependent, folded, rfl⟩ := generates_iff.mp returned
  have noBackup' : ∀ j ∈ others, ¬ IsBackupCluster m j := fun j inOthers => noBackup j (part.subset inOthers)
  have distinct' : (others.map ServiceInstance.id).Nodup := by
    obtain ⟨permuted, perm, sublist⟩ := part
    exact (perm.map _).nodup_iff.mp ((sublist.map _).nodup distinct)
  -- every instance's own refs could be collected, so those of `others` can
  have each : ∀ j ∈ others, (own toJSONString m serviceId service.serverType serviceRefs j).isSome := by
    intro j inOthers
    rw [foldlM_addInstance noBackup] at folded
    obtain ⟨_, all, -⟩ := Option.map_eq_some_iff.mp folded
    exact isSome_of_mapM all (part.subset inOthers)
  have folded' := @foldlM_addInstance toJSONString m serviceId service.serverType serviceRefs others noBackup' []
  rw [mapM_getD (d := []) each] at folded'
  refine ⟨_, generates_iff.mpr ⟨service, serviceRefs, _, found, dependent, folded', rfl⟩, ?_⟩
  rw [valuesFor_of_not noBackup' distinct' folded' member,
    valuesFor_of_not noBackup distinct folded (part.subset member)]

theorem perInstance_of_short {flag : Bool} {instances : List ServiceInstance} {refs : List ProcessPropertyValueRef}
    (returned : getProcessPropertyValueRefList toJSONString m serviceId instances flag = some refs)
    (short : instances.length ≤ 1) : PerInstance toJSONString m serviceId flag instances refs := by
  intro others part i member
  have same : others = instances := by
    have atMost := part.length_le
    have atLeast : 0 < others.length := List.length_pos_of_mem member
    obtain ⟨j, rfl⟩ := List.length_eq_one_iff.mp (show instances.length = 1 by omega)
    exact List.perm_singleton.mp (part.perm_of_length_le atLeast)
  exact ⟨refs, same ▸ returned, rfl⟩

end Separate

section Together
variable {m : Mappers} {serviceId : Int}

/-- How the portal stores the configuration of a backup cluster: its environment is a
property of the service and not of an instance, it is in no group, and no other property
has the name that the assemble gives it. -/
structure Standard (m : Mappers) (serviceId : Int) : Prop where
  ofService : ∀ instanceId, ∀ item ∈ m.queryByInstanceId instanceId, some item.propertyId ≠ originEnvPropertyId m
  ungrouped : ∀ item ∈ m.queryByServiceId serviceId, some item.propertyId = originEnvPropertyId m →
    item.propertyGroup = some ENVID_SERVICE.group
  ofServiceUnnamed : ∀ item ∈ m.queryByServiceId serviceId, item.copyProperties.label ≠ "&" ++ ORIGIN_ENV_ID
  ofInstanceUnnamed : ∀ instanceId, ∀ item ∈ m.queryByInstanceId instanceId,
    item.copyProperties.label ≠ "&" ++ ORIGIN_ENV_ID

section Backup
variable {toJSONString : List (String × String) → String} {serviceType : String}
  {serviceRefs : List ServicePropertyValueRefDTO} {refs : List ProcessPropertyValueRef}

theorem addInstance_backup {i : ServiceInstance} {collected : List ProcessPropertyValueRef} (backup : IsBackupCluster m i)
    (returned : addInstance toJSONString m serviceId serviceType serviceRefs refs i = some collected) :
    ∃ adds, backupClusterConfig toJSONString m serviceId (refs ++ configured m serviceRefs i.id) =
        some (adds, renameFirst (originEnvPropertyId m) ORIGIN_ENV_ID (refs ++ configured m serviceRefs i.id)) ∧
      collected = renameFirst (originEnvPropertyId m) ORIGIN_ENV_ID (refs ++ configured m serviceRefs i.id) ++
        adds.map (addressed serviceId serviceType i) := by
  unfold addInstance assembleConfigFile at returned
  rw [show m.getProgramTypeByInstanceId i.id = _ from backup] at returned
  obtain ⟨⟨adds, left⟩, assembled, rfl⟩ := Option.map_eq_some_iff.mp returned
  obtain ⟨-, same, -⟩ := backupClusterConfig_spec assembled
  exact ⟨adds, same ▸ assembled, by rw [same]⟩

theorem exists_of_mem_dependence {flag : Bool} (dependent : getDependenceRealValue m flag (m.queryByServiceId serviceId) =
      some serviceRefs) {item : ServicePropertyValueRefDTO} (member : item ∈ serviceRefs) :
    ∃ row ∈ m.queryByServiceId serviceId, ∃ value, item = { row with realValue := some value } := by
  unfold getDependenceRealValue at dependent
  generalize m.queryByServiceId serviceId = rows at dependent
  induction rows generalizing serviceRefs with
  | nil => cases dependent; cases member
  | cons row rest ih =>
    rw [List.mapM_cons] at dependent
    obtain ⟨first, isFirst, later⟩ := Option.bind_eq_some_iff.mp dependent
    obtain ⟨others, areOthers, same⟩ := Option.bind_eq_some_iff.mp later
    cases same
    rcases List.mem_cons.mp member with rfl | inRest
    · obtain ⟨value, -, rfl⟩ := Option.map_eq_some_iff.mp isFirst
      exact ⟨row, List.mem_cons_self, value, rfl⟩
    · obtain ⟨found, inRows, rest⟩ := ih inRest areOthers
      exact ⟨found, List.mem_cons_of_mem _ inRows, rest⟩

section Stored
variable {flag : Bool} (standard : Standard m serviceId)
  (dependent : getDependenceRealValue m flag (m.queryByServiceId serviceId) = some serviceRefs)
include standard dependent

theorem label_of_mem_configured {instanceId : Int} {ref : ProcessPropertyValueRef}
    (member : ref ∈ configured m serviceRefs instanceId) : ref.label ≠ "&" ++ ORIGIN_ENV_ID := by
  rcases List.mem_append.mp member with ofService | ofInstance
  · obtain ⟨item, found, rfl⟩ := List.mem_map.mp ofService
    obtain ⟨row, stored, _, rfl⟩ := exists_of_mem_dependence dependent found
    exact standard.ofServiceUnnamed row stored
  · obtain ⟨item, found, rfl⟩ := List.mem_map.mp ofInstance
    exact standard.ofInstanceUnnamed instanceId item found

/-- A ref of the origin environment is one of the service: it is in no group, and every
other instance has it as well. -/
theorem shared_of_mem_configured {instanceId : Int} {ref : ProcessPropertyValueRef}
    (member : ref ∈ configured m serviceRefs instanceId) (isOrigin : ref.propertyId = originEnvPropertyId m)
    (other : Int) : ref.propertyGroup = some "" ∧
      ∃ same ∈ configured m serviceRefs other, same.propertyId = originEnvPropertyId m := by
  rcases List.mem_append.mp member with ofService | ofInstance
  · obtain ⟨item, found, rfl⟩ := List.mem_map.mp ofService
    constructor
    · obtain ⟨row, stored, _, rfl⟩ := exists_of_mem_dependence dependent found
      exact standard.ungrouped row stored isOrigin
    · exact ⟨_, List.mem_append_left _ (List.mem_map_of_mem found), isOrigin⟩
  · obtain ⟨item, found, rfl⟩ := List.mem_map.mp ofInstance
    exact absurd isOrigin (standard.ofService instanceId item found)

theorem named_alone {b : ServiceInstance} {collected : List ProcessPropertyValueRef} (backup : IsBackupCluster m b)
    (returned : [b].foldlM (addInstance toJSONString m serviceId serviceType serviceRefs) [] = some collected) :
    ∃ ref ∈ collected, ref.instanceId = some b.id ∧ ref.label = "&" ++ ORIGIN_ENV_ID := by
  simp only [List.foldlM_cons, List.foldlM_nil, Option.bind_eq_bind, Option.pure_def, Option.bind_fun_some] at returned
  obtain ⟨adds, assembled, rfl⟩ := addInstance_backup backup returned
  obtain ⟨⟨ref, found⟩, -, -⟩ := backupClusterConfig_spec assembled
  have member := List.mem_of_find?_eq_some found
  have isOrigin : ref.propertyId = originEnvPropertyId m := by simpa using List.find?_some found
  refine ⟨{ ref with propertyName := ORIGIN_ENV_ID }, List.mem_append_left _ (renamed_mem found), ?_, ?_⟩
  · show ref.instanceId = _
    exact instanceId_of_mem_configured member
  · have ungrouped := (shared_of_mem_configured standard dependent member isOrigin b.id).1
    simp [ProcessPropertyValueRef.label, ungrouped, printed]

theorem unnamed_behind {b c : ServiceInstance} {collected : List ProcessPropertyValueRef} (backup : IsBackupCluster m b)
    (distinct : c.id ≠ b.id)
    (returned : [c, b].foldlM (addInstance toJSONString m serviceId serviceType serviceRefs) [] = some collected)
    {ref : ProcessPropertyValueRef} (member : ref ∈ collected) (ofB : ref.instanceId = some b.id) :
    ref.label ≠ "&" ++ ORIGIN_ENV_ID := by
  simp only [List.foldlM_cons, List.foldlM_nil, Option.bind_eq_bind, Option.pure_def, Option.bind_fun_some] at returned
  obtain ⟨before, first, second⟩ := Option.bind_eq_some_iff.mp returned
  obtain ⟨adds, assembled, rfl⟩ := addInstance_backup backup second
  obtain ⟨⟨origin, found⟩, -, unnamed⟩ := backupClusterConfig_spec assembled
  have ofC : ∀ old ∈ before, old.instanceId = some c.id := fun old isOld => instanceId_of_mem_own first isOld
  -- the refs of `c` are before those of `b`, and one of them is the first of the property
  have hasOrigin : ∃ old ∈ before, old.propertyId = originEnvPropertyId m := by
    have isOrigin : origin.propertyId = originEnvPropertyId m := by simpa using List.find?_some found
    rcases List.mem_append.mp (List.mem_of_find?_eq_some found) with inBefore | inConfigured
    · exact ⟨origin, inBefore, isOrigin⟩
    · obtain ⟨-, same, shared, sameOrigin⟩ := shared_of_mem_configured standard dependent inConfigured isOrigin c.id
      obtain ⟨_, left, rfl, kept⟩ := addInstance_spec first
      rcases kept with rfl | rfl
      · exact ⟨same, List.mem_append_left _ (by simpa using shared), sameOrigin⟩
      · obtain ⟨now, isNow, sameId⟩ := exists_mem_renameFirst (originEnvPropertyId m) ORIGIN_ENV_ID shared
        exact ⟨now, List.mem_append_left _ isNow, sameId.trans sameOrigin⟩
  rw [renameFirst_append hasOrigin, List.append_assoc] at member
  rcases List.mem_append.mp member with renamed | ofOwn
  · obtain ⟨old, isOld, rfl | rfl⟩ := mem_renameFirst renamed
    · exact absurd (Option.some.inj ((ofC ref isOld).symm.trans ofB)) distinct
    · exact absurd (Option.some.inj ((ofC old isOld).symm.trans ofB)) distinct
  · rcases List.mem_append.mp ofOwn with inConfigured | new
    · exact label_of_mem_configured standard dependent inConfigured
    · obtain ⟨add, isAdded, rfl⟩ := List.mem_map.mp new
      exact unnamed add isAdded

end Stored

theorem exists_other {instances : List ServiceInstance} (distinct : (instances.map ServiceInstance.id).Nodup)
    (long : 1 < instances.length) (id : Int) : ∃ c ∈ instances, c.id ≠ id := by
  match instances, long with
  | c :: d :: rest, _ =>
    have differ : c.id ≠ d.id := by
      intro same
      exact (List.nodup_cons.mp distinct).1 (by simp [same])
    by_cases same : c.id = id
    · exact ⟨d, by simp, fun also => differ (same.trans also.symm)⟩
    · exact ⟨c, by simp, same⟩

/-- The values of a backup cluster alone are not those it gets behind another instance. -/
theorem not_perInstance {flag : Bool} {instances : List ServiceInstance} (standard : Standard m serviceId)
    (distinct : (instances.map ServiceInstance.id).Nodup) (long : 1 < instances.length) {b : ServiceInstance}
    (member : b ∈ instances) (backup : IsBackupCluster m b) :
    ¬ PerInstance toJSONString m serviceId flag instances refs := by
  intro perInstance
  obtain ⟨c, other, differs⟩ := exists_other distinct long b.id
  have alonePart : List.Subperm [b] instances := List.singleton_subperm_iff.mpr member
  have notSame : c ∉ [b] := by
    intro same
    exact differs (congrArg ServiceInstance.id (List.mem_singleton.mp same))
  have bothPart : List.Subperm [c, b] instances := List.cons_subperm_of_not_mem_of_mem notSame other alonePart
  obtain ⟨alone, returnedAlone, sameAlone⟩ := perInstance _ alonePart b List.mem_cons_self
  obtain ⟨both, returnedBoth, sameBoth⟩ := perInstance _ bothPart b (by simp)
  obtain ⟨_, _, _, -, dependent, folded, rfl⟩ := generates_iff.mp returnedAlone
  obtain ⟨_, _, _, -, dependent', folded', rfl⟩ := generates_iff.mp returnedBoth
  obtain ⟨ref, inAlone, ofB, named⟩ := named_alone standard dependent backup folded
  obtain ⟨now, kept, sameKey⟩ : ∃ now ∈ latest ProcessPropertyValueRef.key _, now.key = ref.key :=
    exists_mem_latest inAlone
  obtain ⟨ids, labels⟩ := key_inj sameKey
  have inBoth : now ∈ valuesFor b.id (latest ProcessPropertyValueRef.key _) :=
    (sameAlone.trans sameBoth.symm).subset ⟨kept, ids.trans ofB⟩
  exact unnamed_behind standard dependent' backup differs folded' (mem_of_mem_latest inBoth.1) inBoth.2
    (labels.trans named)

end Backup

end Together

section Json
variable (toJSONString : List (String × String) → String) {m : Mappers} {serviceId : Int} {flag : Bool}
  {instances : List ServiceInstance} {refs : List ProcessPropertyValueRef}

/-- The values of an instance are its own where there is no backup cluster or only one
instance; a backup cluster that the portal has stored meets it nowhere else. -/
theorem perInstance_iff (distinct : (instances.map ServiceInstance.id).Nodup)
    (returned : getProcessPropertyValueRefList toJSONString m serviceId instances flag = some refs) :
    ((∀ i ∈ instances, ¬ IsBackupCluster m i) ∨ instances.length ≤ 1 →
      PerInstance toJSONString m serviceId flag instances refs) ∧
    (Standard m serviceId → PerInstance toJSONString m serviceId flag instances refs →
      (∀ i ∈ instances, ¬ IsBackupCluster m i) ∨ instances.length ≤ 1) := by
  constructor
  · rintro (noBackup | short)
    · exact perInstance_of_not returned distinct noBackup
    · exact perInstance_of_short returned short
  · intro standard perInstance
    by_contra neither
    push Not at neither
    obtain ⟨⟨b, member, backup⟩, long⟩ := neither
    exact not_perInstance standard distinct long member backup perInstance

end Json

section Example

/-- A text in quotes, as JSON writes it. -/
def quoted (text : String) : String :=
  String.ofList ('"' :: (text.toList.flatMap fun c => if c = '"' ∨ c = '\\' then ['\\', c] else [c]) ++ ['"'])

def printJson (json : List (String × String)) : String :=
  "\x7b" ++ ",".intercalate (json.map fun entry => quoted entry.1 ++ ":" ++ quoted entry.2) ++ "\x7d"

/-- Service 1 is in environment 2 and backs up environment 1; its instances run `program`.
ZooKeeper is service 5. -/
def backupMappers (program : String) : Mappers where
  getById id := if id = 1 then some ⟨"ZMS_BACKUP_CLUSTER", "backup", some 2⟩
    else if id = 5 then some ⟨"ZOOKEEPER", "zookeeper", some 2⟩ else none
  queryByServiceId id := if id = 1 then
      [⟨1, none, 21, none, "1", "ZMS_BACKUP_CLUSTER", some "SERVICE", "envId", some "", some "", true, none, none⟩,
        ⟨1, none, 22, none, "origin:copy", "ZMS_BACKUP_CLUSTER", some "SERVICE", "backup.cluster.map", some "",
          some "zms-backup-cluster-config", false, none, none⟩]
    else []
  queryByInstanceId _ := []
  ofInstance _ _ member := nomatch member
  listByServiceIdAndPropertyId _ _ _ := []
  listByServiceIdAndInstanceId _ _ := []
  getIdByServiceTypeAndName _ property := if property.name = "envId" then some 21
    else if property.name = "backup.cluster.map" then some 22
    else if property.name = "clientPort" then some 23 else none
  getProgramTypeByInstanceId _ := some program
  listStartInstanceByServiceId id := if id = 5 then [⟨51, "INSTANCE", 9⟩] else []
  listLastSuccessProcess id := if id = 5 then [500] else []
  listByProcessId _ _ :=
    [⟨some 5, some 51, some 23, none, some "2181", some "2181", some "ZOOKEEPER", some "INSTANCE", "clientPort",
      some "zookeeper-server-config", some "", none⟩]
  getEnableIPById id := if id = 9 then some "10.0.0.9" else none
  queryHostServiceInstance _ := []
  getHostByInstanceId _ := none
  listLastProcessByInstance _ := none
  listRunningProcessByInstance _ := none
  listByServiceProcessId _ := []
  getProcessPropertyValueRef _ _ := none
  zkServiceIdOfEnv id := if id = 1 ∨ id = 2 then some 5 else none
  getToken _ := "token"
  zmsPortalUrl := "http://portal"

def backupInstances : List ServiceInstance := [⟨11, "INSTANCE", 7⟩, ⟨12, "INSTANCE", 8⟩]

def namesOriginEnv (ref : ProcessPropertyValueRef) : Bool := ref.instanceId = some 12 && ref.propertyName = ORIGIN_ENV_ID

/-- Instance 12 loses the name of its origin environment behind instance 11. -/
theorem backupInstances_shared : ∃ refs,
    getProcessPropertyValueRefList printJson (backupMappers "zms_backup_cluster-instance") 1 backupInstances true =
      some refs ∧
    ¬ PerInstance printJson (backupMappers "zms_backup_cluster-instance") 1 true backupInstances refs := by
  have together : ((getProcessPropertyValueRefList printJson (backupMappers "zms_backup_cluster-instance") 1
      backupInstances true).any fun refs => !refs.any namesOriginEnv) = true := by decide
  have alone : ((getProcessPropertyValueRefList printJson (backupMappers "zms_backup_cluster-instance") 1
      [⟨12, "INSTANCE", 8⟩] true).any fun refs => refs.any namesOriginEnv) = true := by decide
  obtain ⟨refs, returned, unnamed⟩ := (Option.any_eq_true _ _).mp together
  refine ⟨refs, returned, fun perInstance => ?_⟩
  have part : List.Subperm [⟨12, "INSTANCE", 8⟩] backupInstances := List.singleton_subperm_iff.mpr (by decide)
  obtain ⟨generated, again, same⟩ := perInstance _ part ⟨12, "INSTANCE", 8⟩ List.mem_cons_self
  rw [again, Option.any_some, List.any_eq_true] at alone
  obtain ⟨ref, member, named⟩ := alone
  have ofIt : ref.instanceId = some 12 := by
    simp only [namesOriginEnv, Bool.and_eq_true, decide_eq_true_eq] at named
    exact named.1
  have shared : ref ∈ refs := (same.subset ⟨member, ofIt⟩ : ref ∈ valuesFor 12 refs).1
  have found : refs.any namesOriginEnv = true := List.any_eq_true.mpr ⟨ref, shared, named⟩
  simp [found] at unnamed

/-- With another program there, which adds nothing of its own. -/
theorem perInstance_collector : ∃ refs, PerInstance printJson (backupMappers "zms_collector-instance") 1 true
    backupInstances refs := by
  have returns : (getProcessPropertyValueRefList printJson (backupMappers "zms_collector-instance") 1 backupInstances
      true).isSome = true := by decide
  obtain ⟨refs, returned⟩ := Option.isSome_iff_exists.mp returns
  refine ⟨refs, (perInstance_iff printJson (by decide) returned).1 (.inl ?_)⟩
  intro i _ backup
  have same : "zms_collector-instance" = "zms_backup_cluster-instance" := Option.some.inj backup
  exact absurd same (by decide)

end Example

end Zms.Portal.Serve
