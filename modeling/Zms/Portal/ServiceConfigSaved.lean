import Mathlib
import Zms.Portal.InstanceIds
import Zms.Portal.ServiceConfig
import Zms.Transition.Collecting

/-! Saving the configuration of a service or an instance stores what was submitted and leaves
the values of other properties alone. -/

set_option autoImplicit false

namespace Zms.Portal.ServiceConfig

open Zms.Registry

/-- A property of refs that their values have no part in. -/
def ByKey (P : ServicePropertyValueRef → Bool) : Prop :=
  ∀ ref valueId value, P { ref with propertyValueId := valueId, currentValue := value } = P ref

section Pending

/-- The values with the property that will be stored in the end, those of some rows left out. -/
def valuesBut (P : ServicePropertyValueRef → Bool) (ids : List JavaInt) (s : Pending) : List String :=
  (s.table.rows.filter fun row => P row.ref && row.id ∉ s.deleteRefList && row.id ∉ ids).map
      (fun row => row.ref.currentValue) ++
    (s.insertRefList.filter P).map ServicePropertyValueRef.currentValue

/-- Nothing with the property is different in the two states. -/
structure Frame (Q : ServicePropertyValueRef → Bool) (s t : Pending) : Prop where
  rows : t.table.rows.filter (fun row => Q row.ref) = s.table.rows.filter fun row => Q row.ref
  deletes : ∀ row ∈ s.table.rows, Q row.ref = true → (row.id ∈ t.deleteRefList ↔ row.id ∈ s.deleteRefList)
  inserts : t.insertRefList.filter Q = s.insertRefList.filter Q

variable {P Q : ServicePropertyValueRef → Bool} {s t u : Pending}

theorem Frame.refl (Q : ServicePropertyValueRef → Bool) (s : Pending) : Frame Q s s := ⟨rfl, fun _ _ _ => Iff.rfl, rfl⟩

theorem Frame.mem_rows (frame : Frame Q s t) {row : StoredRef} (is : Q row.ref = true) :
    row ∈ t.table.rows ↔ row ∈ s.table.rows := by
  have both : row ∈ t.table.rows.filter (fun row => Q row.ref) ↔ row ∈ s.table.rows.filter fun row => Q row.ref := by
    rw [frame.rows]
  simpa [List.mem_filter, is] using both

theorem Frame.trans (first : Frame Q s t) (rest : Frame Q t u) : Frame Q s u where
  rows := rest.rows.trans first.rows
  deletes row member is :=
    (rest.deletes row ((first.mem_rows is).mpr member) is).trans (first.deletes row member is)
  inserts := rest.inserts.trans first.inserts

theorem Frame.valuesBut (frame : Frame Q s t) (ids : List JavaInt) : valuesBut Q ids t = valuesBut Q ids s := by
  have split : ∀ v : Pending, (v.table.rows.filter fun row => Q row.ref && row.id ∉ v.deleteRefList && row.id ∉ ids) =
      (v.table.rows.filter fun row => Q row.ref).filter fun row => row.id ∉ v.deleteRefList && row.id ∉ ids := by
    intro v
    rw [List.filter_filter]
    refine List.filter_congr fun row _ => ?_
    rw [Bool.and_assoc, Bool.and_comm (decide _ && decide _)]
  have same : (s.table.rows.filter fun row => Q row.ref).filter (fun row => row.id ∉ t.deleteRefList && row.id ∉ ids) =
      (s.table.rows.filter fun row => Q row.ref).filter fun row => row.id ∉ s.deleteRefList && row.id ∉ ids := by
    refine List.filter_congr fun row member => ?_
    obtain ⟨inRows, is⟩ := List.mem_filter.mp member
    simp only [frame.deletes row inRows is]
  unfold ServiceConfig.valuesBut
  rw [split t, split s, frame.rows, same, frame.inserts]

/-- The rows of the ids are there, and have the property. -/
def Owned (P : ServicePropertyValueRef → Bool) (ids : List JavaInt) (s : Pending) : Prop :=
  ∀ id ∈ ids, ∃ row ∈ s.table.rows, row.id = id ∧ P row.ref = true

theorem Owned.not {ids : List JavaInt} (owned : Owned P ids s) (disjoint : ∀ ref, P ref = true → Q ref = false)
    {row : StoredRef} (member : row ∈ s.table.rows) (inIds : row.id ∈ ids) : Q row.ref = false := by
  obtain ⟨other, found, same, is⟩ := owned row.id inIds
  rw [← List.inj_on_of_nodup_map s.table.keys found member same]
  exact disjoint _ is

end Pending

section Update
variable {P Q : ServicePropertyValueRef → Bool} {s : Pending} {id : JavaInt} {valueId : Option Int} {value : String}

theorem rows_updateById (table : RefTable) : (updateById table id valueId value).rows =
    table.rows.map fun row => if row.id = id then row.withValue valueId value else row := rfl

theorem frame_updateById (byKey : ByKey Q) (disjoint : ∀ ref, P ref = true → Q ref = false) {ids : List JavaInt}
    (owned : Owned P (id :: ids) s) : Frame Q s { s with table := updateById s.table id valueId value } where
  rows := by
    have keeps : ∀ row : StoredRef, Q (if row.id = id then row.withValue valueId value else row).ref = Q row.ref := by
      intro row
      split
      · exact byKey row.ref valueId value
      · rfl
    rw [rows_updateById, List.filter_map]
    simp only [Function.comp_def, keeps]
    refine (List.map_congr_left fun row member => ?_).trans (List.map_id _)
    obtain ⟨inRows, is⟩ := List.mem_filter.mp member
    split
    next own =>
      rw [owned.not disjoint inRows (own ▸ List.mem_cons_self)] at is
      cases is
    next => rfl
  deletes _ _ _ := Iff.rfl
  inserts := rfl

theorem Owned.updateById (byKey : ByKey P) {ids : List JavaInt} (owned : Owned P ids s) :
    Owned P ids { s with table := updateById s.table id valueId value } := by
  intro other member
  obtain ⟨row, found, same, is⟩ := owned other member
  refine ⟨_, List.mem_map_of_mem found, ?_, ?_⟩
  · split <;> exact same
  · split
    · exact (byKey row.ref valueId value).trans is
    · exact is

theorem valuesBut_updateById (byKey : ByKey P) {ids : List JavaInt} (owned : Owned P (id :: ids) s)
    (alive : id ∉ s.deleteRefList) (fresh : id ∉ ids) :
    (valuesBut P ids { s with table := updateById s.table id valueId value }).Perm
      (value :: valuesBut P (id :: ids) s) := by
  obtain ⟨row, found, rfl, is⟩ := owned id List.mem_cons_self
  obtain ⟨before, after, rows⟩ := List.append_of_mem found
  have distinct := s.table.keys
  rw [rows, List.map_append, List.map_cons, List.nodup_middle, List.nodup_cons, ← List.map_append] at distinct
  have others : ∀ other ∈ before ++ after, other.id ≠ row.id := fun other member same =>
    distinct.1 (same ▸ List.mem_map_of_mem member)
  have unchanged : ∀ part : List StoredRef, (∀ other ∈ part, other.id ≠ row.id) →
      (part.map fun other => if other.id = row.id then other.withValue valueId value else other) = part :=
    fun part differ => (List.map_congr_left fun other member => if_neg (differ other member)).trans (List.map_id _)
  have sameFilter : ∀ part : List StoredRef, (∀ other ∈ part, other.id ≠ row.id) →
      (part.filter fun other => P other.ref && other.id ∉ s.deleteRefList && other.id ∉ ids) =
        part.filter fun other => P other.ref && other.id ∉ s.deleteRefList && other.id ∉ row.id :: ids :=
    fun part differ => List.filter_congr fun other member => by simp [differ other member]
  have beforeDiffer : ∀ other ∈ before, other.id ≠ row.id := fun other member =>
    others other (List.mem_append_left _ member)
  have afterDiffer : ∀ other ∈ after, other.id ≠ row.id := fun other member =>
    others other (List.mem_append_right _ member)
  have changed : (P (row.withValue valueId value).ref && (row.withValue valueId value).id ∉ s.deleteRefList &&
      (row.withValue valueId value).id ∉ ids) = true := by
    have isStill : P (row.withValue valueId value).ref = true := (byKey row.ref valueId value).trans is
    rw [isStill, show (row.withValue valueId value).id = row.id from rfl]
    simp [alive, fresh]
  unfold valuesBut
  simp only [rows_updateById, rows, List.map_append, List.map_cons, if_true, unchanged before beforeDiffer,
    unchanged after afterDiffer, List.filter_append, List.filter_cons, changed, sameFilter before beforeDiffer,
    sameFilter after afterDiffer, List.mem_cons_self, not_true_eq_false, decide_false, Bool.and_false,
    Bool.false_eq_true, if_false, List.append_assoc, List.cons_append]
  exact List.perm_middle

end Update

section Items
variable {P Q : ServicePropertyValueRef → Bool} {s t : Pending} {serviceId : Int} {instanceId : Option Int}
  {item : ServicePropertyQueryDTO} {ids : List JavaInt}

theorem getInsert_spec {newValues : List String} {refs : List ServicePropertyValueRef}
    (made : newValues.mapM (getInsertServicePropertyValueRef serviceId instanceId item) = some refs) :
    refs.map ServicePropertyValueRef.currentValue = newValues ∧
      ∀ ref ∈ refs, ref.serviceId = serviceId ∧ ref.instanceId = instanceId ∧ ref.propertyId = item.id := by
  have pairs := Transition.mapM_eq_some_iff.mp made
  induction pairs with
  | nil => exact ⟨rfl, fun _ member => absurd member List.not_mem_nil⟩
  | cons first _ ih =>
    obtain ⟨valueId, -, rfl⟩ := Option.map_eq_some_iff.mp first
    obtain ⟨same, all⟩ := ih (Transition.mapM_eq_some_iff.mpr ‹_›)
    refine ⟨by rw [List.map_cons, same], fun ref member => ?_⟩
    rcases List.mem_cons.mp member with rfl | later
    · exact ⟨rfl, rfl, rfl⟩
    · exact all ref later

theorem insertAll_spec {newValues : List String} (inserted : insertAll serviceId instanceId item newValues s = some t)
    (inserts : ∀ valueId value, P ⟨serviceId, instanceId, item.id, valueId, value⟩ = true) :
    valuesBut P [] t = valuesBut P [] s ++ newValues ∧ t.deleteRefList = s.deleteRefList ∧
      t.table = s.table ∧ ∀ Q, (∀ ref, P ref = true → Q ref = false) → Frame Q s t := by
  obtain ⟨refs, made, rfl⟩ := Option.map_eq_some_iff.mp inserted
  obtain ⟨same, all⟩ := getInsert_spec made
  have allP : ∀ ref ∈ refs, P ref = true := by
    intro ref member
    obtain ⟨ofService, ofInstance, ofProperty⟩ := all ref member
    have is := inserts ref.propertyValueId ref.currentValue
    rwa [← ofService, ← ofInstance, ← ofProperty] at is
  refine ⟨?_, rfl, rfl, fun Q disjoint => ⟨rfl, fun _ _ _ => Iff.rfl, ?_⟩⟩
  · simp only [valuesBut, List.filter_append, List.map_append, List.filter_eq_self.mpr allP, same, List.append_assoc]
  · have noneQ : refs.filter Q = [] :=
      List.filter_eq_nil_iff.mpr fun ref member => by simp [disjoint ref (allP ref member)]
    rw [List.filter_append, noneQ, List.append_nil]

theorem deleteAll_spec {refIds : List String} (deleted : deleteAll refIds s = some t)
    (parsed : refIds.mapM parseId = some ids) (owned : Owned P ids s) :
    valuesBut P [] t = valuesBut P ids s ∧ t.deleteRefList = s.deleteRefList ++ ids ∧ t.table = s.table ∧
      ∀ Q, (∀ ref, P ref = true → Q ref = false) → Frame Q s t := by
  rw [deleteAll, parsed] at deleted
  cases deleted
  refine ⟨?_, rfl, rfl, fun Q disjoint => ⟨rfl, fun row member is => ?_, rfl⟩⟩
  · unfold valuesBut
    congr 2
    refine List.filter_congr fun row _ => ?_
    simp [List.mem_append, not_or, Bool.and_assoc]
  · rw [List.mem_append, or_iff_left]
    intro inIds
    rw [owned.not disjoint member inIds] at is
    cases is

/-- What is left to do with the ids and the values of an item. -/
structure Ready (P : ServicePropertyValueRef → Bool) (ids : List JavaInt) (s : Pending) : Prop where
  distinct : ids.Nodup
  owned : Owned P ids s
  alive : ∀ id ∈ ids, id ∉ s.deleteRefList

/-- The values of an item take the place of those of its ids, and nothing else changes. -/
structure Took (P : ServicePropertyValueRef → Bool) (ids : List JavaInt) (newValues : List String) (s t : Pending) :
    Prop where
  values : (valuesBut P [] t).Perm (valuesBut P ids s ++ newValues)
  deletes : ∀ id ∈ t.deleteRefList, id ∈ s.deleteRefList ∨ id ∈ ids
  ids : t.table.rows.map StoredRef.id = s.table.rows.map StoredRef.id
  frame : ∀ Q, ByKey Q → (∀ ref, P ref = true → Q ref = false) → Frame Q s t

theorem compareAll_took (byKey : ByKey P)
    (inserts : ∀ valueId value, P ⟨serviceId, instanceId, item.id, valueId, value⟩ = true)
    {refIds newValues : List String} (done : compareAll serviceId instanceId item refIds newValues s = some t)
    (parsed : refIds.mapM parseId = some ids) (ready : Ready P ids s) : Took P ids newValues s t := by
  induction refIds generalizing newValues ids s with
  | nil =>
    rw [List.mapM_nil] at parsed
    cases parsed
    rw [compareAll] at done
    obtain ⟨same, deletes, table, frame⟩ := insertAll_spec done inserts
    exact ⟨same ▸ List.Perm.refl _, fun id member => .inl (deletes ▸ member), by rw [table], fun Q _ => frame Q⟩
  | cons refId refIds ih =>
    cases newValues with
    | nil =>
      rw [compareAll] at done
      · obtain ⟨same, deletes, table, frame⟩ := deleteAll_spec done parsed ready.owned
        refine ⟨?_, fun id member => ?_, by rw [table], fun Q _ => frame Q⟩
        · rw [same, List.append_nil]
        · rwa [deletes, List.mem_append] at member
      · exact List.cons_ne_nil _ _
    | cons value newValues =>
      rw [List.mapM_cons] at parsed
      obtain ⟨id, first, others⟩ := Option.bind_eq_some_iff.mp parsed
      obtain ⟨rest, parsedRest, whole⟩ := Option.bind_eq_some_iff.mp others
      cases whole
      rw [compareAll, first, Option.bind_eq_bind, Option.bind_some] at done
      obtain ⟨table, updated, done⟩ := Option.bind_eq_some_iff.mp done
      obtain ⟨valueId, -, rfl⟩ := Option.map_eq_some_iff.mp updated
      obtain ⟨fresh, distinct⟩ := List.nodup_cons.mp ready.distinct
      have ownedRest : Owned P rest s := fun other member => ready.owned other (List.mem_cons_of_mem _ member)
      have readyRest : Ready P rest { s with table := updateById s.table id valueId value } :=
        ⟨distinct, ownedRest.updateById byKey, fun other member => ready.alive other (List.mem_cons_of_mem _ member)⟩
      have took := ih done parsedRest readyRest
      have changed : (valuesBut P rest { s with table := updateById s.table id valueId value }).Perm
          (value :: valuesBut P (id :: rest) s) :=
        valuesBut_updateById byKey ready.owned (ready.alive id List.mem_cons_self) fresh
      refine ⟨took.values.trans ?_, fun other member => ?_, took.ids.trans ?_, fun Q byKeyQ disjoint => ?_⟩
      · exact (changed.append_right newValues).trans List.perm_middle.symm
      · exact (took.deletes other member).imp_right (List.mem_cons_of_mem _)
      · rw [rows_updateById, List.map_map]
        refine List.map_congr_left fun row _ => ?_
        simp only [Function.comp_apply]
        split <;> rfl
      · exact (frame_updateById byKeyQ disjoint ready.owned).trans (took.frame Q byKeyQ disjoint)

def HasIds (item : ServicePropertyQueryDTO) (ids : List JavaInt) : Prop :=
  match nonEmpty item.propertyValueRefId with
  | none => ids = []
  | some refIds => (Text.split ',' refIds).mapM parseId = some ids

def takenValues (item : ServicePropertyQueryDTO) : List String :=
  match nonEmpty item.currentValue with
  | none => []
  | some currentValue => values item currentValue

theorem hasIds_of_nonEmpty {item : ServicePropertyQueryDTO} {refIds : String}
    (given : nonEmpty item.propertyValueRefId = some refIds) (ids : List JavaInt) :
    HasIds item ids ↔ (Text.split ',' refIds).mapM parseId = some ids := by
  simp only [HasIds, given]

theorem takenValues_of_nonEmpty {item : ServicePropertyQueryDTO} {currentValue : String}
    (given : nonEmpty item.currentValue = some currentValue) : takenValues item = values item currentValue := by
  simp only [takenValues, given]

theorem saveItem_took (byKey : ByKey P)
    (inserts : ∀ valueId value, P ⟨serviceId, instanceId, item.id, valueId, value⟩ = true)
    (saved : saveItem serviceId instanceId item s = some t) (has : HasIds item ids) (ready : Ready P ids s) :
    Took P ids (takenValues item) s t := by
  unfold saveItem at saved
  unfold HasIds at has
  unfold takenValues
  cases current : nonEmpty item.currentValue with
  | none =>
    cases refs : nonEmpty item.propertyValueRefId with
    | none =>
      rw [current, refs] at saved
      rw [refs] at has
      cases saved
      subst has
      exact ⟨by simp, fun id member => .inl member, rfl, fun Q _ _ => Frame.refl Q s⟩
    | some refIds =>
      rw [current, refs] at saved
      rw [refs] at has
      obtain ⟨same, deletes, table, frame⟩ := deleteAll_spec saved has ready.owned
      refine ⟨by rw [same, List.append_nil], fun id member => ?_, by rw [table], fun Q _ => frame Q⟩
      rwa [deletes, List.mem_append] at member
  | some text =>
    cases refs : nonEmpty item.propertyValueRefId with
    | none =>
      rw [current, refs] at saved
      rw [refs] at has
      subst has
      obtain ⟨same, deletes, table, frame⟩ := insertAll_spec saved inserts
      exact ⟨same ▸ List.Perm.refl _, fun id member => .inl (deletes ▸ member), by rw [table], fun Q _ => frame Q⟩
    | some refIds =>
      rw [current, refs] at saved
      rw [refs] at has
      exact compareAll_took byKey inserts saved has ready

theorem Frame.ready (frame : Frame P s t) (ready : Ready P ids s) : Ready P ids t where
  distinct := ready.distinct
  owned id member := by
    obtain ⟨row, found, same, is⟩ := ready.owned id member
    exact ⟨row, (frame.mem_rows is).mpr found, same, is⟩
  alive id member := by
    obtain ⟨row, found, same, is⟩ := ready.owned id member
    rw [← same, frame.deletes row found is, same]
    exact ready.alive id member

end Items

section Form
variable {s t : Pending} {serviceId : Int}

/-- An item of a form, of the service or of an instance. -/
abbrev Entry := Option Int × ServicePropertyQueryDTO

def saveEntry (serviceId : Int) (s : Pending) (entry : Entry) : Option Pending :=
  saveItem serviceId entry.1 entry.2 s

def entriesOfForm (form : List ServicePropertyInstanceQueryDTO) : List Entry :=
  form.flatMap fun prop => prop.propertyList.map fun item => (prop.instanceId, item)

theorem foldlM_form (form : List ServicePropertyInstanceQueryDTO) (s : Pending) :
    form.foldlM (fun s prop => prop.propertyList.foldlM (fun s item => saveItem serviceId prop.instanceId item s) s) s =
      (entriesOfForm form).foldlM (saveEntry serviceId) s := by
  induction form generalizing s with
  | nil => rfl
  | cons prop rest ih =>
    rw [List.foldlM_cons, entriesOfForm, List.flatMap_cons, List.foldlM_append, List.foldlM_map]
    exact congrArg (Option.bind _) (funext ih)

/-- What is asked of the entries before they are saved: their ids are those of their rows, no
ref belongs to two of them, and what is inserted for one belongs to it. -/
structure Prepared (serviceId : Int) (P : Entry → ServicePropertyValueRef → Bool) (ids : Entry → List JavaInt)
    (entries : List Entry) (s : Pending) : Prop where
  apart : entries.Pairwise fun entry other => ∀ ref, P entry ref = true → P other ref = true → False
  byKey : ∀ entry ∈ entries, ByKey (P entry)
  has : ∀ entry ∈ entries, HasIds entry.2 (ids entry)
  inserts : ∀ entry ∈ entries, ∀ valueId value, P entry ⟨serviceId, entry.1, entry.2.id, valueId, value⟩ = true
  ready : ∀ entry ∈ entries, Ready (P entry) (ids entry) s
  noOthers : ∀ entry ∈ entries, valuesBut (P entry) (ids entry) s = []

/-- Entry by entry, each leaves its values, and what belongs to none of them stays. -/
theorem foldlM_saveEntry {P : Entry → ServicePropertyValueRef → Bool} {ids : Entry → List JavaInt}
    {entries : List Entry} (prepared : Prepared serviceId P ids entries s)
    (within : ∀ id ∈ s.deleteRefList, id ∈ s.table.rows.map StoredRef.id)
    (saved : entries.foldlM (saveEntry serviceId) s = some t) :
    (∀ entry ∈ entries, (valuesBut (P entry) [] t).Perm (takenValues entry.2)) ∧
      (∀ Q, ByKey Q → (∀ entry ∈ entries, ∀ ref, P entry ref = true → Q ref = false) → Frame Q s t) ∧
      ∀ id ∈ t.deleteRefList, id ∈ t.table.rows.map StoredRef.id := by
  induction entries generalizing s with
  | nil =>
    cases saved
    exact ⟨fun _ member => absurd member List.not_mem_nil, fun Q _ _ => Frame.refl Q _, within⟩
  | cons entry rest ih =>
    obtain ⟨apartFirst, apartRest⟩ := List.pairwise_cons.mp prepared.apart
    have disjoint : ∀ other ∈ rest, ∀ ref, P entry ref = true → P other ref = false := fun other member ref is =>
      Bool.eq_false_iff.mpr (apartFirst other member ref is)
    have disjointBack : ∀ other ∈ rest, ∀ ref, P other ref = true → P entry ref = false := fun other member ref is =>
      Bool.eq_false_iff.mpr fun own => apartFirst other member ref own is
    rw [List.foldlM_cons] at saved
    obtain ⟨u, first, later⟩ := Option.bind_eq_some_iff.mp saved
    have here : entry ∈ entry :: rest := List.mem_cons_self
    have there : ∀ other ∈ rest, other ∈ entry :: rest := fun other member => List.mem_cons_of_mem _ member
    have took : Took (P entry) (ids entry) (takenValues entry.2) s u :=
      saveItem_took (prepared.byKey entry here) (prepared.inserts entry here) first (prepared.has entry here)
        (prepared.ready entry here)
    have frameRest : ∀ other ∈ rest, Frame (P other) s u := fun other member =>
      took.frame (P other) (prepared.byKey other (there other member)) (disjoint other member)
    have preparedRest : Prepared serviceId P ids rest u :=
      { apart := apartRest
        byKey := fun other member => prepared.byKey other (there other member)
        has := fun other member => prepared.has other (there other member)
        inserts := fun other member => prepared.inserts other (there other member)
        ready := fun other member => (frameRest other member).ready (prepared.ready other (there other member))
        noOthers := fun other member =>
          ((frameRest other member).valuesBut _).trans (prepared.noOthers other (there other member)) }
    have withinRest : ∀ id ∈ u.deleteRefList, id ∈ u.table.rows.map StoredRef.id := by
      intro id member
      rw [took.ids]
      rcases took.deletes id member with earlier | own
      · exact within id earlier
      · obtain ⟨row, found, same, -⟩ := (prepared.ready entry here).owned id own
        exact same ▸ List.mem_map_of_mem found
    obtain ⟨valuesRest, frame, withinEnd⟩ := ih preparedRest withinRest later
    refine ⟨fun other member => ?_, fun Q byKeyQ none => ?_, withinEnd⟩
    · rcases List.mem_cons.mp member with rfl | inRest
      · have kept := (frame (P other) (prepared.byKey other here) disjointBack).valuesBut []
        have values := took.values
        rw [prepared.noOthers other here, List.nil_append] at values
        rwa [kept]
      · exact valuesRest other inRest
    · exact (took.frame Q byKeyQ (none entry here)).trans
        (frame Q byKeyQ fun other member => none other (there other member))

end Form

end Zms.Portal.ServiceConfig
