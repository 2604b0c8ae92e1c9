import Mathlib
import Zms.Portal.ServiceConfigSaved

/-! The pages of the configuration, the forms submitted on them, and what is stored after a form
is saved. -/

set_option autoImplicit false

namespace Zms.Portal.ServiceConfig

open Zms.Registry
open Zms.Portal.Serve (ServiceInstance)

section Page
variable {page : Page} {properties : Table ServiceProperty.id} {table : RefTable}

theorem byKey_shows (page : Page) (instanceId : Option Int) (propertyId : Int) :
    ByKey (page.shows instanceId propertyId) := by
  intro ref valueId value
  cases page <;> cases instanceId <;> rfl

def shownRows (page : Page) (table : RefTable) (instanceId : Option Int) (propertyId : Int) : List StoredRef :=
  (page.rows table).filter fun row => page.shows instanceId propertyId row.ref

/-- A page reads all rows of the properties that it shows. -/
theorem shownRows_perm (page : Page) (table : RefTable) (instanceId : Option Int) (propertyId : Int) :
    (shownRows page table instanceId propertyId).Perm
      (table.rows.filter fun row => page.shows instanceId propertyId row.ref) := by
  cases page with
  | ofService serviceId instanceList =>
    refine ((List.perm_insertionSort _ _).filter _).trans ?_
    rw [List.filter_filter]
    refine List.Perm.of_eq (List.filter_congr fun row _ => ?_)
    cases instanceId <;> simp only [Page.shows] <;> grind
  | ofInstance pageInstance =>
    refine ((List.perm_insertionSort _ _).filter _).trans ?_
    rw [List.filter_filter]
    refine List.Perm.of_eq (List.filter_congr fun row _ => ?_)
    simp only [Page.shows]
    grind

theorem mem_shownRows {instanceId : Option Int} {propertyId : Int} {row : StoredRef} :
    row ∈ shownRows page table instanceId propertyId ↔
      row ∈ table.rows ∧ page.shows instanceId propertyId row.ref = true := by
  rw [(shownRows_perm page table instanceId propertyId).mem_iff, List.mem_filter]

theorem storedValues_perm (page : Page) (table : RefTable) (instanceId : Option Int) (propertyId : Int) :
    (storedValues page table instanceId propertyId).Perm
      ((table.rows.filter fun row => page.shows instanceId propertyId row.ref).map fun row => row.ref.currentValue) :=
  (shownRows_perm page table instanceId propertyId).map _

/-- Whose values of a property a page shows: those of the service or of its instances. -/
def Fits (page : Page) (property : ServiceProperty) (instanceId : Option Int) : Prop :=
  match page with
  | .ofService _ _ => property.instanceType = "SERVICE" ↔ instanceId = none
  | .ofInstance pageInstance => instanceId = some pageInstance

/-- An entry of a page: the property and its rows. -/
def IsEntry (page : Page) (table : RefTable) (instanceId : Option Int) (property : ServiceProperty)
    (old : ServicePropertyQueryDTO) : Prop :=
  Fits page property instanceId ∧ ∃ shownInstance,
    old = { getServicePropertyQueryDTO property (shownRows page table instanceId property.id) with
      instanceId := shownInstance }

theorem instanceType_getServicePropertyQueryDTO (item : ServiceProperty) (rows : List StoredRef) :
    (getServicePropertyQueryDTO item rows).instanceType = item.instanceType := by
  unfold getServicePropertyQueryDTO
  split <;> rfl

theorem serviceId_of_mem_listAll {serviceId : Int} {row : StoredRef} (member : row ∈ listAllByServiceId table serviceId) :
    row.ref.serviceId = serviceId := by
  have inRows := (List.perm_insertionSort _ _).mem_iff.mp member
  simpa using (List.mem_filter.mp inRows).2

theorem isEntry_of_entriesOf {serviceId : Int} {instanceList : Table ServiceInstance.id} {property : ServiceProperty}
    {entries : List ServicePropertyQueryDTO} {old : ServicePropertyQueryDTO}
    (made : entriesOf (listAllByServiceId table serviceId) instanceList.rows property = some entries)
    (member : old ∈ entries) :
    IsEntry (.ofService serviceId instanceList) table old.instanceId property old ∧
      old.instanceType = property.instanceType := by
  unfold entriesOf at made
  split at made
  next ofService =>
    cases made
    rw [List.mem_singleton.mp member]
    have rows : ((listAllByServiceId table serviceId).filter fun row => row.ref.propertyId = property.id) =
        shownRows (.ofService serviceId instanceList) table none property.id :=
      List.filter_congr fun row inList => by simp [Page.shows, serviceId_of_mem_listAll inList]
    have noInstance : ∀ rows, (getServicePropertyQueryDTO property rows).instanceId = none := by
      intro rows
      unfold getServicePropertyQueryDTO
      split <;> rfl
    rw [noInstance, rows]
    exact ⟨⟨iff_of_true ofService rfl, _, rfl⟩, instanceType_getServicePropertyQueryDTO _ _⟩
  next ofInstance =>
    obtain ⟨i, -, entry⟩ := Transition.exists_of_mem_mapM made member
    unfold instanceEntry at entry
    split at entry
    · cases entry
    · cases entry
      have rows : ((listAllByServiceId table serviceId).filter fun row =>
          row.ref.propertyId = property.id && row.ref.instanceId = some i.id) =
          shownRows (.ofService serviceId instanceList) table (some i.id) property.id :=
        List.filter_congr fun row inList => by simp [Page.shows, serviceId_of_mem_listAll inList]
      rw [rows]
      exact ⟨⟨iff_of_false ofInstance (Option.some_ne_none _), _, rfl⟩, instanceType_getServicePropertyQueryDTO _ _⟩

theorem isEntry_of_shown {shown : List ServicePropertyInstanceQueryDTO} {prop : ServicePropertyInstanceQueryDTO}
    {old : ServicePropertyQueryDTO} (returned : getServiceInstanceConfig page properties table = some shown)
    (inShown : prop ∈ shown) (inProp : old ∈ prop.propertyList) :
    ∃ property ∈ properties.rows, IsEntry page table prop.instanceId property old := by
  cases page with
  | ofInstance pageInstance =>
    cases returned
    rw [List.mem_singleton.mp inShown] at inProp ⊢
    obtain ⟨property, found, rfl⟩ := List.mem_map.mp inProp
    have rows : ((queryByInstanceId table pageInstance).filter fun row => row.ref.propertyId = property.id) =
        shownRows (.ofInstance pageInstance) table (some pageInstance) property.id := by
      refine List.filter_congr fun row inList => ?_
      have inRows := (List.perm_insertionSort _ _).mem_iff.mp inList
      have ofInstance := of_decide_eq_true (List.mem_filter.mp inRows).2
      simp [Page.shows, ofInstance]
    rw [rows]
    exact ⟨property, found, rfl, _, rfl⟩
  | ofService serviceId instanceList =>
    obtain ⟨entries, made, rfl⟩ := Option.map_eq_some_iff.mp returned
    have each : ∀ old ∈ entries.flatten, ∃ property ∈ properties.rows,
        IsEntry (.ofService serviceId instanceList) table old.instanceId property old ∧
          old.instanceType = property.instanceType := by
      intro old member
      obtain ⟨list, inEntries, inList⟩ := List.mem_flatten.mp member
      obtain ⟨property, found, madeList⟩ := Transition.exists_of_mem_mapM made inEntries
      exact ⟨property, found, isEntry_of_entriesOf madeList inList⟩
    rcases List.mem_cons.mp inShown with rfl | inInstances
    · obtain ⟨inEntries, ofService⟩ := List.mem_filter.mp inProp
      obtain ⟨property, found, is, sameType⟩ := each old inEntries
      have noInstance : old.instanceId = none := is.1.mp (sameType.symm.trans (of_decide_eq_true ofService))
      exact ⟨property, found, noInstance ▸ is⟩
    · obtain ⟨i, -, rfl⟩ := List.mem_map.mp inInstances
      obtain ⟨inOthers, ofInstance⟩ := List.mem_filter.mp inProp
      obtain ⟨property, found, is, -⟩ := each old (List.mem_filter.mp inOthers).1
      exact ⟨property, found, of_decide_eq_true ofInstance ▸ is⟩

theorem shows_apart {property other : ServiceProperty} {instanceId otherInstance : Option Int}
    (inProperties : property ∈ properties.rows) (otherIn : other ∈ properties.rows)
    (fits : Fits page property instanceId) (otherFits : Fits page other otherInstance)
    (differ : (instanceId, property.id) ≠ (otherInstance, other.id)) {ref : ServicePropertyValueRef}
    (shows : page.shows instanceId property.id ref = true) (otherShows : page.shows otherInstance other.id ref = true) :
    False := by
  have ids : property.id = other.id := by
    simp only [Page.shows, Bool.and_eq_true, decide_eq_true_eq] at shows otherShows
    exact shows.1.symm.trans otherShows.1
  have same : property = other := List.inj_on_of_nodup_map properties.keys inProperties otherIn ids
  subst same
  have instances : instanceId ≠ otherInstance := fun same => differ (by rw [same])
  cases page with
  | ofInstance pageInstance => exact instances (Eq.trans fits (Eq.symm otherFits))
  | ofService serviceId instanceList =>
    have bothNone : instanceId = none ↔ otherInstance = none := Iff.trans (Iff.symm fits) otherFits
    cases instanceId with
    | none => exact instances (bothNone.mp rfl).symm
    | some i =>
      cases otherInstance with
      | none => exact instances (bothNone.mpr rfl)
      | some j =>
        simp only [Page.shows, Bool.and_eq_true, decide_eq_true_eq] at shows otherShows
        exact instances (shows.2.2.symm.trans otherShows.2.2)

/-! The ids as a page returns them. -/

theorem parseId_toString (id : JavaInt) : parseId (toString id.val) = some id := by
  rw [parseId, AddInstance.parseInt_toString id.2.1 id.2.2, Option.bind_some, dif_pos id.2]

theorem toString_ne_empty (id : JavaInt) : toString id.val ≠ "" := by
  intro empty
  have read := AddInstance.parseInt_toString id.2.1 id.2.2
  have unreadable : Serve.parseInt "" = none := by decide
  rw [empty, unreadable] at read
  cases read

theorem parseId_ids (rows : List StoredRef) :
    (rows.map fun row => toString row.id.val).mapM parseId = some (rows.map StoredRef.id) := by
  refine Transition.mapM_eq_some_iff.mpr ?_
  rw [List.forall₂_map_left_iff, List.forall₂_map_right_iff]
  exact List.forall₂_same.mpr fun row _ => parseId_toString row.id

theorem nonEmpty_join {texts : List String} {last : String} (ends : texts.getLast? = some last)
    (notEmpty : last ≠ "") : nonEmpty (some (Text.join ',' texts)) = some (Text.join ',' texts) := by
  have joined : Text.join ',' texts ≠ "" := by
    intro empty
    have chars : (Text.join ',' texts).toList.getLast? = last.toList.getLast? := Text.getLast?_join ends notEmpty
    rw [empty] at chars
    exact notEmpty (String.toList_injective (List.getLast?_eq_none_iff.mp chars.symm))
  exact Option.filter_some_pos (p := fun text : String => decide (text ≠ "")) (decide_eq_true joined)

theorem exists_getLast? {α : Type} {xs : List α} (some : xs ≠ []) : ∃ last ∈ xs, xs.getLast? = .some last :=
  ⟨xs.getLast some, List.getLast_mem some, List.getLast?_eq_some_getLast some⟩

theorem hasIds_of_isEntry {instanceId : Option Int} {property : ServiceProperty}
    {old item : ServicePropertyQueryDTO} (is : IsEntry page table instanceId property old)
    (same : old.propertyValueRefId = item.propertyValueRefId) :
    HasIds item ((shownRows page table instanceId property.id).map StoredRef.id) := by
  obtain ⟨-, shownInstance, rfl⟩ := is
  generalize shownRows page table instanceId property.id = rows at same ⊢
  unfold getServicePropertyQueryDTO at same
  by_cases empty : rows = []
  · rw [if_pos empty] at same
    unfold HasIds
    rw [← same, empty]
    rfl
  · rw [if_neg empty] at same
    have someText : rows.map (fun row => toString row.id.val) ≠ [] := by simpa using empty
    obtain ⟨text, inTexts, ends⟩ := exists_getLast? someText
    obtain ⟨row, -, rfl⟩ := List.mem_map.mp inTexts
    have given : nonEmpty item.propertyValueRefId = some _ :=
      (congrArg nonEmpty same.symm).trans (nonEmpty_join ends (toString_ne_empty row.id))
    rw [hasIds_of_nonEmpty given]
    have free : ∀ text ∈ rows.map fun row => toString row.id.val, ',' ∉ text.toList := by
      intro text member
      obtain ⟨row, -, rfl⟩ := List.mem_map.mp member
      exact Text.notMem_toString (by decide) (by decide) row.id.val
    rw [Text.split_join free ends (toString_ne_empty row.id), parseId_ids]

end Page

section Form
variable {page : Page} {properties : Table ServiceProperty.id} {table : RefTable} {serviceId : Int}
  {form : List ServicePropertyInstanceQueryDTO}

def belongs (page : Page) (entry : Entry) : ServicePropertyValueRef → Bool := page.shows entry.1 entry.2.id

def idsOf (page : Page) (table : RefTable) (entry : Entry) : List JavaInt :=
  (shownRows page table entry.1 entry.2.id).map StoredRef.id

theorem keys_eq (form : List ServicePropertyInstanceQueryDTO) :
    keys form = (entriesOfForm form).map fun entry => (entry.1, entry.2.id) := by
  simp only [keys, entriesOfForm, List.map_flatMap, List.map_map, Function.comp_def]

theorem mem_entriesOfForm {entry : Entry} :
    entry ∈ entriesOfForm form ↔ ∃ prop ∈ form, prop.instanceId = entry.1 ∧ entry.2 ∈ prop.propertyList := by
  simp only [entriesOfForm, List.mem_flatMap, List.mem_map]
  constructor
  · rintro ⟨prop, inForm, item, inProp, rfl⟩
    exact ⟨prop, inForm, rfl, inProp⟩
  · rintro ⟨prop, inForm, same, inProp⟩
    exact ⟨prop, inForm, entry.2, inProp, Prod.ext same rfl⟩

theorem Submitted.entry (submitted : Submitted page properties table serviceId form) {entry : Entry}
    (member : entry ∈ entriesOfForm form) : ∃ property ∈ properties.rows, property.id = entry.2.id ∧
      Fits page property entry.1 ∧ HasIds entry.2 (idsOf page table entry) := by
  obtain ⟨prop, inForm, sameInstance, inProp⟩ := mem_entriesOfForm.mp member
  obtain ⟨shown, returned, all⟩ := submitted.returned
  obtain ⟨shownProp, inShown, sameShown, old, inShownProp, sameId, sameRefs⟩ := all prop inForm entry.2 inProp
  obtain ⟨property, found, is⟩ := isEntry_of_shown returned inShown inShownProp
  have ofProperty : property.id = old.id := by
    obtain ⟨-, _, rfl⟩ := is
    unfold getServicePropertyQueryDTO
    split <;> rfl
  rw [sameShown.trans sameInstance] at is
  have has := hasIds_of_isEntry is sameRefs
  rw [ofProperty.trans sameId] at has
  exact ⟨property, found, ofProperty.trans sameId, is.1, has⟩

theorem Submitted.prepared (submitted : Submitted page properties table serviceId form) :
    Prepared serviceId (belongs page) (idsOf page table) (entriesOfForm form) ⟨table, [], []⟩ where
  apart := by
    have once := submitted.once
    rw [keys_eq] at once
    refine (List.pairwise_map.mp once).imp_of_mem ?_
    intro entry other member otherMember differ ref is otherIs
    obtain ⟨property, found, sameId, fits, -⟩ := submitted.entry member
    obtain ⟨otherProperty, otherFound, otherId, otherFits, -⟩ := submitted.entry otherMember
    unfold belongs at is otherIs
    rw [← sameId] at differ is
    rw [← otherId] at differ otherIs
    exact shows_apart found otherFound fits otherFits differ is otherIs
  byKey entry _ := byKey_shows page entry.1 entry.2.id
  has entry member := by
    obtain ⟨_, -, -, -, has⟩ := submitted.entry member
    exact has
  inserts entry member valueId value := by
    obtain ⟨property, -, -, fits, -⟩ := submitted.entry member
    cases page with
    | ofInstance pageInstance => simp [belongs, Page.shows, show entry.1 = some pageInstance from fits]
    | ofService id instanceList =>
      have ofPage := submitted.ofService id instanceList rfl
      cases chosen : entry.1 <;> simp [belongs, Page.shows, chosen, ofPage]
  ready entry _ := by
    refine ⟨?_, ?_, fun id _ => List.not_mem_nil⟩
    · have perm := (shownRows_perm page table entry.1 entry.2.id).map StoredRef.id
      exact perm.nodup_iff.mpr (List.Nodup.sublist (List.filter_sublist.map _) table.keys)
    · intro id member
      obtain ⟨row, found, rfl⟩ := List.mem_map.mp member
      obtain ⟨inRows, is⟩ := mem_shownRows.mp found
      exact ⟨row, inRows, rfl, is⟩
  noOthers entry _ := by
    have none : (table.rows.filter fun row => belongs page entry row.ref && row.id ∉ ([] : List JavaInt) &&
        row.id ∉ idsOf page table entry) = [] := by
      refine List.filter_eq_nil_iff.mpr fun row member => ?_
      by_cases is : belongs page entry row.ref = true
      · have own : row.id ∈ idsOf page table entry := List.mem_map_of_mem (mem_shownRows.mpr ⟨member, is⟩)
        simp [own]
      · simp [is]
    rw [valuesBut, none]
    rfl

/-- No ref of the form. -/
def other (page : Page) (form : List ServicePropertyInstanceQueryDTO) (ref : ServicePropertyValueRef) : Bool :=
  (entriesOfForm form).all fun entry => !belongs page entry ref

theorem byKey_other (page : Page) (form : List ServicePropertyInstanceQueryDTO) : ByKey (other page form) := by
  intro ref valueId value
  unfold other belongs
  exact congrArg (List.all (entriesOfForm form)) (funext fun entry =>
    congrArg (! ·) (byKey_shows page entry.1 entry.2.id ref valueId value))

section Saved
variable {autoIncrement : ℕ → JavaInt} {s : Pending} {inserted : RefTable}

theorem rows_saved (within : ∀ id ∈ s.deleteRefList, id ∈ s.table.rows.map StoredRef.id)
    (done : s.table.insertList (s.insertRefList.zipIdx.map fun new => ⟨autoIncrement new.2, new.1⟩) = some inserted)
    (P : ServicePropertyValueRef → Bool) :
    ((inserted.filter fun row => row.id ∉ s.deleteRefList).rows.filter fun row => P row.ref) =
      (s.table.rows.filter fun row => P row.ref && row.id ∉ s.deleteRefList) ++
        (s.insertRefList.zipIdx.map fun new => (⟨autoIncrement new.2, new.1⟩ : StoredRef)).filter fun row => P row.ref := by
  have rows := Table.rows_of_insertList done
  have distinct := inserted.keys
  rw [rows, List.map_append] at distinct
  have kept : ∀ new ∈ s.insertRefList.zipIdx.map fun new => (⟨autoIncrement new.2, new.1⟩ : StoredRef),
      new.id ∉ s.deleteRefList := fun new member deleted =>
    (List.disjoint_of_nodup_append distinct) (within new.id deleted) (List.mem_map_of_mem member)
  change (inserted.rows.filter fun row => row.id ∉ s.deleteRefList).filter (fun row => P row.ref) = _
  rw [rows, List.filter_append, List.filter_append, List.filter_filter]
  congr 2
  exact List.filter_eq_self.mpr fun new member => decide_eq_true (kept new member)

theorem values_inserted (refs : List ServicePropertyValueRef) (P : ServicePropertyValueRef → Bool) :
    ((refs.zipIdx.map fun new => (⟨autoIncrement new.2, new.1⟩ : StoredRef)).filter fun row => P row.ref).map
      (fun row => row.ref.currentValue) = (refs.filter P).map ServicePropertyValueRef.currentValue := by
  rw [List.filter_map, List.map_map]
  have first : refs = refs.zipIdx.map Prod.fst := (List.zipIdx_map_fst 0 refs).symm
  conv => rhs; rw [first, List.filter_map, List.map_map]
  rfl

end Saved

/-- What a form leaves: for each entry its values, and the rows of no entry as they were. -/
theorem saved_spec {autoIncrement : ℕ → JavaInt} {after : RefTable}
    (submitted : Submitted page properties table serviceId form)
    (saved : saveServiceInstanceConfig autoIncrement serviceId form table = some after) :
    (∀ entry ∈ entriesOfForm form, (storedValues page after entry.1 entry.2.id).Perm (takenValues entry.2)) ∧
      (after.rows.filter fun row => other page form row.ref) = table.rows.filter fun row => other page form row.ref := by
  unfold saveServiceInstanceConfig at saved
  obtain ⟨s, walked, rest⟩ := Option.bind_eq_some_iff.mp saved
  obtain ⟨inserted, done, whole⟩ := Option.bind_eq_some_iff.mp rest
  cases whole
  rw [foldlM_form] at walked
  obtain ⟨values, frame, within⟩ := foldlM_saveEntry submitted.prepared (fun _ member => absurd member List.not_mem_nil)
    walked
  constructor
  · intro entry member
    refine (storedValues_perm page _ entry.1 entry.2.id).trans (List.Perm.trans (List.Perm.of_eq ?_) (values entry member))
    rw [rows_saved within done, List.map_append, values_inserted]
    simp [valuesBut, belongs]
  · have none : ∀ entry ∈ entriesOfForm form, ∀ ref, belongs page entry ref = true → other page form ref = false := by
      intro entry member ref is
      simp only [other, List.all_eq_false]
      exact ⟨entry, member, by simp [is]⟩
    have kept := frame (other page form) (byKey_other page form) none
    have noneInserted : s.insertRefList.filter (other page form) = [] := kept.inserts
    have noNew : (s.insertRefList.zipIdx.map fun new => (⟨autoIncrement new.2, new.1⟩ : StoredRef)).filter
        (fun row => other page form row.ref) = [] := by
      refine List.filter_eq_nil_iff.mpr fun row isNew => ?_
      obtain ⟨new, inInserts, rfl⟩ := List.mem_map.mp isNew
      exact List.filter_eq_nil_iff.mp noneInserted new.1 (List.fst_mem_of_mem_zipIdx inInserts)
    rw [rows_saved within done, noNew, List.append_nil, ← kept.rows]
    refine List.filter_congr fun row member => ?_
    by_cases isOther : other page form row.ref = true
    · have alive : row.id ∉ s.deleteRefList := by
        rw [kept.deletes row ((kept.mem_rows isOther).mp member) isOther]
        exact List.not_mem_nil
      simp [isOther, alive]
    · simp [isOther]

theorem takenValues_of_closed {item : ServicePropertyQueryDTO} (closed : Closed item) :
    takenValues item = submittedValues item := by
  unfold takenValues submittedValues
  cases current : nonEmpty item.currentValue with
  | none => rfl
  | some text =>
    have isText : item.currentValue = some text := (Option.filter_eq_some_iff.mp current).1
    simp only [values]
    split
    next choice => rw [Text.split_eq_parts (closed choice text isText)]
    next => rfl

/-- Values that are stored as the portal stores them are taken back as they were shown. -/
theorem takenValues_of_wellStored {instanceId : Option Int} {property : ServiceProperty}
    {old : ServicePropertyQueryDTO} (is : IsEntry page table instanceId property old)
    (well : WellStored old (storedValues page table instanceId property.id)) :
    takenValues old = storedValues page table instanceId property.id := by
  obtain ⟨-, shownInstance, rfl⟩ := is
  obtain ⟨free, single, notEmpty⟩ := well
  change _ = (shownRows page table instanceId property.id).map fun row => row.ref.currentValue
  change ∀ _, ∀ value ∈ (shownRows page table instanceId property.id).map fun row => row.ref.currentValue, _ at free
  change _ → ((shownRows page table instanceId property.id).map fun row => row.ref.currentValue).length ≤ 1 at single
  change ((shownRows page table instanceId property.id).map fun row => row.ref.currentValue).getLast? ≠ _ at notEmpty
  generalize shownRows page table instanceId property.id = rows at free single notEmpty ⊢
  unfold getServicePropertyQueryDTO at free single ⊢
  by_cases empty : rows = []
  · subst empty
    rfl
  · rw [if_neg empty] at free single ⊢
    have someValue : rows.map (fun row => row.ref.currentValue) ≠ [] := by simpa using empty
    obtain ⟨last, -, ends⟩ := exists_getLast? someValue
    have someLast : last ≠ "" := fun none => notEmpty (none ▸ ends)
    rw [takenValues_of_nonEmpty (nonEmpty_join ends someLast)]
    unfold values
    split
    next choice => exact Text.split_join (free choice) ends someLast
    next noChoice =>
      have short := single (Bool.eq_false_iff.mpr noChoice)
      rw [List.length_map] at short
      have long := List.length_pos_iff.mpr empty
      obtain ⟨row, rfl⟩ := List.length_eq_one_iff.mp (Nat.le_antisymm short long)
      rw [Text.join, List.map_singleton, String.intercalate_singleton]

/-! A page as it was returned is a form. -/

def keyOf (old : ServicePropertyQueryDTO) : Option Int × Int := (old.instanceId, old.id)

theorem id_getServicePropertyQueryDTO (item : ServiceProperty) (rows : List StoredRef) :
    (getServicePropertyQueryDTO item rows).id = item.id := by
  unfold getServicePropertyQueryDTO
  split <;> rfl

theorem nodup_entriesOf {refs : List StoredRef} {instanceList : Table ServiceInstance.id} {property : ServiceProperty}
    {entries : List ServicePropertyQueryDTO} (made : entriesOf refs instanceList.rows property = some entries) :
    (entries.map keyOf).Nodup ∧ ∀ old ∈ entries, old.id = property.id := by
  unfold entriesOf at made
  split at made
  · cases made
    refine ⟨List.nodup_singleton _, fun old member => ?_⟩
    rw [List.mem_singleton.mp member, id_getServicePropertyQueryDTO]
  · have pairs : List.Forall₂ (fun (i : ServiceInstance) old => (some i.id, property.id) = keyOf old) _ entries :=
      (Transition.mapM_eq_some_iff.mp made).imp fun i old entry => by
        unfold instanceEntry at entry
        split at entry
        · cases entry
        · cases entry
          exact Prod.ext rfl (id_getServicePropertyQueryDTO _ _).symm
    have keysOf := pairs
    rw [← List.forall₂_map_right_iff, ← List.forall₂_map_left_iff, List.forall₂_eq_eq_eq] at keysOf
    constructor
    · rw [← keysOf]
      have ids := (instanceList.filter fun i => i.instanceType = property.instanceType).keys
      have distinct := ids.map (f := fun id => (some id, property.id)) fun id other same =>
        Option.some.inj (Prod.mk.inj same).1
      rwa [List.map_map] at distinct
    · intro old member
      have key : keyOf old ∈ entries.map keyOf := List.mem_map_of_mem member
      rw [← keysOf] at key
      obtain ⟨i, -, same⟩ := List.mem_map.mp key
      exact (Prod.mk.inj same).2.symm

theorem nodup_propertyList {refs : List StoredRef} {instanceList : Table ServiceInstance.id}
    {properties : List ServiceProperty} {entries : List (List ServicePropertyQueryDTO)}
    (distinct : (properties.map ServiceProperty.id).Nodup)
    (made : properties.mapM (entriesOf refs instanceList.rows) = some entries) :
    (entries.flatten.map keyOf).Nodup ∧ ∀ old ∈ entries.flatten, old.id ∈ properties.map ServiceProperty.id := by
  have pairs := Transition.mapM_eq_some_iff.mp made
  clear made
  induction pairs with
  | nil => exact ⟨List.nodup_nil, fun _ member => absurd member List.not_mem_nil⟩
  | @cons property ofProperty properties entries first rest ih =>
    obtain ⟨fresh, distinctRest⟩ := List.nodup_cons.mp distinct
    obtain ⟨nodup, ids⟩ := nodup_entriesOf first
    obtain ⟨nodupRest, idsRest⟩ := ih distinctRest
    constructor
    · rw [List.flatten_cons, List.map_append]
      refine List.Nodup.append nodup nodupRest fun key inFirst inRest => ?_
      obtain ⟨old, found, rfl⟩ := List.mem_map.mp inFirst
      obtain ⟨later, foundLater, same⟩ := List.mem_map.mp inRest
      have sameId : later.id = old.id := (Prod.mk.inj same).2
      exact fresh (ids old found ▸ sameId ▸ idsRest later foundLater)
    · intro old member
      rcases List.mem_append.mp (List.flatten_cons ▸ member) with inFirst | inRest
      · rw [ids old inFirst]
        exact List.mem_cons_self
      · exact List.mem_cons_of_mem _ (idsRest old inRest)

theorem nodup_keys {form : List ServicePropertyInstanceQueryDTO}
    (instances : (form.map ServicePropertyInstanceQueryDTO.instanceId).Nodup)
    (each : ∀ prop ∈ form, (prop.propertyList.map ServicePropertyQueryDTO.id).Nodup) : (keys form).Nodup := by
  refine List.nodup_flatMap.mpr ⟨fun prop member => ?_, ?_⟩
  · have distinct := (each prop member).map (f := fun id => (prop.instanceId, id)) fun id other same =>
      (Prod.mk.inj same).2
    rwa [List.map_map] at distinct
  · refine (List.pairwise_map.mp instances).imp fun {prop other} differ key inProp inOther => ?_
    obtain ⟨_, -, rfl⟩ := List.mem_map.mp inProp
    obtain ⟨_, -, same⟩ := List.mem_map.mp inOther
    exact differ (Prod.mk.inj same).1.symm

theorem nodup_shown {shown : List ServicePropertyInstanceQueryDTO}
    (returned : getServiceInstanceConfig page properties table = some shown) : (keys shown).Nodup := by
  cases page with
  | ofInstance pageInstance =>
    cases returned
    refine nodup_keys (List.nodup_singleton _) fun prop member => ?_
    rw [List.mem_singleton.mp member, List.map_map]
    have ids : (ServicePropertyQueryDTO.id ∘ fun item => getServicePropertyQueryDTO item
        ((queryByInstanceId table pageInstance).filter fun row => row.ref.propertyId = item.id)) = ServiceProperty.id :=
      funext fun item => id_getServicePropertyQueryDTO item _
    rw [ids]
    exact properties.keys
  | ofService serviceId instanceList =>
    obtain ⟨entries, made, rfl⟩ := Option.map_eq_some_iff.mp returned
    obtain ⟨distinct, -⟩ := nodup_propertyList properties.keys made
    -- within a group the instance is the same, so the ids tell its properties apart
    have group : ∀ (instanceId : Option Int) (list : List ServicePropertyQueryDTO),
        (list.map keyOf).Nodup → (∀ old ∈ list, old.instanceId = instanceId) →
        (list.map ServicePropertyQueryDTO.id).Nodup := by
      intro instanceId list nodup same
      have keysOf : list.map keyOf = (list.map ServicePropertyQueryDTO.id).map fun id => (instanceId, id) := by
        rw [List.map_map]
        exact List.map_congr_left fun old member => Prod.ext (same old member) rfl
      rw [keysOf] at nodup
      exact nodup.of_map _
    refine nodup_keys ?_ fun prop inShown => ?_
    · rw [List.map_cons, List.map_map, List.nodup_cons]
      constructor
      · intro isSome
        obtain ⟨i, -, same⟩ := List.mem_map.mp isSome
        cases same
      · refine List.Nodup.sublist (List.filter_sublist.map _) ?_
        have somes := instanceList.keys.map (Option.some_injective Int)
        rw [List.map_map] at somes
        exact somes
    · rcases List.mem_cons.mp inShown with rfl | inInstances
      · refine group none _ (List.Nodup.sublist (List.filter_sublist.map _) distinct) fun old member => ?_
        obtain ⟨inEntries, ofService⟩ := List.mem_filter.mp member
        obtain ⟨list, inList, inside⟩ := List.mem_flatten.mp inEntries
        obtain ⟨property, -, madeList⟩ := Transition.exists_of_mem_mapM made inList
        obtain ⟨is, sameType⟩ : IsEntry (.ofService serviceId instanceList) table old.instanceId property old ∧ _ :=
          isEntry_of_entriesOf madeList inside
        exact is.1.mp (sameType.symm.trans (of_decide_eq_true ofService))
      · obtain ⟨i, -, rfl⟩ := List.mem_map.mp inInstances
        refine group (some i.id) _ ?_ fun old member => of_decide_eq_true (List.mem_filter.mp member).2
        exact List.Nodup.sublist ((List.filter_sublist.trans List.filter_sublist).map _) distinct

theorem submitted_shown {shown : List ServicePropertyInstanceQueryDTO}
    (returned : getServiceInstanceConfig page properties table = some shown)
    (ofService : ∀ id instanceList, page = .ofService id instanceList → serviceId = id) :
    Submitted page properties table serviceId shown :=
  ⟨ofService, nodup_shown returned, shown, returned, fun prop inShown item inProp =>
    ⟨prop, inShown, rfl, item, inProp, rfl, rfl⟩⟩

/-- Saving a form stores the submitted values and leaves all other rows alone; saving a page as
it was returned leaves the values that are stored as the portal stores them. -/
theorem saves_submitted (autoIncrement : ℕ → JavaInt)
    (submitted : Submitted page properties table serviceId form) :
    (∀ after, saveServiceInstanceConfig autoIncrement serviceId form table = some after →
      (∀ prop ∈ form, ∀ item ∈ prop.propertyList, Closed item →
        (storedValues page after prop.instanceId item.id).Perm (submittedValues item)) ∧
      (after.rows.filter fun row => other page form row.ref) = table.rows.filter fun row => other page form row.ref) ∧
    ∀ shown kept, getServiceInstanceConfig page properties table = some shown →
      saveServiceInstanceConfig autoIncrement serviceId shown table = some kept →
      ∀ prop ∈ shown, ∀ item ∈ prop.propertyList,
        WellStored item (storedValues page table prop.instanceId item.id) →
        (storedValues page kept prop.instanceId item.id).Perm (storedValues page table prop.instanceId item.id) := by
  constructor
  · intro after saved
    obtain ⟨values, others⟩ := saved_spec submitted saved
    refine ⟨fun prop inForm item inProp closed => ?_, others⟩
    rw [← takenValues_of_closed closed]
    exact values (prop.instanceId, item) (mem_entriesOfForm.mpr ⟨prop, inForm, rfl, inProp⟩)
  · intro shown kept returned saved prop inShown item inProp well
    obtain ⟨values, -⟩ := saved_spec (submitted_shown returned submitted.ofService) saved
    obtain ⟨property, -, is⟩ := isEntry_of_shown returned inShown inProp
    have sameId : property.id = item.id := by
      obtain ⟨-, _, rfl⟩ := is
      exact (id_getServicePropertyQueryDTO _ _).symm
    rw [← sameId] at well
    have taken := takenValues_of_wellStored is well
    rw [sameId] at taken
    rw [← taken]
    exact values (prop.instanceId, item) (mem_entriesOfForm.mpr ⟨prop, inShown, rfl, inProp⟩)

end Form

section Example

/-- Two values of a property for a text, as one would store them of a choice. -/
def twoTexts : RefTable :=
  Table.ofList [⟨⟨1, by decide⟩, 7, none, 31, none, "x"⟩, ⟨⟨2, by decide⟩, 7, none, 31, none, "y"⟩]

def textProperty : Table ServiceProperty.id := Table.ofList [⟨31, "SERVICE", 0, "TEXT", none⟩]

def servicePage : Page := .ofService 7 (Table.ofList [])

def countedUp (n : ℕ) : JavaInt := if h : (n : Int) + 3 < 2 ^ 31 then ⟨n + 3, by omega⟩ else ⟨0, by decide⟩

def choiceItem : ServicePropertyQueryDTO := ⟨32, "SERVICE", 0, "CHECKBOX", none, none, some "a,", some []⟩

/-- Saved as it was returned, the page leaves one value where there were two; and of a choice
with an empty part at its end that part is not stored. -/
theorem two_texts_joined :
    (∃ shown kept, getServiceInstanceConfig servicePage textProperty twoTexts = some shown ∧
      saveServiceInstanceConfig countedUp 7 shown twoTexts = some kept ∧
      storedValues servicePage twoTexts none 31 = ["x", "y"] ∧ storedValues servicePage kept none 31 = ["x,y"]) ∧
    ∃ after, saveServiceInstanceConfig countedUp 7 [⟨none, [choiceItem]⟩] (Table.ofList []) = some after ∧
      submittedValues choiceItem = ["a", ""] ∧ storedValues servicePage after none 32 = ["a"] := by
  refine ⟨⟨_, _, rfl, rfl, ?_, ?_⟩, _, rfl, ?_, ?_⟩ <;> decide +kernel

def oneText : List ServicePropertyInstanceQueryDTO :=
  [⟨none, [⟨31, "SERVICE", 0, "TEXT", none, none, some "x,y", none⟩]⟩]

/-- A text submitted for a property that has none. -/
theorem saves_one_text : ∃ after, saveServiceInstanceConfig countedUp 7 oneText (Table.ofList []) = some after ∧
    (storedValues servicePage after none 31).Perm ["x,y"] := by
  refine ⟨_, rfl, ?_⟩
  have submitted : Submitted servicePage textProperty (Table.ofList []) 7 oneText := by
    refine ⟨fun id instanceList same => ?_, by decide, _, rfl, ?_⟩
    · cases same
      rfl
    · intro prop inForm item inProp
      rw [List.mem_singleton.mp inForm] at inProp ⊢
      rw [List.mem_singleton.mp inProp]
      exact ⟨_, List.mem_cons_self, rfl, _, List.mem_cons_self, rfl, rfl⟩
  have saved := (saves_submitted countedUp submitted).1 _ rfl
  exact saved.1 _ List.mem_cons_self _ List.mem_cons_self fun choice => absurd choice (by decide)

end Example

end Zms.Portal.ServiceConfig
