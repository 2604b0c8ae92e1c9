import Mathlib
import Zms.Portal.PropertyDiff
import Zms.Portal.PerInstance
import Zms.Portal.Processes.Tables
import Zms.Text.Utf16
import Zms.Transition.Collecting

/-! The two ways in which the portal compares the configuration that a running instance was
started with to the present one: the hint in the list of instances that it has to be
restarted, and the comparison file by file. `none` is an exception. -/

set_option autoImplicit false

namespace Zms.Portal.Compare

open Zms.Registry Zms.Portal.Serve

structure ConfigApi where
  apiKey : String
  fileName : String
  deriving DecidableEq

/-- What is compared of a `HostServiceInstanceDTO`. -/
structure HostInstance where
  id : Int
  instanceName : String
  instanceStatus : Processes.InstanceStatusEnum
  lastMonitorTime : Option Int
  publishDesc : Option String
  deriving DecidableEq

structure ServicePropertyCompareFileDTO where
  fileName : String
  currentNum : ℕ
  processNum : ℕ
  compared : Comparison
  deriving DecidableEq

structure ServicePropertyCompareDTO where
  instanceId : Int
  instanceName : String
  fileList : List ServicePropertyCompareFileDTO
  deriving DecidableEq

/-- The key of `Collectors.toMap` in `sortPropertyValueRefs`. -/
def property (ref : ProcessPropertyValueRef) : String := printed (ref.propertyId.map toString) ++ "&" ++ ref.propertyName

def merging (merge : String → String → String) (pairs : List (String × String)) : ValueMap String :=
  pairs.foldl
    (fun map pair => map.insert pair.1 ((map.lookup pair.1).elim pair.2 fun value => merge value pair.2)) ∅

/-- `setValue` on each entry. -/
def mapValues (change : String → String → String) (map : ValueMap String) : ValueMap String where
  entries := map.entries.map fun entry => ⟨entry.1, change entry.1 entry.2⟩
  nodupKeys := by
    rw [List.NodupKeys, List.keys, List.map_map]
    exact map.nodupKeys

/-- The comparator, by the property's id and then by the value. -/
def comparing (a b : ProcessPropertyValueRef) : Bool :=
  decide (a.propertyId.getD 0 < b.propertyId.getD 0) ||
    (decide (a.propertyId.getD 0 = b.propertyId.getD 0) &&
      decide (Text.compareTo.le (printed a.realValue) (printed b.realValue)))

/-- A comparator that is applied takes no null id, and `toMap` takes no null value. -/
def sortPropertyValueRefs (refs : List ProcessPropertyValueRef) : Option (ValueMap String) :=
  if (1 < refs.length ∧ ∃ ref ∈ refs, ref.propertyId = none) ∨ ∃ ref ∈ refs, ref.realValue = none then none
  else
    let sorted := refs.mergeSort comparing
    let names := merging (fun v1 _ => v1) (sorted.map fun ref => (property ref, ref.propertyName))
    let values := merging (fun v1 v2 => v1 ++ ("," ++ v2)) (sorted.map fun ref => (property ref, printed ref.realValue))
    some (mapValues (fun key value => printed (names.lookup key) ++ "=" ++ value) values)

/-- `comparePropertyValueRefMap`, on texts. -/
def compareMaps (current process : ValueMap String) : Comparison :=
  @comparePropertyValueRefMap String Text.compareTo current process

/-! The hint. -/

/-- The predicate removes what it finds. -/
def filterProcessPropertyValueRefMap (entry : Sigma fun _ : String => String) (current : ValueMap String) :
    Bool × ValueMap String :=
  match current.lookup entry.1 with
  | some currentValue => (decide (currentValue ≠ entry.2), current.erase entry.1)
  | none => (true, current)

/-- `anyMatch` stops at the first match. -/
def anyMatch : List (Sigma fun _ : String => String) → ValueMap String → Bool × ValueMap String
  | [], current => (false, current)
  | entry :: rest, current =>
    let tested := filterProcessPropertyValueRefMap entry current
    if tested.1 then (true, tested.2) else anyMatch rest tested.2

def restartDesc : String := "配置已更改，请重启"

section Instances
variable (m : Mappers) (lastMonitorTime : Int → Option Int) (currentAll : Int → Option (List ProcessPropertyValueRef))

/-- One item of `compareServiceInstanceConfig`. -/
def compareInstance (item : HostInstance) : Option HostInstance :=
  if item.instanceStatus = .START then do
    let lastRunningProcess ← m.listRunningProcessByInstance item.id
    let current ← sortPropertyValueRefs ((currentAll item.id).getD [])
    let process ← sortPropertyValueRefs (m.listByServiceProcessId lastRunningProcess.id)
    let tested := anyMatch process.entries current
    return { item with
      lastMonitorTime := lastMonitorTime lastRunningProcess.id
      publishDesc := if tested.1 ∨ tested.2.entries ≠ [] then some restartDesc else item.publishDesc }
  else some item

def compareServiceInstanceConfig (items : List HostInstance) : Option (List HostInstance) :=
  items.mapM (compareInstance m lastMonitorTime currentAll)

end Instances

/-! The comparison file by file. -/

/-- `get` from the map that `groupingBy(getConfApiKey)` collects. -/
def grouped (refs : List ProcessPropertyValueRef) (apiKey : String) : List ProcessPropertyValueRef :=
  refs.filter fun ref => ref.confApiKey = some apiKey

/-- A query for no keys is no SQL. -/
def listByApiKeys (configApis : Table ConfigApi.apiKey) (confApiKeys : List String) : Option (List ConfigApi) :=
  if confApiKeys = [] then none else some (configApis.rows.filter fun api => api.apiKey ∈ confApiKeys)

def compareFile (fileName : String) (currentRefs processRefs : List ProcessPropertyValueRef) :
    Option ServicePropertyCompareFileDTO := do
  let current ← sortPropertyValueRefs currentRefs
  let process ← sortPropertyValueRefs processRefs
  return ⟨fileName, current.entries.length, process.entries.length, compareMaps current process⟩

/-- The system resources are compared together, in a list of at most one file. -/
def compareEnvPropertyValueRef (configApiList : List ConfigApi) (currentRefs processRefs : List ProcessPropertyValueRef) :
    Option (List ServicePropertyCompareFileDTO) :=
  let apis := configApiList.filter fun api => api.fileName = ""
  let currentEnv := apis.flatMap fun api => grouped currentRefs api.apiKey
  let processEnv := apis.flatMap fun api => grouped processRefs api.apiKey
  if currentEnv = [] ∧ processEnv = [] then some [] else (compareFile "系统资源" currentEnv processEnv).map ([·])

/-- `groupingBy` takes no null key. -/
def comparePropertyValueFile (configApis : Table ConfigApi.apiKey) (item : HostInstance)
    (currentRefs processRefs : List ProcessPropertyValueRef) : Option ServicePropertyCompareDTO := do
  let currentKeys ← currentRefs.mapM ProcessPropertyValueRef.confApiKey
  let processKeys ← processRefs.mapM ProcessPropertyValueRef.confApiKey
  let configApiList ← listByApiKeys configApis (currentKeys ++ processKeys)
  let files ← (configApiList.filter fun api => api.fileName ≠ "").mapM fun api =>
    compareFile api.fileName (grouped currentRefs api.apiKey) (grouped processRefs api.apiKey)
  let env ← compareEnvPropertyValueRef configApiList currentRefs processRefs
  return ⟨item.id, item.instanceName, files ++ env⟩

/-! What the collected maps hold. -/

/-- The values of one key, merged in the order in which they come. -/
def merged (merge : String → String → String) : List String → Option String
  | [] => none
  | value :: rest => some (rest.foldl merge value)

theorem lookup_merging (merge : String → String → String) (pairs : List (String × String)) (key : String) :
    (merging merge pairs).lookup key = merged merge ((pairs.filter fun pair => pair.1 = key).map Prod.snd) := by
  -- the value a key has in the map is merged with those that follow
  have fromMap : ∀ map : ValueMap String,
      (pairs.foldl (fun map pair => map.insert pair.1 ((map.lookup pair.1).elim pair.2 fun value => merge value pair.2))
        map).lookup key =
      merged merge ((map.lookup key).toList ++ (pairs.filter fun pair => pair.1 = key).map Prod.snd) := by
    induction pairs with
    | nil =>
      intro map
      cases found : map.lookup key <;> simp [merged, found]
    | cons pair rest ih =>
      intro map
      rw [List.foldl_cons, ih]
      by_cases same : pair.1 = key
      · subst same
        cases found : map.lookup pair.1 <;> simp [merged]
      · rw [AList.lookup_insert_ne (Ne.symm same), List.filter_cons_of_neg (by simpa using same)]
  have fromEmpty := fromMap ∅
  rw [AList.lookup_empty, Option.toList_none, List.nil_append] at fromEmpty
  exact fromEmpty

theorem lookup_mapValues (change : String → String → String) (map : ValueMap String) (key : String) :
    (mapValues change map).lookup key = (map.lookup key).map (change key) :=
  List.dlookup_map₂ (l := map.entries) (f := change) key

theorem merged_first (names : List String) : merged (fun v1 _ => v1) names = names.head? := by
  cases names with
  | nil => rfl
  | cons name rest =>
    refine congrArg some ?_
    induction rest with
    | nil => rfl
    | cons next rest ih => exact ih

theorem property_inj {a b : ProcessPropertyValueRef} (same : property a = property b) :
    a.propertyId = b.propertyId ∧ a.propertyName = b.propertyName := by
  have free := notMem_printed (c := '&') (by decide) (by decide) (by decide)
  obtain ⟨ids, names⟩ := Text.separated_inj (c := '&') rfl (free a.propertyId) (free b.propertyId) same
  exact ⟨printed_inj ids, names⟩

/-- Neither column is null in the tables that the values are stored in. -/
def Filled (refs : List ProcessPropertyValueRef) : Prop :=
  ∀ ref ∈ refs, ref.propertyId ≠ none ∧ ref.realValue ≠ none

/-- What `sorted` makes the value of a key. -/
def shownValue (sorted : List ProcessPropertyValueRef) (key : String) : Option String :=
  (merged (fun v1 v2 => v1 ++ ("," ++ v2)) ((sorted.filter fun ref => property ref = key).map fun ref =>
    printed ref.realValue)).map fun value =>
      printed ((sorted.filter fun ref => property ref = key).map ProcessPropertyValueRef.propertyName).head? ++ "=" ++ value

theorem sortPropertyValueRefs_spec {refs : List ProcessPropertyValueRef} (filled : Filled refs) :
    ∃ map, sortPropertyValueRefs refs = some map ∧ ∀ key, map.lookup key = shownValue (refs.mergeSort comparing) key := by
  have noNull : ¬((1 < refs.length ∧ ∃ ref ∈ refs, ref.propertyId = none) ∨ ∃ ref ∈ refs, ref.realValue = none) := by
    rintro (⟨-, ref, member, isNull⟩ | ⟨ref, member, isNull⟩)
    · exact (filled ref member).1 isNull
    · exact (filled ref member).2 isNull
  refine ⟨_, if_neg noNull, ?_⟩
  intro key
  rw [lookup_mapValues, lookup_merging, lookup_merging, merged_first]
  simp only [shownValue, List.filter_map, List.map_map, Function.comp_def]

theorem comparing_eq_true {a b : ProcessPropertyValueRef} : comparing a b = true ↔
    a.propertyId.getD 0 < b.propertyId.getD 0 ∨
      (a.propertyId.getD 0 = b.propertyId.getD 0 ∧ Text.compareTo.le (printed a.realValue) (printed b.realValue)) := by
  simp only [comparing, Bool.or_eq_true, Bool.and_eq_true, decide_eq_true_eq]

theorem comparing_trans (a b c : ProcessPropertyValueRef) (first : comparing a b = true) (second : comparing b c = true) :
    comparing a c = true := by
  rw [comparing_eq_true] at first second ⊢
  obtain less | ⟨same, upto⟩ := first
  · obtain less' | ⟨same', -⟩ := second
    · exact .inl (less.trans less')
    · exact .inl (same' ▸ less)
  · obtain less' | ⟨same', upto'⟩ := second
    · exact .inl (same ▸ less')
    · exact .inr ⟨same.trans same', Text.compareTo.le_trans _ _ _ upto upto'⟩

theorem comparing_total (a b : ProcessPropertyValueRef) : (comparing a b || comparing b a) = true := by
  rw [Bool.or_eq_true, comparing_eq_true, comparing_eq_true]
  obtain less | same | greater := lt_trichotomy (a.propertyId.getD 0) (b.propertyId.getD 0)
  · exact .inl (.inl less)
  · obtain upto | upto := Text.compareTo.le_total (printed a.realValue) (printed b.realValue)
    · exact .inl (.inr ⟨same, upto⟩)
    · exact .inr (.inr ⟨same.symm, upto⟩)
  · exact .inr (.inl greater)

/-- The line of a property depends on the rows of that property alone. -/
theorem shownValue_of_perm {xs ys : List ProcessPropertyValueRef} {key : String}
    (same : (xs.filter fun ref => property ref = key).Perm (ys.filter fun ref => property ref = key)) :
    shownValue (xs.mergeSort comparing) key = shownValue (ys.mergeSort comparing) key := by
  have sameProperty : ∀ a b, decide (property a = key) = true → decide (property b = key) = true →
      a.propertyId = b.propertyId ∧ a.propertyName = b.propertyName := by
    intro a b keyA keyB
    exact property_inj ((of_decide_eq_true keyA).trans (of_decide_eq_true keyB).symm)
  have values := @map_filter_mergeSort _ String comparing Text.compareTo.toPartialOrder comparing_trans comparing_total
    (fun ref => property ref = key) (fun ref => printed ref.realValue) ?_ xs ys same
  · have names := @map_filter_mergeSort _ String comparing Text.compareTo.toPartialOrder comparing_trans comparing_total
      (fun ref => property ref = key) ProcessPropertyValueRef.propertyName ?_ xs ys same
    · rw [shownValue, shownValue, values, names]
    · intro a b keyA keyB _
      exact (sameProperty a b keyA keyB).2 ▸ Text.compareTo.le_refl _
  · intro a b keyA keyB before
    obtain less | ⟨-, upto⟩ := comparing_eq_true.mp before
    · exact absurd ((sameProperty a b keyA keyB).1 ▸ less) (lt_irrefl _)
    · exact upto

theorem shownValue_nil (xs : List ProcessPropertyValueRef) {key : String}
    (absent : xs.filter (fun ref => property ref = key) = []) : shownValue (xs.mergeSort comparing) key = none := by
  have nothing : shownValue (xs.mergeSort comparing) key = shownValue (([] : List ProcessPropertyValueRef).mergeSort comparing) key :=
    shownValue_of_perm (by rw [absent]; exact List.Perm.refl _)
  rw [nothing, List.mergeSort_nil]
  rfl

/-! The hint, as a comparison of the two maps. -/

theorem anyMatch_iff {entries : List (Sigma fun _ : String => String)} (nodup : entries.NodupKeys) (current : ValueMap String) :
    ((anyMatch entries current).1 = true ∨ (anyMatch entries current).2.entries ≠ []) ↔
      ∃ key, current.lookup key ≠ entries.dlookup key := by
  induction entries generalizing current with
  | nil =>
    have empty : current.entries = [] ↔ ∀ key, current.lookup key = none := by
      constructor
      · intro isEmpty key
        rw [show current = ∅ from AList.ext isEmpty, AList.lookup_empty]
      · intro nothing
        refine List.eq_nil_iff_forall_not_mem.mpr fun entry member => ?_
        have isKey : entry.1 ∈ current := AList.mem_keys.mpr (List.mem_keys_of_mem member)
        exact AList.lookup_eq_none.mp (nothing entry.1) isKey
    simp only [anyMatch, Bool.false_eq_true, false_or, List.dlookup_nil, ne_eq, empty, not_forall]
  | cons entry rest ih =>
    obtain ⟨key, value⟩ := entry
    obtain ⟨fresh, nodupRest⟩ := List.nodupKeys_cons.mp nodup
    have own : ((⟨key, value⟩ : Sigma fun _ : String => String) :: rest).dlookup key = some value := List.dlookup_cons_eq _ _ _
    cases found : current.lookup key with
    | none =>
      simp only [anyMatch, filterProcessPropertyValueRefMap, found, if_true, true_or, true_iff]
      exact ⟨key, by rw [found, own]; exact (Option.some_ne_none value).symm⟩
    | some currentValue =>
      by_cases same : currentValue = value
      · simp only [anyMatch, filterProcessPropertyValueRefMap, found, same, ne_eq, not_true_eq_false, decide_false,
          Bool.false_eq_true, if_false]
        rw [ih nodupRest (current.erase key)]
        refine exists_congr fun other => ?_
        by_cases isKey : other = key
        · subst isKey
          rw [AList.lookup_erase, own, found, same, List.dlookup_eq_none.mpr fresh]
          exact iff_of_false (fun differ => differ rfl) (fun differ => differ rfl)
        · rw [AList.lookup_erase_ne isKey, List.dlookup_cons_ne _ _ isKey]
      · simp only [anyMatch, filterProcessPropertyValueRefMap, found, ne_eq, same, not_false_eq_true, decide_true,
          if_true,
          true_or, true_iff]
        exact ⟨key, by rw [found, own]; exact fun equal => same (Option.some.inj equal)⟩

/-! The rows of a property in one of the files, where the property determines the file. -/

/-- The conf api key of a row is determined by its property. -/
def Determined (refs : List ProcessPropertyValueRef) : Prop :=
  ∀ a ∈ refs, ∀ b ∈ refs, a.propertyId = b.propertyId → a.propertyName = b.propertyName → a.confApiKey = b.confApiKey

def selected (apis : List ConfigApi) (refs : List ProcessPropertyValueRef) : List ProcessPropertyValueRef :=
  apis.flatMap fun api => grouped refs api.apiKey

theorem filter_grouped {refs : List ProcessPropertyValueRef} {key apiKey : String}
    (of : ∀ ref ∈ refs, property ref = key → ref.confApiKey = some apiKey) (other : String) :
    (grouped refs other).filter (fun ref => property ref = key) =
      if other = apiKey then refs.filter fun ref => property ref = key else [] := by
  unfold grouped
  rw [List.filter_filter]
  split
  · next same =>
    refine List.filter_congr fun ref member => ?_
    by_cases isKey : property ref = key
    · simp [isKey, of ref member isKey, same]
    · simp [isKey]
  · next differs =>
    rw [List.filter_eq_nil_iff]
    intro ref member both
    obtain ⟨isKey, inFile⟩ := by simpa only [Bool.and_eq_true, decide_eq_true_eq] using both
    exact differs (Option.some.inj ((of ref member isKey).symm.trans inFile)).symm

theorem filter_selected {refs : List ProcessPropertyValueRef} {key apiKey : String}
    (of : ∀ ref ∈ refs, property ref = key → ref.confApiKey = some apiKey) {apis : List ConfigApi}
    (distinct : (apis.map ConfigApi.apiKey).Nodup) :
    (selected apis refs).filter (fun ref => property ref = key) =
      if apiKey ∈ apis.map ConfigApi.apiKey then refs.filter fun ref => property ref = key else [] := by
  induction apis with
  | nil => rfl
  | cons api rest ih =>
    obtain ⟨fresh, distinctRest⟩ := List.nodup_cons.mp distinct
    have cons : selected (api :: rest) refs = grouped refs api.apiKey ++ selected rest refs := rfl
    rw [cons, List.filter_append, filter_grouped of, ih distinctRest]
    by_cases same : api.apiKey = apiKey
    · subst same
      rw [if_pos rfl, if_neg fresh, List.append_nil, List.map_cons, if_pos List.mem_cons_self]
    · rw [if_neg same, List.nil_append]
      simp only [List.map_cons, List.mem_cons, Ne.symm same, false_or]

theorem filled_selected {refs : List ProcessPropertyValueRef} (filled : Filled refs) (apis : List ConfigApi) :
    Filled (selected apis refs) := by
  intro ref member
  obtain ⟨api, -, inFile⟩ := List.mem_flatMap.mp member
  exact filled ref (List.mem_filter.mp inFile).1

/-- Configurations that can be compared: the stored columns are filled, and each row belongs to
the one file that its property has. -/
structure Comparable (configApis : Table ConfigApi.apiKey) (current published : List ProcessPropertyValueRef) : Prop where
  filled : Filled (current ++ published)
  determined : Determined (current ++ published)
  known : ∀ ref ∈ current ++ published, ∃ api ∈ configApis.rows, ref.confApiKey = some api.apiKey

section Files
variable {configApis : Table ConfigApi.apiKey} {current published : List ProcessPropertyValueRef}

/-- The property has another line in one configuration than in the other. -/
def Differs (current published : List ProcessPropertyValueRef) (key : String) : Prop :=
  shownValue (current.mergeSort comparing) key ≠ shownValue (published.mergeSort comparing) key

/-- A row of the property belongs to one of the files. -/
def InFiles (refs : List ProcessPropertyValueRef) (apis : List ConfigApi) (key : String) : Prop :=
  ∃ ref ∈ refs, property ref = key ∧ ∃ api ∈ apis, ref.confApiKey = some api.apiKey

theorem differs_selected_iff (comparable : Comparable configApis current published) {apis : List ConfigApi}
    (distinct : (apis.map ConfigApi.apiKey).Nodup) (key : String) :
    Differs (selected apis current) (selected apis published) key ↔
      Differs current published key ∧ InFiles (current ++ published) apis key := by
  unfold Differs
  by_cases present : ∃ ref ∈ current ++ published, property ref = key
  · obtain ⟨ref, member, isKey⟩ := present
    obtain ⟨api, -, own⟩ := comparable.known ref member
    have of : ∀ other ∈ current ++ published, property other = key → other.confApiKey = some api.apiKey := by
      intro other inBoth otherKey
      obtain ⟨sameId, sameName⟩ := property_inj (otherKey.trans isKey.symm)
      exact (comparable.determined other inBoth ref member sameId sameName).trans own
    have now := filter_selected (fun other inNow => of other (List.mem_append_left _ inNow)) distinct
    have before := filter_selected (fun other inBefore => of other (List.mem_append_right _ inBefore)) distinct
    by_cases inFile : api.apiKey ∈ apis.map ConfigApi.apiKey
    · rw [if_pos inFile] at now before
      rw [shownValue_of_perm (.of_eq now), shownValue_of_perm (.of_eq before)]
      obtain ⟨file, inApis, sameApi⟩ := List.mem_map.mp inFile
      have isIn : InFiles (current ++ published) apis key := ⟨ref, member, isKey, file, inApis, sameApi ▸ own⟩
      exact (and_iff_left isIn).symm
    · rw [if_neg inFile] at now before
      rw [shownValue_nil _ now, shownValue_nil _ before]
      refine iff_of_false (fun differ => differ rfl) ?_
      rintro ⟨-, other, inBoth, otherKey, file, inApis, otherFile⟩
      have sameApi := Option.some.inj ((of other inBoth otherKey).symm.trans otherFile)
      exact inFile (sameApi ▸ List.mem_map_of_mem inApis)
  · have absent : ∀ refs, refs ⊆ current ++ published → refs.filter (fun ref => property ref = key) = [] := by
      intro refs among
      rw [List.filter_eq_nil_iff]
      intro ref member isKey
      exact present ⟨ref, among member, of_decide_eq_true isKey⟩
    have selectedAmong : ∀ refs, selected apis refs ⊆ refs := by
      intro refs ref member
      obtain ⟨api, -, inFile⟩ := List.mem_flatMap.mp member
      exact (List.mem_filter.mp inFile).1
    have now := List.subset_append_left current published
    have before := List.subset_append_right current published
    rw [shownValue_nil _ (absent _ (List.Subset.trans (selectedAmong current) now)),
      shownValue_nil _ (absent _ (List.Subset.trans (selectedAmong published) before))]
    refine iff_of_false (fun differ => differ rfl) ?_
    rintro ⟨-, ref, member, isKey, -⟩
    exact present ⟨ref, member, isKey⟩

theorem compareFile_spec (comparable : Comparable configApis current published) {apis : List ConfigApi}
    (distinct : (apis.map ConfigApi.apiKey).Nodup) (fileName : String) :
    ∃ file, compareFile fileName (selected apis current) (selected apis published) = some file ∧
      ((∃ key, Differs current published key ∧ InFiles (current ++ published) apis key) ↔
        0 < file.compared.addNum + file.compared.reduceNum) := by
  have filledNow := filled_selected (fun ref member => comparable.filled ref (List.mem_append_left _ member)) apis
  have filledBefore := filled_selected (fun ref member => comparable.filled ref (List.mem_append_right _ member)) apis
  obtain ⟨now, sortedNow, linesNow⟩ := sortPropertyValueRefs_spec filledNow
  obtain ⟨before, sortedBefore, linesBefore⟩ := sortPropertyValueRefs_spec filledBefore
  refine ⟨⟨fileName, now.entries.length, before.entries.length, compareMaps now before⟩, ?_, ?_⟩
  · rw [compareFile, sortedNow, sortedBefore]
    rfl
  · refine Iff.trans ?_ (@counted_iff String Text.compareTo now before).symm
    refine exists_congr fun key => ?_
    rw [← differs_selected_iff comparable distinct, Differs, ← linesNow, ← linesBefore]

theorem exists_row_of_differs {key : String} (differs : Differs current published key) :
    ∃ ref ∈ current ++ published, property ref = key := by
  by_contra absent
  have nothing : ∀ refs, refs ⊆ current ++ published → refs.filter (fun ref => property ref = key) = [] := by
    intro refs among
    rw [List.filter_eq_nil_iff]
    intro ref member isKey
    exact absent ⟨ref, among member, of_decide_eq_true isKey⟩
  refine differs ?_
  rw [shownValue_nil _ (nothing current (List.subset_append_left _ _)),
    shownValue_nil _ (nothing published (List.subset_append_right _ _))]

theorem compareEnvPropertyValueRef_spec (comparable : Comparable configApis current published) {configApiList : List ConfigApi}
    (distinct : (configApiList.map ConfigApi.apiKey).Nodup) :
    ∃ env, compareEnvPropertyValueRef configApiList current published = some env ∧
      ((∃ key, Differs current published key ∧
          InFiles (current ++ published) (configApiList.filter fun api => api.fileName = "") key) ↔
        ∃ file ∈ env, 0 < file.compared.addNum + file.compared.reduceNum) := by
  have distinctEnv : ((configApiList.filter fun api => api.fileName = "").map ConfigApi.apiKey).Nodup :=
    distinct.sublist (List.filter_sublist.map _)
  have byCases : compareEnvPropertyValueRef configApiList current published =
      if selected (configApiList.filter fun api => api.fileName = "") current = [] ∧
          selected (configApiList.filter fun api => api.fileName = "") published = [] then some []
      else (compareFile "系统资源" (selected (configApiList.filter fun api => api.fileName = "") current)
        (selected (configApiList.filter fun api => api.fileName = "") published)).map ([·]) := rfl
  rw [byCases]
  split
  · next empty =>
    refine ⟨[], rfl, iff_of_false ?_ (by simp)⟩
    rintro ⟨key, -, ref, member, -, api, inEnv, own⟩
    have isSelected : ∀ refs, ref ∈ refs → selected (configApiList.filter fun api => api.fileName = "") refs ≠ [] :=
      fun refs inRefs => List.ne_nil_of_mem
        (List.mem_flatMap.mpr ⟨api, inEnv, List.mem_filter.mpr ⟨inRefs, decide_eq_true own⟩⟩)
    rcases List.mem_append.mp member with now | before
    · exact isSelected current now empty.1
    · exact isSelected published before empty.2
  · obtain ⟨file, compared, counts⟩ := compareFile_spec comparable distinctEnv "系统资源"
    refine ⟨[file], congrArg (Option.map ([·])) compared, counts.trans ?_⟩
    simp only [List.mem_singleton, exists_eq_left]

theorem files_spec (comparable : Comparable configApis current published) {configApiList : List ConfigApi}
    (distinct : (configApiList.map ConfigApi.apiKey).Nodup)
    (asked : ∀ ref ∈ current ++ published, ∃ api ∈ configApiList, ref.confApiKey = some api.apiKey) :
    ∃ files env, (configApiList.filter fun api => api.fileName ≠ "").mapM (fun api =>
        compareFile api.fileName (grouped current api.apiKey) (grouped published api.apiKey)) = some files ∧
      compareEnvPropertyValueRef configApiList current published = some env ∧
      ((∃ file ∈ files ++ env, 0 < file.compared.addNum + file.compared.reduceNum) ↔
        ∃ key, Differs current published key) := by
  obtain ⟨env, comparedEnv, inEnv⟩ := compareEnvPropertyValueRef_spec comparable distinct
  have comparedOne : ∀ api ∈ configApiList.filter (fun api => api.fileName ≠ ""),
      ∃ file, compareFile api.fileName (grouped current api.apiKey) (grouped published api.apiKey) = some file ∧
        ((∃ key, Differs current published key ∧ InFiles (current ++ published) [api] key) ↔
          0 < file.compared.addNum + file.compared.reduceNum) := by
    intro api _
    have single : ∀ refs, selected [api] refs = grouped refs api.apiKey := fun refs => List.append_nil _
    have distinctOne : ([api].map ConfigApi.apiKey).Nodup := List.nodup_singleton _
    have spec := compareFile_spec comparable distinctOne api.fileName
    rwa [single, single] at spec
  obtain ⟨files, comparedFiles, each⟩ := Transition.exists_mapM comparedOne
  have inFiles := Transition.exists_mem_iff_of_forall₂ each fun api file related => related
  refine ⟨files, env, comparedFiles, comparedEnv, ?_⟩
  simp only [List.mem_append, or_and_right, exists_or, ← inFiles, ← inEnv]
  constructor
  · rintro (⟨api, -, key, differs, -⟩ | ⟨key, differs, -⟩)
    · exact ⟨key, differs⟩
    · exact ⟨key, differs⟩
  · rintro ⟨key, differs⟩
    obtain ⟨ref, member, isKey⟩ := exists_row_of_differs differs
    obtain ⟨api, listed, own⟩ := asked ref member
    by_cases named : api.fileName = ""
    · exact .inr ⟨key, differs, ref, member, isKey, api, List.mem_filter.mpr ⟨listed, decide_eq_true named⟩, own⟩
    · exact .inl ⟨api, List.mem_filter.mpr ⟨listed, decide_eq_true named⟩, key, differs, ref, member, isKey, api,
        List.mem_singleton_self api, own⟩

def FilesDiffer (configApis : Table ConfigApi.apiKey) (item : HostInstance)
    (current published : List ProcessPropertyValueRef) : Prop :=
  ∃ compared, comparePropertyValueFile configApis item current published = some compared ∧
    ∃ file ∈ compared.fileList, 0 < file.compared.addNum + file.compared.reduceNum

theorem filesDiffer_iff (comparable : Comparable configApis current published) (item : HostInstance) :
    FilesDiffer configApis item current published ↔ ∃ key, Differs current published key := by
  have keysOf : ∀ refs, refs ⊆ current ++ published → ∃ keys, refs.mapM ProcessPropertyValueRef.confApiKey = some keys ∧
      List.Forall₂ (fun ref key => ref.confApiKey = some key) refs keys := by
    intro refs among
    refine Transition.exists_mapM fun ref member => ?_
    obtain ⟨api, -, own⟩ := comparable.known ref (among member)
    exact ⟨api.apiKey, own, own⟩
  obtain ⟨currentKeys, nowKeys, currentOf⟩ := keysOf current (List.subset_append_left _ _)
  obtain ⟨processKeys, beforeKeys, processOf⟩ := keysOf published (List.subset_append_right _ _)
  have keyed : List.Forall₂ (fun ref key => ref.confApiKey = some key) (current ++ published)
      (currentKeys ++ processKeys) := List.rel_append currentOf processOf
  unfold FilesDiffer comparePropertyValueFile
  rw [nowKeys, beforeKeys]
  simp only [Option.bind_eq_bind, Option.bind_some, listByApiKeys]
  split
  · next noKeys =>
    refine iff_of_false (by simp) ?_
    rintro ⟨key, differs⟩
    obtain ⟨ref, member, -⟩ := exists_row_of_differs differs
    rw [noKeys, List.forall₂_nil_right_iff] at keyed
    exact List.not_mem_nil (keyed ▸ member)
  · have asked : ∀ ref ∈ current ++ published,
        ∃ api ∈ configApis.rows.filter (fun api => api.apiKey ∈ currentKeys ++ processKeys),
          ref.confApiKey = some api.apiKey := by
      intro ref member
      obtain ⟨api, known, own⟩ := comparable.known ref member
      have listed : ∃ key ∈ currentKeys ++ processKeys, key = api.apiKey :=
        (Transition.exists_mem_iff_of_forall₂ keyed (P := fun other => other.confApiKey = some api.apiKey)
          fun other key related => by rw [related, Option.some.injEq]).mp ⟨ref, member, own⟩
      obtain ⟨key, inKeys, same⟩ := listed
      exact ⟨api, List.mem_filter.mpr ⟨known, decide_eq_true (same ▸ inKeys)⟩, own⟩
    obtain ⟨files, env, comparedFiles, comparedEnv, differs⟩ :=
      files_spec comparable (configApis.keys.sublist (List.filter_sublist.map _)) asked
    rw [Option.bind_some, comparedFiles, Option.bind_some, comparedEnv]
    simpa only [Option.bind_some, Option.pure_def, Option.some.injEq, exists_eq_left'] using differs

/-- The hint is set for a running instance exactly where the two maps of its own differ. -/
theorem compareInstance_spec {m : Mappers} (lastMonitorTime : Int → Option Int)
    {currentAll : Int → Option (List ProcessPropertyValueRef)} {item : HostInstance} {process : ServiceProcess}
    (started : item.instanceStatus = .START) (running : m.listRunningProcessByInstance item.id = some process)
    (comparable : Comparable configApis ((currentAll item.id).getD []) (m.listByServiceProcessId process.id)) :
    ∃ answer, compareInstance m lastMonitorTime currentAll item = some answer ∧
      ((∃ key, Differs ((currentAll item.id).getD []) (m.listByServiceProcessId process.id) key) →
        answer.publishDesc = some restartDesc) ∧
      ((¬∃ key, Differs ((currentAll item.id).getD []) (m.listByServiceProcessId process.id) key) →
        answer.publishDesc = item.publishDesc) := by
  obtain ⟨now, sortedNow, linesNow⟩ :=
    sortPropertyValueRefs_spec fun ref member => comparable.filled ref (List.mem_append_left _ member)
  obtain ⟨before, sortedBefore, linesBefore⟩ :=
    sortPropertyValueRefs_spec fun ref member => comparable.filled ref (List.mem_append_right _ member)
  have hinted := anyMatch_iff before.nodupKeys now
  have differs : (∃ key, now.lookup key ≠ before.entries.dlookup key) ↔
      ∃ key, Differs ((currentAll item.id).getD []) (m.listByServiceProcessId process.id) key := by
    refine exists_congr fun key => ?_
    rw [Differs, ← linesNow, ← linesBefore]
    rfl
  rw [differs] at hinted
  unfold compareInstance
  rw [if_pos started, running, sortedNow]
  simp only [Option.bind_eq_bind, Option.bind_some, sortedBefore]
  exact ⟨_, rfl, fun some => if_pos (hinted.mpr some), fun none => if_neg fun hint => none (hinted.mp hint)⟩

variable (configApis) in
/-- The hint of each instance agrees with the comparison of its own configurations file by
file, and is the one that the instance gets when it is looked at alone. -/
theorem compareServiceInstanceConfig_agrees {m : Mappers} {lastMonitorTime : Int → Option Int}
    {currentAll : Int → Option (List ProcessPropertyValueRef)} {items : List HostInstance}
    (started : ∀ item ∈ items, item.instanceStatus = .START → ∃ process,
      m.listRunningProcessByInstance item.id = some process ∧
      Comparable configApis ((currentAll item.id).getD []) (m.listByServiceProcessId process.id)) :
    ∃ answers, compareServiceInstanceConfig m lastMonitorTime currentAll items = some answers ∧
      List.Forall₂ (fun item answer =>
        compareServiceInstanceConfig m lastMonitorTime currentAll [item] = some [answer] ∧
        (item.instanceStatus = .START → ∀ process, m.listRunningProcessByInstance item.id = some process →
          (FilesDiffer configApis item ((currentAll item.id).getD []) (m.listByServiceProcessId process.id) →
            answer.publishDesc = some restartDesc) ∧
          (¬FilesDiffer configApis item ((currentAll item.id).getD []) (m.listByServiceProcessId process.id) →
            answer.publishDesc = item.publishDesc))) items answers := by
  refine Transition.exists_mapM fun item member => ?_
  have alone : ∀ answer, compareInstance m lastMonitorTime currentAll item = some answer →
      compareServiceInstanceConfig m lastMonitorTime currentAll [item] = some [answer] :=
    fun answer compared => Transition.mapM_eq_some_iff.mpr (.cons compared .nil)
  by_cases isStarted : item.instanceStatus = .START
  · obtain ⟨process, running, comparable⟩ := started item member isStarted
    obtain ⟨answer, compared, set, unset⟩ := compareInstance_spec lastMonitorTime isStarted running comparable
    refine ⟨answer, compared, alone answer compared, fun _ other runningOther => ?_⟩
    obtain rfl := Option.some.inj (running.symm.trans runningOther)
    rw [filesDiffer_iff comparable]
    exact ⟨set, unset⟩
  · have kept : compareInstance m lastMonitorTime currentAll item = some item := if_neg isStarted
    exact ⟨item, kept, alone item kept, fun isStart => absurd isStart isStarted⟩

end Files

section Example

/-- The api keys of the brokers' file and of the options of their virtual machine. -/
def brokerApis : Table ConfigApi.apiKey :=
  ⟨[⟨"rocketmq-broker-config", "broker.properties"⟩, ⟨"JAVA_OPT_EXT", ""⟩], by decide⟩

def brokerValue (propertyId : Int) (name value confApiKey : String) : ProcessPropertyValueRef :=
  ⟨some 1, some 11, some propertyId, none, some value, some value, some "ROCKETMQ", some "BROKER", name, some confApiKey,
    some "", none⟩

def startedMappers : Mappers :=
  { backupMappers "rocketmq-broker" with
    listRunningProcessByInstance := fun id => if id = 11 then some ⟨500, 1, 11, "SUCCESS"⟩ else none
    listByServiceProcessId := fun id =>
      if id = 500 then [brokerValue 31 "flushDiskType" "ASYNC_FLUSH" "rocketmq-broker-config",
        brokerValue 32 "-Xmn" "4g" "JAVA_OPT_EXT"] else [] }

def currentValues (id : Int) : Option (List ProcessPropertyValueRef) :=
  if id = 11 then some [brokerValue 31 "flushDiskType" "ASYNC_FLUSH" "rocketmq-broker-config",
    brokerValue 32 "-Xmn" "2g" "JAVA_OPT_EXT"] else none

def brokers : List HostInstance := [⟨11, "broker-a", .START, none, none⟩, ⟨12, "broker-b", .STOP, none, none⟩]

theorem compareServiceInstanceConfig_brokers : ∃ answers,
    compareServiceInstanceConfig startedMappers (fun _ => none) currentValues brokers = some answers := by
  have started : ∀ item ∈ brokers, item.instanceStatus = .START → ∃ process,
      startedMappers.listRunningProcessByInstance item.id = some process ∧
      Comparable brokerApis ((currentValues item.id).getD []) (startedMappers.listByServiceProcessId process.id) := by
    intro item member isStarted
    rcases List.mem_cons.mp member with rfl | member
    · exact ⟨⟨500, 1, 11, "SUCCESS"⟩, rfl, ⟨by unfold Filled; decide, by unfold Determined; decide, by decide⟩⟩
    · rw [List.mem_singleton.mp member] at isStarted
      cases isStarted
  obtain ⟨answers, compared, -⟩ := compareServiceInstanceConfig_agrees brokerApis started
  exact ⟨answers, compared⟩

end Example

end Zms.Portal.Compare
