import Mathlib
import Zms.Registry.StableSort

/-! `ServeInstanceService.comparePropertyValueRefMap`: the lines of one configuration file as
it is published and as it is now, shown side by side. -/

set_option autoImplicit false

namespace Zms.Portal.Serve

open Zms.Registry

inductive Mark where
  | minus | plus
  deriving DecidableEq, Repr

structure ServicePropertyCompareValueDTO where
  id : ℚ
  leftNum : Option ℕ
  rightNum : Option ℕ
  mark : Option Mark
  value : String
  deriving DecidableEq

def getCompareValueDTO (id : ℚ) (mark : Option Mark) (value : String) : ServicePropertyCompareValueDTO where
  id := id
  leftNum := none
  rightNum := none
  mark := mark
  value := value

/-- Lines by property, as in a `HashMap`. -/
abbrev ValueMap (Key : Type) := AList fun _ : Key => String

/-- The variables of the loop over the properties. -/
structure Comparing where
  processId : Option ℚ
  currentId : Option ℚ
  initValue : ℚ
  compareValueDTOList : List ServicePropertyCompareValueDTO

/-- The counters of the loop that numbers the lines. -/
structure Numbering where
  leftNum : ℕ
  rightNum : ℕ
  addNum : ℕ
  reduceNum : ℕ

/-- What is set on a `ServicePropertyCompareFileDTO`. -/
structure Comparison where
  addNum : ℕ
  reduceNum : ℕ
  compareList : List ServicePropertyCompareValueDTO
  deriving DecidableEq

def number (n : Numbering) : List ServicePropertyCompareValueDTO → List ServicePropertyCompareValueDTO × Numbering
  | [] => ([], n)
  | item :: rest =>
    match item.mark with
    | some .minus =>
      let done := number { n with leftNum := n.leftNum + 1, reduceNum := n.reduceNum + 1 } rest
      ({ item with leftNum := some n.leftNum } :: done.1, done.2)
    | some .plus =>
      let done := number { n with rightNum := n.rightNum + 1, addNum := n.addNum + 1 } rest
      ({ item with rightNum := some n.rightNum } :: done.1, done.2)
    | none =>
      let done := number { n with leftNum := n.leftNum + 1, rightNum := n.rightNum + 1 } rest
      ({ item with leftNum := some n.leftNum, rightNum := some n.rightNum } :: done.1, done.2)

section Keys
variable {Key : Type} [LinearOrder Key]

/-- What the loop does for one property; each is in one of the maps. -/
def compareProp (current process : ValueMap Key) (s : Comparing) (prop : Key) : Comparing :=
  let basicValue := s.initValue
  let initValue := s.initValue + 10
  match process.lookup prop, current.lookup prop with
  | some processValue, some currentValue =>
    if processValue = currentValue then
      ⟨some basicValue, some basicValue, initValue,
        s.compareValueDTOList ++ [getCompareValueDTO basicValue none currentValue]⟩
    else
      let processId := s.processId.getD 0 + 1 / 10
      let currentId := s.currentId.getD basicValue + 1 / 10
      ⟨some processId, some currentId, initValue,
        s.compareValueDTOList ++ [getCompareValueDTO processId (some .minus) processValue,
          getCompareValueDTO currentId (some .plus) currentValue]⟩
  | some processValue, none =>
    ⟨some basicValue, some basicValue, initValue,
      s.compareValueDTOList ++ [getCompareValueDTO basicValue (some .minus) processValue]⟩
  | none, some currentValue =>
    ⟨some basicValue, some basicValue, initValue,
      s.compareValueDTOList ++ [getCompareValueDTO basicValue (some .plus) currentValue]⟩
  | none, none => ⟨some basicValue, some basicValue, initValue, s.compareValueDTOList⟩

/-- The `TreeSet` of the properties of both maps. -/
def propertyIdAndName (current process : ValueMap Key) : List Key :=
  (process.keys.toFinset ∪ current.keys.toFinset).sort

def byId (a b : ServicePropertyCompareValueDTO) : Bool := decide (a.id ≤ b.id)

def comparePropertyValueRefMap (current process : ValueMap Key) : Comparison :=
  let compared := (propertyIdAndName current process).foldl (compareProp current process) ⟨none, none, 10, []⟩
  let numbered := number ⟨1, 1, 0, 0⟩ (compared.compareValueDTOList.mergeSort byId)
  ⟨numbered.2.addNum, numbered.2.reduceNum, numbered.1⟩

end Keys

/-! One side of the comparison. -/

def ServicePropertyCompareValueDTO.onLeft (line : ServicePropertyCompareValueDTO) : Bool := line.mark ≠ some .plus

def ServicePropertyCompareValueDTO.onRight (line : ServicePropertyCompareValueDTO) : Bool := line.mark ≠ some .minus

section Marks
variable (id : ℚ) (leftNum rightNum : Option ℕ) (mark : Option Mark) (value : String)

@[simp] theorem onLeft_mk : (ServicePropertyCompareValueDTO.mk id leftNum rightNum mark value).onLeft =
    decide (mark ≠ some .plus) := rfl

@[simp] theorem onRight_mk : (ServicePropertyCompareValueDTO.mk id leftNum rightNum mark value).onRight =
    decide (mark ≠ some .minus) := rfl

end Marks

/-- The lines of one side as the loop leaves them: their ids increase, and the side's counter
stands at the last of them. -/
structure Side (shows : ServicePropertyCompareValueDTO → Bool) (counter : Option ℚ) (initValue : ℚ)
    (lines : List ServicePropertyCompareValueDTO) : Prop where
  ordered : (lines.filter shows).Pairwise fun a b => a.id < b.id
  below : ∀ line ∈ lines.filter shows, ∃ id, counter = some id ∧ line.id ≤ id
  next : ∀ id, counter = some id → id < initValue

namespace Side
variable {shows : ServicePropertyCompareValueDTO → Bool} {counter : Option ℚ} {initValue initValue' : ℚ}
  {lines news : List ServicePropertyCompareValueDTO}

theorem add (side : Side shows counter initValue lines) {line : ServicePropertyCompareValueDTO}
    (only : news.filter shows = [line]) (after : ∀ id, counter = some id → id < line.id)
    (next : line.id < initValue') : Side shows (some line.id) initValue' (lines ++ news) := by
  have earlier : ∀ other ∈ lines.filter shows, other.id < line.id := by
    intro other member
    obtain ⟨id, stands, upto⟩ := side.below other member
    exact upto.trans_lt (after id stands)
  refine ⟨?_, ?_, ?_⟩
  · rw [List.filter_append, only, List.pairwise_append]
    refine ⟨side.ordered, List.pairwise_singleton _ _, ?_⟩
    intro other member last here
    rw [List.mem_singleton.mp here]
    exact earlier other member
  · intro other member
    rw [List.filter_append, only] at member
    rcases List.mem_append.mp member with old | last
    · exact ⟨line.id, rfl, (earlier other old).le⟩
    · exact ⟨line.id, rfl, (congrArg _ (List.mem_singleton.mp last)).le⟩
  · intro id stands
    rwa [← Option.some.inj stands]

theorem pass (side : Side shows counter initValue lines) {id' : ℚ} (nothing : news.filter shows = [])
    (upto : ∀ id, counter = some id → id ≤ id') (next : id' < initValue') :
    Side shows (some id') initValue' (lines ++ news) := by
  refine ⟨?_, ?_, ?_⟩
  · rw [List.filter_append, nothing, List.append_nil]
    exact side.ordered
  · intro other member
    rw [List.filter_append, nothing, List.append_nil] at member
    obtain ⟨id, stands, below⟩ := side.below other member
    exact ⟨id', rfl, below.trans (upto id stands)⟩
  · intro id stands
    rwa [← Option.some.inj stands]

theorem place (side : Side shows counter initValue lines) {mark : Option Mark} {value : String}
    (only : news.filter shows = [getCompareValueDTO initValue mark value]) :
    Side shows (some initValue) (initValue + 10) (lines ++ news) :=
  side.add only side.next (lt_add_of_pos_right initValue (by norm_num))

/-- A line that is shown as changed comes a tenth after the last one of its side. -/
theorem raise (side : Side shows counter initValue lines) {start : ℚ} {mark : Option Mark} {value : String}
    (only : news.filter shows = [getCompareValueDTO (counter.getD start + 1 / 10) mark value])
    (early : start ≤ initValue) : Side shows (some (counter.getD start + 1 / 10)) (initValue + 10) (lines ++ news) := by
  have last : counter.getD start ≤ initValue := by
    cases counter with
    | none => exact early
    | some id => exact (side.next id rfl).le
  refine side.add only ?_ ?_
  · intro id stands
    rw [stands]
    exact lt_add_of_pos_right id (by norm_num)
  · exact add_lt_add_of_le_of_lt last (by norm_num)

end Side

section Keys
variable {Key : Type} [LinearOrder Key] {current process : ValueMap Key}

/-- The lines of one side, with the properties that they stand for. -/
def shown (shows : ServicePropertyCompareValueDTO → Bool) (keyed : List (Key × ServicePropertyCompareValueDTO)) :
    List (Key × String) :=
  (keyed.filter fun entry => shows entry.2).map fun entry => (entry.1, entry.2.value)

def entryOf (map : ValueMap Key) (prop : Key) : Option (Key × String) := (map.lookup prop).map (prop, ·)

/-- The property has one value, in both maps. -/
def Unchanged (current process : ValueMap Key) (prop : Key) : Prop :=
  ∃ value, process.lookup prop = some value ∧ current.lookup prop = some value

/-- What the loop has made of the properties in `done`. -/
structure Compared (current process : ValueMap Key) (done : List Key) (s : Comparing)
    (keyed : List (Key × ServicePropertyCompareValueDTO)) : Prop where
  lines : keyed.map Prod.snd = s.compareValueDTOList
  left : shown ServicePropertyCompareValueDTO.onLeft keyed = done.filterMap (entryOf process)
  right : shown ServicePropertyCompareValueDTO.onRight keyed = done.filterMap (entryOf current)
  unmarked : ∀ entry ∈ keyed, entry.2.mark = none ↔ Unchanged current process entry.1
  leftSide : Side ServicePropertyCompareValueDTO.onLeft s.processId s.initValue s.compareValueDTOList
  rightSide : Side ServicePropertyCompareValueDTO.onRight s.currentId s.initValue s.compareValueDTOList
  positive : 0 ≤ s.initValue

omit [LinearOrder Key] in
theorem shown_append (shows : ServicePropertyCompareValueDTO → Bool)
    (keyed : List (Key × ServicePropertyCompareValueDTO)) (prop : Key) (news : List ServicePropertyCompareValueDTO) :
    shown shows (keyed ++ news.map (prop, ·)) =
      shown shows keyed ++ (news.filter shows).map fun line => (prop, line.value) := by
  simp only [shown, List.filter_append, List.map_append, List.filter_map, List.map_map, Function.comp_def]

/-- The part of a step that is the same for all lines. -/
theorem Compared.extend {done : List Key} {s s' : Comparing} {keyed : List (Key × ServicePropertyCompareValueDTO)}
    (h : Compared current process done s keyed) {prop : Key} {news : List ServicePropertyCompareValueDTO}
    (lines : s'.compareValueDTOList = s.compareValueDTOList ++ news)
    (left : (news.filter ServicePropertyCompareValueDTO.onLeft).map ServicePropertyCompareValueDTO.value =
      (process.lookup prop).toList)
    (right : (news.filter ServicePropertyCompareValueDTO.onRight).map ServicePropertyCompareValueDTO.value =
      (current.lookup prop).toList)
    (unmarked : ∀ line ∈ news, line.mark = none ↔ Unchanged current process prop)
    (leftSide : Side ServicePropertyCompareValueDTO.onLeft s'.processId s'.initValue (s.compareValueDTOList ++ news))
    (rightSide : Side ServicePropertyCompareValueDTO.onRight s'.currentId s'.initValue (s.compareValueDTOList ++ news))
    (initValue : s'.initValue = s.initValue + 10) :
    Compared current process (done ++ [prop]) s' (keyed ++ news.map (prop, ·)) := by
  have side : ∀ (shows : ServicePropertyCompareValueDTO → Bool) (map : ValueMap Key),
      shown shows keyed = done.filterMap (entryOf map) →
      (news.filter shows).map ServicePropertyCompareValueDTO.value = (map.lookup prop).toList →
      shown shows (keyed ++ news.map (prop, ·)) = (done ++ [prop]).filterMap (entryOf map) := by
    intro shows map before now
    have added : (news.filter shows).map (fun line => (prop, line.value)) = [prop].filterMap (entryOf map) := by
      have keyedValues := congrArg (List.map (Prod.mk prop)) now
      rw [List.map_map] at keyedValues
      refine Eq.trans keyedValues ?_
      cases found : map.lookup prop <;> simp [entryOf, found]
    rw [shown_append, before, added, List.filterMap_append]
  refine ⟨?_, side _ _ h.left left, side _ _ h.right right, ?_, lines ▸ leftSide, lines ▸ rightSide, ?_⟩
  · rw [lines, List.map_append, h.lines, List.map_map]
    exact congrArg _ (List.map_id news)
  · intro entry member
    rcases List.mem_append.mp member with old | new
    · exact h.unmarked entry old
    · obtain ⟨line, inNews, rfl⟩ := List.mem_map.mp new
      exact unmarked line inNews
  · rw [initValue]
    exact add_nonneg h.positive (by norm_num)

theorem Compared.step {done : List Key} {s : Comparing} {keyed : List (Key × ServicePropertyCompareValueDTO)}
    (h : Compared current process done s keyed) (prop : Key) :
    ∃ news : List ServicePropertyCompareValueDTO, Compared current process (done ++ [prop]) (compareProp current process s prop)
      (keyed ++ news.map (prop, ·)) := by
  have soon : s.initValue < s.initValue + 10 := lt_add_of_pos_right _ (by norm_num)
  unfold compareProp
  cases before : process.lookup prop with
  | none =>
    cases now : current.lookup prop with
    | none =>
      refine ⟨[], h.extend (by simp) (by simp [before]) (by simp [now]) (by simp) ?_ ?_ rfl⟩
      · exact h.leftSide.pass rfl (fun id stands => (h.leftSide.next id stands).le) soon
      · exact h.rightSide.pass rfl (fun id stands => (h.rightSide.next id stands).le) soon
    | some currentValue =>
      refine ⟨[getCompareValueDTO s.initValue (some .plus) currentValue],
        h.extend rfl (by rw [before]; rfl) (by rw [now]; rfl) ?_ ?_ ?_ rfl⟩
      · simp [getCompareValueDTO, Unchanged, before]
      · exact h.leftSide.pass rfl (fun id stands => (h.leftSide.next id stands).le) soon
      · exact h.rightSide.place rfl
  | some processValue =>
    cases now : current.lookup prop with
    | none =>
      refine ⟨[getCompareValueDTO s.initValue (some .minus) processValue],
        h.extend rfl (by rw [before]; rfl) (by rw [now]; rfl) ?_ ?_ ?_ rfl⟩
      · simp [getCompareValueDTO, Unchanged, now]
      · exact h.leftSide.place rfl
      · exact h.rightSide.pass rfl (fun id stands => (h.rightSide.next id stands).le) soon
    | some currentValue =>
      by_cases same : processValue = currentValue
      · simp only [if_pos same]
        refine ⟨[getCompareValueDTO s.initValue none currentValue],
          h.extend rfl (by rw [before, same]; rfl) (by rw [now]; rfl) ?_ ?_ ?_ rfl⟩
        · simp [getCompareValueDTO, Unchanged, before, now, same]
        · exact h.leftSide.place rfl
        · exact h.rightSide.place rfl
      · simp only [if_neg same]
        refine ⟨[getCompareValueDTO (s.processId.getD 0 + 1 / 10) (some .minus) processValue,
            getCompareValueDTO (s.currentId.getD s.initValue + 1 / 10) (some .plus) currentValue],
          h.extend rfl (by rw [before]; rfl) (by rw [now]; rfl) ?_ ?_ ?_ rfl⟩
        · simp [getCompareValueDTO, Unchanged, before, now, Ne.symm same]
        · exact h.leftSide.raise rfl h.positive
        · exact h.rightSide.raise rfl le_rfl

theorem exists_compared {done : List Key} {s : Comparing} {keyed : List (Key × ServicePropertyCompareValueDTO)}
    (h : Compared current process done s keyed) (props : List Key) :
    ∃ keyed, Compared current process (done ++ props) (props.foldl (compareProp current process) s) keyed := by
  induction props generalizing done s keyed with
  | nil => exact ⟨keyed, (List.append_nil done).symm ▸ h⟩
  | cons prop rest ih =>
    obtain ⟨news, stepped⟩ := h.step prop
    obtain ⟨all, ends⟩ := ih stepped
    rw [List.append_assoc] at ends
    exact ⟨all, ends⟩

theorem compared_nil : Compared current process [] ⟨none, none, 10, []⟩ [] where
  lines := rfl
  left := rfl
  right := rfl
  unmarked := nofun
  leftSide := ⟨List.Pairwise.nil, nofun, nofun⟩
  rightSide := ⟨List.Pairwise.nil, nofun, nofun⟩
  positive := by norm_num

omit [LinearOrder Key] in
/-- What is shown on a side, and in which order, does not depend on the ids of the other side. -/
theorem shown_mergeSort {keyed : List (Key × ServicePropertyCompareValueDTO)}
    {shows : ServicePropertyCompareValueDTO → Bool} {counter : Option ℚ} {initValue : ℚ}
    (side : Side shows counter initValue (keyed.map Prod.snd)) :
    shown shows (keyed.mergeSort fun a b => byId a.2 b.2) = shown shows keyed := by
  have ordered : (keyed.filter fun entry => shows entry.2).Pairwise fun a b => byId a.2 b.2 = true := by
    have increasing := side.ordered
    rw [List.filter_map, List.pairwise_map] at increasing
    exact increasing.imp fun before => decide_eq_true before.le
  unfold shown
  rw [filter_mergeSort ?_ ?_ ordered]
  · intro a b c first second
    exact decide_eq_true ((of_decide_eq_true first).trans (of_decide_eq_true second))
  · intro a b
    simpa only [byId, Bool.or_eq_true, decide_eq_true_eq] using le_total a.2.id b.2.id

end Keys

/-! Numbers for the lines. -/

section Numbers
variable {Key : Type}

theorem number_spec (n : Numbering) (keyed : List (Key × ServicePropertyCompareValueDTO)) :
    ∃ numbered : List (Key × ServicePropertyCompareValueDTO),
      numbered.map Prod.snd = (number n (keyed.map Prod.snd)).1 ∧
      numbered.map (fun entry => (entry.1, entry.2.mark, entry.2.value)) =
        keyed.map (fun entry => (entry.1, entry.2.mark, entry.2.value)) ∧
      (numbered.filter fun entry => entry.2.onLeft).map (fun entry => entry.2.leftNum) =
        (List.range' n.leftNum (keyed.filter fun entry => entry.2.onLeft).length).map some ∧
      (numbered.filter fun entry => entry.2.onRight).map (fun entry => entry.2.rightNum) =
        (List.range' n.rightNum (keyed.filter fun entry => entry.2.onRight).length).map some := by
  induction keyed generalizing n with
  | nil => exact ⟨[], rfl, rfl, rfl, rfl⟩
  | cons entry rest ih =>
    obtain ⟨key, id, itemLeft, itemRight, mark, value⟩ := entry
    rcases mark with _ | _ | _
    · obtain ⟨numbered, lines, same, left, right⟩ := ih { n with leftNum := n.leftNum + 1, rightNum := n.rightNum + 1 }
      refine ⟨(key, ⟨id, some n.leftNum, some n.rightNum, none, value⟩) :: numbered, ?_, ?_, ?_, ?_⟩
      · simp [number, lines]
      · simp [same]
      · simp [left, List.range'_succ]
      · simp [right, List.range'_succ]
    · obtain ⟨numbered, lines, same, left, right⟩ := ih { n with leftNum := n.leftNum + 1, reduceNum := n.reduceNum + 1 }
      refine ⟨(key, ⟨id, some n.leftNum, itemRight, some .minus, value⟩) :: numbered, ?_, ?_, ?_, ?_⟩
      · simp [number, lines]
      · simp [same]
      · simp [left, List.range'_succ]
      · simp [right]
    · obtain ⟨numbered, lines, same, left, right⟩ := ih { n with rightNum := n.rightNum + 1, addNum := n.addNum + 1 }
      refine ⟨(key, ⟨id, itemLeft, some n.rightNum, some .plus, value⟩) :: numbered, ?_, ?_, ?_, ?_⟩
      · simp [number, lines]
      · simp [same]
      · simp [left]
      · simp [right, List.range'_succ]

theorem number_counts (n : Numbering) (lines : List ServicePropertyCompareValueDTO) :
    (number n lines).2.addNum = n.addNum + lines.countP (fun line => line.mark = some .plus) ∧
    (number n lines).2.reduceNum = n.reduceNum + lines.countP (fun line => line.mark = some .minus) := by
  induction lines generalizing n with
  | nil => exact ⟨rfl, rfl⟩
  | cons line rest ih =>
    obtain ⟨id, itemLeft, itemRight, mark, value⟩ := line
    rcases mark with _ | _ | _
    · simp [number, ih]
    · simp [number, ih, Nat.add_assoc, Nat.add_comm 1]
    · simp [number, ih, Nat.add_assoc, Nat.add_comm 1]

end Numbers

section Keys
variable {Key : Type} [LinearOrder Key]

/-- The entries of the map are shown, by increasing keys. -/
structure Lists (map : ValueMap Key) (entries : List (Key × String)) : Prop where
  increasing : (entries.map Prod.fst).Pairwise (· < ·)
  mem_iff : ∀ key value, (key, value) ∈ entries ↔ map.lookup key = some value

theorem Lists.length_eq {map : ValueMap Key} {entries : List (Key × String)} (lists : Lists map entries) :
    entries.length = map.entries.length := by
  have sameKeys : ∀ key, key ∈ entries.map Prod.fst ↔ key ∈ map.keys := by
    intro key
    rw [← AList.mem_keys, ← AList.lookup_isSome, Option.isSome_iff_exists, List.mem_map]
    constructor
    · rintro ⟨entry, member, rfl⟩
      exact ⟨entry.2, (lists.mem_iff _ _).mp member⟩
    · rintro ⟨value, found⟩
      exact ⟨(key, value), (lists.mem_iff _ _).mpr found, rfl⟩
  have nodup : (entries.map Prod.fst).Nodup := lists.increasing.imp ne_of_lt
  have sameLength := ((List.perm_ext_iff_of_nodup nodup map.keys_nodup).mpr sameKeys).length_eq
  simpa only [List.length_map, AList.keys, List.keys] using sameLength

theorem lists_filterMap {map : ValueMap Key} {props : List Key} (increasing : props.Pairwise (· < ·))
    (all : ∀ key ∈ map.keys, key ∈ props) : Lists map (props.filterMap (entryOf map)) := by
  constructor
  · rw [List.pairwise_map, List.pairwise_filterMap]
    refine increasing.imp ?_
    intro a b before first firstOf second secondOf
    obtain ⟨value, -, rfl⟩ := Option.map_eq_some_iff.mp firstOf
    obtain ⟨value', -, rfl⟩ := Option.map_eq_some_iff.mp secondOf
    exact before
  · intro key value
    rw [List.mem_filterMap]
    constructor
    · rintro ⟨prop, -, entry⟩
      obtain ⟨found, lookup, same⟩ := Option.map_eq_some_iff.mp entry
      obtain ⟨rfl, rfl⟩ := Prod.mk.inj same
      exact lookup
    · intro lookup
      have inMap : key ∈ map.keys := AList.mem_keys.mp (AList.lookup_isSome.mp (lookup ▸ rfl))
      exact ⟨key, all key inMap, by rw [entryOf, lookup]; rfl⟩

/-- What a comparison shows, each line together with the property that it stands for. -/
structure Faithful (current published : ValueMap Key) (comparison : Comparison)
    (keyed : List (Key × ServicePropertyCompareValueDTO)) : Prop where
  lines : keyed.map Prod.snd = comparison.compareList
  left : Lists published (shown ServicePropertyCompareValueDTO.onLeft keyed)
  leftNums : (keyed.filter fun entry => entry.2.onLeft).map (fun entry => entry.2.leftNum) =
    (List.range' 1 published.entries.length).map some
  right : Lists current (shown ServicePropertyCompareValueDTO.onRight keyed)
  rightNums : (keyed.filter fun entry => entry.2.onRight).map (fun entry => entry.2.rightNum) =
    (List.range' 1 current.entries.length).map some
  unmarked : ∀ entry ∈ keyed, entry.2.mark = none ↔ Unchanged current published entry.1
  addNum : comparison.addNum = comparison.compareList.countP fun line => line.mark = some .plus
  reduceNum : comparison.reduceNum = comparison.compareList.countP fun line => line.mark = some .minus

omit [LinearOrder Key] in
theorem shown_of_map_eq {numbered keyed : List (Key × ServicePropertyCompareValueDTO)}
    (same : numbered.map (fun entry => (entry.1, entry.2.mark, entry.2.value)) =
      keyed.map (fun entry => (entry.1, entry.2.mark, entry.2.value))) (hidden : Mark) :
    shown (fun line => line.mark ≠ some hidden) numbered = shown (fun line => line.mark ≠ some hidden) keyed := by
  have fromMarks : ∀ entries : List (Key × ServicePropertyCompareValueDTO),
      shown (fun line => line.mark ≠ some hidden) entries =
        ((entries.map fun entry => (entry.1, entry.2.mark, entry.2.value)).filter
          fun entry => entry.2.1 ≠ some hidden).map fun entry => (entry.1, entry.2.2) := by
    intro entries
    simp only [shown, List.filter_map, List.map_map, Function.comp_def]
  rw [fromMarks, fromMarks, same]

omit [LinearOrder Key] in
theorem countP_of_map_eq {numbered keyed : List (Key × ServicePropertyCompareValueDTO)}
    (same : numbered.map (fun entry => (entry.1, entry.2.mark, entry.2.value)) =
      keyed.map (fun entry => (entry.1, entry.2.mark, entry.2.value))) (mark : Mark) :
    (keyed.map Prod.snd).countP (fun line => line.mark = some mark) =
      (numbered.map Prod.snd).countP (fun line => line.mark = some mark) := by
  have fromMarks : ∀ entries : List (Key × ServicePropertyCompareValueDTO),
      (entries.map Prod.snd).countP (fun line => line.mark = some mark) =
        (entries.map fun entry => (entry.1, entry.2.mark, entry.2.value)).countP fun entry => entry.2.1 = some mark := by
    intro entries
    simp only [List.countP_map, Function.comp_def]
  rw [fromMarks, fromMarks, same]

omit [LinearOrder Key] in
theorem length_shown (shows : ServicePropertyCompareValueDTO → Bool)
    (keyed : List (Key × ServicePropertyCompareValueDTO)) :
    (shown shows keyed).length = (keyed.filter fun entry => shows entry.2).length := List.length_map _

theorem exists_faithful (current published : ValueMap Key) :
    ∃ keyed, Faithful current published (comparePropertyValueRefMap current published) keyed := by
  have starts : Compared current published [] ⟨none, none, 10, []⟩ [] := compared_nil
  obtain ⟨keyed, compared⟩ := exists_compared starts (propertyIdAndName current published)
  rw [List.nil_append] at compared
  obtain ⟨numbered, lines, same, leftNums, rightNums⟩ :=
    number_spec ⟨1, 1, 0, 0⟩ (keyed.mergeSort fun a b => byId a.2 b.2)
  have sorted : (keyed.mergeSort fun a b => byId a.2 b.2).map Prod.snd =
      (keyed.map Prod.snd).mergeSort byId := List.map_mergeSort fun _ _ _ _ => rfl
  have increasing : (propertyIdAndName current published).Pairwise (· < ·) :=
    (Finset.sortedLT_sort _).pairwise
  have visited : ∀ key, key ∈ published.keys ∨ key ∈ current.keys → key ∈ propertyIdAndName current published := by
    intro key inOne
    simpa only [propertyIdAndName, Finset.mem_sort, Finset.mem_union, List.mem_toFinset] using inOne
  have keptLeft : shown ServicePropertyCompareValueDTO.onLeft numbered = _ := shown_of_map_eq same .plus
  have keptRight : shown ServicePropertyCompareValueDTO.onRight numbered = _ := shown_of_map_eq same .minus
  have left : Lists published (shown ServicePropertyCompareValueDTO.onLeft numbered) := by
    have loop := (shown_mergeSort (compared.lines ▸ compared.leftSide)).trans compared.left
    exact (keptLeft.trans loop) ▸ lists_filterMap increasing fun key member => visited key (.inl member)
  have right : Lists current (shown ServicePropertyCompareValueDTO.onRight numbered) := by
    have loop := (shown_mergeSort (compared.lines ▸ compared.rightSide)).trans compared.right
    exact (keptRight.trans loop) ▸ lists_filterMap increasing fun key member => visited key (.inr member)
  have counts := number_counts ⟨1, 1, 0, 0⟩ ((keyed.mergeSort fun a b => byId a.2 b.2).map Prod.snd)
  rw [countP_of_map_eq same, countP_of_map_eq same, lines, Nat.zero_add, Nat.zero_add, sorted, compared.lines] at counts
  rw [sorted, compared.lines] at lines
  refine ⟨numbered, ⟨lines, left, ?_, right, ?_, ?_, counts.1, counts.2⟩⟩
  · rw [leftNums, ← left.length_eq, keptLeft, length_shown]
    rfl
  · rw [rightNums, ← right.length_eq, keptRight, length_shown]
    rfl
  · intro entry member
    have inBoth := List.mem_map_of_mem (f := fun entry => (entry.1, entry.2.mark, entry.2.value)) member
    rw [same] at inBoth
    obtain ⟨original, inKeyed, copied⟩ := List.mem_map.mp inBoth
    obtain ⟨sameKey, sameMark, -⟩ := by simpa only [Prod.mk.injEq] using copied
    rw [← sameKey, ← sameMark]
    exact compared.unmarked original ((List.mergeSort_perm _ _).mem_iff.mp inKeyed)

omit [LinearOrder Key] in
theorem countP_sides (lines : List ServicePropertyCompareValueDTO) :
    (lines.filter ServicePropertyCompareValueDTO.onLeft).length + lines.countP (fun line => line.mark = some .plus) =
      (lines.filter ServicePropertyCompareValueDTO.onRight).length +
        lines.countP (fun line => line.mark = some .minus) := by
  induction lines with
  | nil => rfl
  | cons line rest ih =>
    obtain ⟨id, itemLeft, itemRight, mark, value⟩ := line
    rcases mark with _ | _ | _ <;> simp <;> omega

/-- The lines shown for the published and for the current configuration are theirs, numbered
in order, and those that differ are the marked ones. -/
theorem comparePropertyValueRefMap_faithful (current published : ValueMap Key) :
    ∃ keyed, Faithful current published (comparePropertyValueRefMap current published) keyed ∧
      ((comparePropertyValueRefMap current published).addNum : ℤ) -
          (comparePropertyValueRefMap current published).reduceNum =
        current.entries.length - published.entries.length := by
  obtain ⟨keyed, faithful⟩ := exists_faithful current published
  refine ⟨keyed, faithful, ?_⟩
  have sides := countP_sides (keyed.map Prod.snd)
  have left := faithful.left.length_eq
  have right := faithful.right.length_eq
  rw [length_shown] at left right
  simp only [List.filter_map, List.length_map, Function.comp_def] at sides
  rw [left, right, faithful.lines, ← faithful.addNum, ← faithful.reduceNum] at sides
  omega

theorem counted_iff (current published : ValueMap Key) :
    0 < (comparePropertyValueRefMap current published).addNum + (comparePropertyValueRefMap current published).reduceNum ↔
      ∃ key, current.lookup key ≠ published.lookup key := by
  obtain ⟨keyed, faithful⟩ := exists_faithful current published
  rw [faithful.addNum, faithful.reduceNum, ← faithful.lines, Nat.add_pos_iff_pos_or_pos, List.countP_pos_iff,
    List.countP_pos_iff]
  constructor
  · intro marked
    obtain ⟨entry, member, changed⟩ : ∃ entry ∈ keyed, entry.2.mark ≠ none := by
      rcases marked with ⟨line, member, isMarked⟩ | ⟨line, member, isMarked⟩ <;>
      · obtain ⟨entry, inKeyed, rfl⟩ := List.mem_map.mp member
        exact ⟨entry, inKeyed, by rw [of_decide_eq_true isMarked]; exact Option.some_ne_none _⟩
    refine ⟨entry.1, fun same => changed ((faithful.unmarked entry member).mpr ?_)⟩
    -- an entry stands on one of the sides, and so in both maps
    by_cases onLeft : entry.2.onLeft = true
    · have inPublished := (faithful.left.mem_iff entry.1 entry.2.value).mp
        (List.mem_map.mpr ⟨entry, List.mem_filter.mpr ⟨member, onLeft⟩, rfl⟩)
      exact ⟨_, inPublished, same.trans inPublished⟩
    · have onRight : entry.2.onRight = true := by
        cases mark : entry.2.mark with
        | none => exact absurd mark changed
        | some side =>
          cases side with
          | minus => exact absurd (by rw [ServicePropertyCompareValueDTO.onLeft, mark]; rfl) onLeft
          | plus => rw [ServicePropertyCompareValueDTO.onRight, mark]; rfl
      have inCurrent := (faithful.right.mem_iff entry.1 entry.2.value).mp
        (List.mem_map.mpr ⟨entry, List.mem_filter.mpr ⟨member, onRight⟩, rfl⟩)
      exact ⟨_, same.symm.trans inCurrent, inCurrent⟩
  · rintro ⟨key, differs⟩
    by_contra unmarked
    have equal : ∀ entry ∈ keyed, current.lookup entry.1 = published.lookup entry.1 := by
      intro entry member
      have noMark : entry.2.mark = none := by
        cases mark : entry.2.mark with
        | none => rfl
        | some side =>
          have counted : ∃ line ∈ keyed.map Prod.snd, decide (line.mark = some side) = true :=
            ⟨entry.2, List.mem_map_of_mem member, decide_eq_true mark⟩
          cases side with
          | minus => exact absurd (.inr counted) unmarked
          | plus => exact absurd (.inl counted) unmarked
      obtain ⟨value, inPublished, inCurrent⟩ := (faithful.unmarked entry member).mp noMark
      exact inCurrent.trans inPublished.symm
    have equalIfShown : ∀ (shows : ServicePropertyCompareValueDTO → Bool) (value : String),
        (key, value) ∈ shown shows keyed → current.lookup key = published.lookup key := by
      intro shows value isShown
      obtain ⟨entry, member, same⟩ := List.mem_map.mp isShown
      exact (Prod.mk.inj same).1 ▸ equal entry (List.mem_filter.mp member).1
    cases now : current.lookup key with
    | some value => exact differs (equalIfShown _ value ((faithful.right.mem_iff key value).mpr now))
    | none =>
      cases before : published.lookup key with
      | some value => exact differs (equalIfShown _ value ((faithful.left.mem_iff key value).mpr before))
      | none => exact differs (now.trans before.symm)

end Keys

end Zms.Portal.Serve
