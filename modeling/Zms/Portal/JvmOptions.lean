import Mathlib
import Zms.Text.Joining
import Zms.Transition.Collecting

/-! The options for the virtual machine that a process is started with. -/

set_option autoImplicit false

namespace Zms.Portal.ParamOpt

/-- What `listByProcessIdAndApiKey` selects of a row. -/
structure ProcessPropertyValueRef where
  propertyName : String
  realValue : String
  confApiKey : String
  deriving DecidableEq

/-- `processParamMap`: the rows of each key, in the order in which they come. -/
def processParamMap (refs : List ProcessPropertyValueRef) : List (String × List ProcessPropertyValueRef) :=
  (refs.map ProcessPropertyValueRef.confApiKey).dedup.map fun key => (key, refs.filter fun ref => ref.confApiKey = key)

def startsWith (name start : String) : Prop := start.toList <+: name.toList

instance (name start : String) : Decidable (startsWith name start) :=
  inferInstanceAs (Decidable (start.toList <+: name.toList))

/-- One round of the loop over the rows of a key. -/
def append (stringBuilder : String) (value : ProcessPropertyValueRef) : String :=
  if value.realValue = "" then stringBuilder
  else
    let stringBuilder := stringBuilder ++ " "
    if startsWith value.propertyName "-XX:(+|-)" then stringBuilder ++ value.propertyName
    else if startsWith value.propertyName "-XX:" then stringBuilder ++ (value.propertyName ++ "=" ++ value.realValue)
    else
      -- no `continue` here: the next test holds of these names as well
      let stringBuilder :=
        if startsWith value.propertyName "-Xloggc" then stringBuilder ++ (value.propertyName ++ ":" ++ value.realValue)
        else stringBuilder
      if startsWith value.propertyName "-X" then stringBuilder ++ (value.propertyName ++ value.realValue)
      else stringBuilder

/-- `substring(1)`, which an empty text does not have. -/
def substringFromOne (text : String) : Option String :=
  match text.toList with
  | [] => none
  | _ :: rest => some (String.ofList rest)

/-- `assembleParamOpt` of `JvmParamOptAssembleImpl`, from the rows of the process; `none` is an exception. -/
def assembleParamOpt (refs : List ProcessPropertyValueRef) : Option (List (String × String)) :=
  (processParamMap refs).mapM fun entry => (substringFromOne (entry.2.foldl append "")).map (entry.1, ·)

/-! What the options should be. -/

inductive OptionKind where
  | flag | assigned | colon | joined
  deriving DecidableEq

def kindOf (name : String) : OptionKind :=
  if startsWith name "-XX:(+|-)" then .flag
  else if startsWith name "-XX:" then .assigned
  else if startsWith name "-Xloggc" then .colon
  else .joined

def OptionKind.write : OptionKind → String → String → String
  | .flag, name, _ => name
  | .assigned, name, value => name ++ "=" ++ value
  | .colon, name, value => name ++ ":" ++ value
  | .joined, name, value => name ++ value

/-- The option of a row. -/
def optionOf (ref : ProcessPropertyValueRef) : String := (kindOf ref.propertyName).write ref.propertyName ref.realValue

/-- The options of the rows with a value, in their order. -/
def optionsOf (refs : List ProcessPropertyValueRef) : String :=
  " ".intercalate ((refs.filter fun ref => ref.realValue ≠ "").map optionOf)

/-- The options of every key are what they should be. -/
def WellFormed (refs : List ProcessPropertyValueRef) : Prop :=
  ∃ options, assembleParamOpt refs = some options ∧ ∀ key,
    options.lookup key = if key ∈ refs.map ProcessPropertyValueRef.confApiKey then
      some (optionsOf (refs.filter fun ref => ref.confApiKey = key)) else none

/-! What is written of a row. -/

def written (ref : ProcessPropertyValueRef) : String :=
  if startsWith ref.propertyName "-XX:(+|-)" then ref.propertyName
  else if startsWith ref.propertyName "-XX:" then ref.propertyName ++ "=" ++ ref.realValue
  else
    (if startsWith ref.propertyName "-Xloggc" then ref.propertyName ++ ":" ++ ref.realValue else "") ++
      if startsWith ref.propertyName "-X" then ref.propertyName ++ ref.realValue else ""

theorem append_eq (stringBuilder : String) {ref : ProcessPropertyValueRef} (valued : ref.realValue ≠ "") :
    append stringBuilder ref = stringBuilder ++ " " ++ written ref := by
  unfold append written
  rw [if_neg valued]
  simp only []
  split_ifs <;> simp [String.append_assoc]

theorem toList_foldl_append (refs : List ProcessPropertyValueRef) (stringBuilder : String) :
    (refs.foldl append stringBuilder).toList = stringBuilder.toList ++
      (refs.filter fun ref => ref.realValue ≠ "").flatMap fun ref => ' ' :: (written ref).toList := by
  induction refs generalizing stringBuilder with
  | nil => simp
  | cons ref rest ih =>
    rw [List.foldl_cons, ih]
    by_cases valued : ref.realValue = ""
    · rw [List.filter_cons_of_neg (by simpa using valued), append, if_pos valued]
    · rw [List.filter_cons_of_pos (by simpa using valued), append_eq stringBuilder valued]
      simp

theorem toList_optionsOf {refs : List ProcessPropertyValueRef} (some : ∃ ref ∈ refs, ref.realValue ≠ "") :
    ' ' :: (optionsOf refs).toList =
      (refs.filter fun ref => ref.realValue ≠ "").flatMap fun ref => ' ' :: (optionOf ref).toList := by
  have joined : ∀ (ref : ProcessPropertyValueRef) rest, ' ' :: (" ".intercalate ((ref :: rest).map optionOf)).toList =
      (ref :: rest).flatMap fun ref => ' ' :: (optionOf ref).toList := by
    intro ref rest
    induction rest generalizing ref with
    | nil => simp
    | cons next rest ih =>
      rw [List.flatMap_cons, ← ih next, List.map_cons, List.map_cons, String.intercalate_cons_cons]
      simp
  obtain ⟨ref, member, valued⟩ := some
  have inFilter : ref ∈ refs.filter fun ref => ref.realValue ≠ "" := List.mem_filter.mpr ⟨member, by simpa using valued⟩
  unfold optionsOf
  cases valuedRefs : refs.filter fun ref => ref.realValue ≠ "" with
  | nil => rw [valuedRefs] at inFilter; cases inFilter
  | cons first rest => exact joined first rest

/-! Which rows are written once. -/

theorem startsWith_of_startsWith {name start shorter : String} (starts : startsWith name start)
    (begins : shorter.toList <+: start.toList) : startsWith name shorter :=
  begins.trans starts

theorem not_startsWith {name start other : String} (starts : startsWith name start)
    (short : other.toList.length ≤ start.toList.length) (differ : ¬other.toList <+: start.toList) :
    ¬startsWith name other :=
  fun also => differ (List.prefix_of_prefix_length_le also starts short)

/-- The options that are written as they should be. -/
def Single (ref : ProcessPropertyValueRef) : Prop :=
  startsWith ref.propertyName "-X" ∧ ¬startsWith ref.propertyName "-Xloggc"

theorem written_of_single {ref : ProcessPropertyValueRef} (single : Single ref) : written ref = optionOf ref := by
  unfold written optionOf kindOf
  rw [if_pos single.1, if_neg single.2, if_neg single.2]
  split_ifs
  · rfl
  · rfl
  · exact String.empty_append

theorem ne_single {ref : ProcessPropertyValueRef} (valued : ref.realValue ≠ "") (single : ¬Single ref) :
    (startsWith ref.propertyName "-Xloggc" ∧
      written ref = optionOf ref ++ (ref.propertyName ++ ref.realValue) ∧
      optionOf ref = ref.propertyName ++ ":" ++ ref.realValue) ∨
    (written ref = "" ∧ optionOf ref ≠ "") := by
  by_cases loggc : startsWith ref.propertyName "-Xloggc"
  · have plain : startsWith ref.propertyName "-X" := startsWith_of_startsWith loggc (by decide)
    have noFlag : ¬startsWith ref.propertyName "-XX:(+|-)" :=
      fun flag => not_startsWith flag (by decide) (by decide) loggc
    have noAssigned : ¬startsWith ref.propertyName "-XX:" := not_startsWith loggc (by decide) (by decide)
    refine .inl ⟨loggc, ?_⟩
    unfold written optionOf kindOf
    rw [if_neg noFlag, if_neg noAssigned, if_pos loggc, if_pos plain, if_neg noFlag, if_neg noAssigned, if_pos loggc]
    exact ⟨rfl, rfl⟩
  · have other : ¬startsWith ref.propertyName "-X" := fun plain => single ⟨plain, loggc⟩
    have noFlag : ¬startsWith ref.propertyName "-XX:(+|-)" :=
      fun flag => other (startsWith_of_startsWith flag (by decide))
    have noAssigned : ¬startsWith ref.propertyName "-XX:" :=
      fun assigned => other (startsWith_of_startsWith assigned (by decide))
    refine .inr ?_
    unfold written optionOf kindOf
    rw [if_neg noFlag, if_neg noAssigned, if_neg loggc, if_neg other, if_neg noFlag, if_neg noAssigned, if_neg loggc]
    exact ⟨rfl, fun empty => valued (String.append_eq_empty_iff.mp empty).2⟩

theorem written_kinds {ref : ProcessPropertyValueRef} (valued : ref.realValue ≠ "") :
    Text.Written '-' 'X' ':' (written ref).toList (optionOf ref).toList := by
  by_cases single : Single ref
  · rw [written_of_single single]
    exact .once _
  · rcases ne_single valued single with ⟨⟨rest, starts⟩, twice, option⟩ | ⟨never, any⟩
    · have first : ref.propertyName.toList[0]? = some '-' := by rw [← starts]; rfl
      have second : ref.propertyName.toList[1]? = some 'X' := by rw [← starts]; rfl
      rw [twice, option]
      simpa using Text.Written.twice first second ref.realValue.toList
    · rw [never]
      exact .never fun empty => any (String.toList_eq_nil_iff.mp empty)

theorem written_eq_iff {ref : ProcessPropertyValueRef} (valued : ref.realValue ≠ "") :
    written ref = optionOf ref ↔ Single ref := by
  refine ⟨fun same => ?_, written_of_single⟩
  by_contra single
  rcases ne_single valued single with ⟨-, twice, -⟩ | ⟨never, any⟩
  · rw [twice] at same
    have none := String.append_eq_left_iff.mp same
    exact valued (String.append_eq_empty_iff.mp none).2
  · exact any (same ▸ never)

/-! The options of one key, and those of all. -/

theorem substring_eq_some_iff {text : String} {rest : List Char} :
    substringFromOne text = some (String.ofList rest) ↔ ∃ first, text.toList = first :: rest := by
  unfold substringFromOne
  cases text.toList with
  | nil => exact iff_of_false nofun fun ⟨_, empty⟩ => by cases empty
  | cons first others =>
    constructor
    · exact fun same => ⟨first, by rw [String.ofList_injective (Option.some.inj same)]⟩
    · rintro ⟨_, same⟩
      rw [(List.cons.inj same).2]

theorem written_options_iff (refs : List ProcessPropertyValueRef) (valued : ∀ ref ∈ refs, ref.realValue ≠ "") :
    (refs.flatMap fun ref => ' ' :: (written ref).toList) = (refs.flatMap fun ref => ' ' :: (optionOf ref).toList) ↔
      ∀ ref ∈ refs, Single ref := by
  constructor
  · intro same ref member
    have kinds : ∀ entry ∈ refs.map fun ref => ((written ref).toList, (optionOf ref).toList),
        Text.Written '-' 'X' ':' entry.1 entry.2 := by
      intro entry isEntry
      obtain ⟨ref, member, rfl⟩ := List.mem_map.mp isEntry
      exact written_kinds (valued ref member)
    have once := (Text.written_once (s := ' ') (by decide) (by decide) (by decide) (by decide) kinds []
      (by simpa only [List.flatMap_map, List.nil_append] using same)).2
    have sameText := once _ (List.mem_map_of_mem member)
    exact (written_eq_iff (valued ref member)).mp (String.toList_inj.mp sameText)
  · intro single
    exact List.flatMap_congr fun ref member => by rw [written_of_single (single ref member)]

/-- The rows of a key give its options exactly where one has a value and those with values are written once. -/
theorem substring_foldl_eq_iff (refs : List ProcessPropertyValueRef) :
    substringFromOne (refs.foldl append "") = some (optionsOf refs) ↔
      (∃ ref ∈ refs, ref.realValue ≠ "") ∧ ∀ ref ∈ refs, ref.realValue ≠ "" → Single ref := by
  have text := toList_foldl_append refs ""
  by_cases some : ∃ ref ∈ refs, ref.realValue ≠ ""
  · have options := toList_optionsOf some
    have single : (∀ ref ∈ refs.filter fun ref => ref.realValue ≠ "", Single ref) ↔
        ∀ ref ∈ refs, ref.realValue ≠ "" → Single ref := by
      simp only [List.mem_filter, decide_eq_true_eq, and_imp]
    have same := written_options_iff (refs.filter fun ref => ref.realValue ≠ "") fun ref member => by
      simpa using (List.mem_filter.mp member).2
    rw [← options, single] at same
    rw [← String.ofList_toList (s := optionsOf refs), substring_eq_some_iff, text, and_iff_right some, ← same]
    constructor
    · rintro ⟨first, written⟩
      change (refs.filter fun ref => ref.realValue ≠ "").flatMap _ = first :: _ at written
      have separator : first = ' ' := by
        cases valuedRefs : refs.filter fun ref => ref.realValue ≠ "" with
        | nil => rw [valuedRefs] at written; cases written
        | cons ref rest => rw [valuedRefs] at written; exact (List.cons.inj written).1.symm
      rwa [separator] at written
    · exact fun written => ⟨' ', written⟩
  · refine iff_of_false (fun same => ?_) fun both => some both.1
    rw [← String.ofList_toList (s := optionsOf refs), substring_eq_some_iff, text] at same
    obtain ⟨first, same⟩ := same
    have none : (refs.filter fun ref => ref.realValue ≠ "") = [] := by
      rw [List.filter_eq_nil_iff]
      exact fun ref member valued => some ⟨ref, member, by simpa using valued⟩
    rw [none] at same
    cases same

theorem lookup_mapM {κ ν : Type} [DecidableEq κ] {f : κ → Option ν} {keys : List κ} {pairs : List (κ × ν)}
    (done : keys.mapM (fun key => (f key).map (key, ·)) = some pairs) (key : κ) :
    pairs.lookup key = if key ∈ keys then f key else none := by
  rw [Transition.mapM_eq_some_iff] at done
  induction done with
  | nil => rfl
  | @cons first pair rest others head _ ih =>
    obtain ⟨value, found, rfl⟩ := Option.map_eq_some_iff.mp head
    by_cases same : key = first
    · subst same
      rw [List.lookup_cons_self, if_pos List.mem_cons_self, found]
    · rw [List.lookup_cons, beq_false_of_ne same, ih]
      simp [same]

/-- A map is collected, and holds the right values, exactly where each of its keys has the right one. -/
theorem collects_iff {κ ν : Type} [DecidableEq κ] (f : κ → Option ν) (right : κ → ν) (keys : List κ) :
    (∃ pairs, keys.mapM (fun key => (f key).map (key, ·)) = some pairs ∧
      ∀ key, pairs.lookup key = if key ∈ keys then some (right key) else none) ↔
      ∀ key ∈ keys, f key = some (right key) := by
  constructor
  · rintro ⟨pairs, done, holds⟩ key isKey
    have found := lookup_mapM done key
    rwa [holds key, if_pos isKey, if_pos isKey, eq_comm] at found
  · intro holds
    have defined : ∀ key ∈ keys, ∃ pair, (f key).map (key, ·) = some pair ∧ True :=
      fun key isKey => ⟨(key, right key), by rw [holds key isKey]; rfl, trivial⟩
    obtain ⟨pairs, done, -⟩ := Transition.exists_mapM defined
    refine ⟨pairs, done, fun key => (lookup_mapM done key).trans ?_⟩
    by_cases isKey : key ∈ keys
    · rw [if_pos isKey, if_pos isKey, holds key isKey]
    · rw [if_neg isKey, if_neg isKey]

/-- What the rows need: each key has a row with a value, and no row with a value is of `-Xloggc`
or of a name that is no option of the virtual machine. -/
structure Plain (refs : List ProcessPropertyValueRef) : Prop where
  valued : ∀ key ∈ refs.map ProcessPropertyValueRef.confApiKey, ∃ ref ∈ refs, ref.confApiKey = key ∧ ref.realValue ≠ ""
  names : ∀ ref ∈ refs, ref.realValue ≠ "" →
    startsWith ref.propertyName "-X" ∧ ¬startsWith ref.propertyName "-Xloggc"

/-- The options are what they should be exactly where the rows are plain. -/
theorem wellFormed_iff (refs : List ProcessPropertyValueRef) : WellFormed refs ↔ Plain refs := by
  have assembled : assembleParamOpt refs = (refs.map ProcessPropertyValueRef.confApiKey).dedup.mapM fun key =>
      (substringFromOne ((refs.filter fun ref => ref.confApiKey = key).foldl append "")).map (key, ·) := by
    unfold assembleParamOpt processParamMap
    rw [List.mapM_map]
    rfl
  have eachKey := collects_iff
    (fun key => substringFromOne ((refs.filter fun ref => ref.confApiKey = key).foldl append ""))
    (fun key => optionsOf (refs.filter fun ref => ref.confApiKey = key))
    (refs.map ProcessPropertyValueRef.confApiKey).dedup
  rw [← assembled] at eachKey
  simp only [List.mem_dedup, substring_foldl_eq_iff, List.mem_filter, decide_eq_true_eq] at eachKey
  refine eachKey.trans ⟨fun right => ⟨fun key isKey => ?_, fun ref member => ?_⟩, fun plain key isKey => ⟨?_, ?_⟩⟩
  · obtain ⟨ref, ⟨member, same⟩, valued⟩ := (right key isKey).1
    exact ⟨ref, member, same, valued⟩
  · exact (right ref.confApiKey (List.mem_map_of_mem member)).2 ref ⟨member, rfl⟩
  · obtain ⟨ref, member, same, valued⟩ := plain.valued key isKey
    exact ⟨ref, ⟨member, same⟩, valued⟩
  · exact fun ref ⟨member, _⟩ => plain.names ref member

/-- The file of the log is named twice. -/
theorem loggc_twice : ¬WellFormed [⟨"-Xloggc", "gc.log", "JAVA_OPT"⟩] := by
  rintro ⟨options, done, right⟩
  have text : assembleParamOpt [⟨"-Xloggc", "gc.log", "JAVA_OPT"⟩] =
      some [("JAVA_OPT", "-Xloggc:gc.log-Xloggcgc.log")] := by decide
  obtain rfl := Option.some.inj (text.symm.trans done)
  exact absurd (right "JAVA_OPT") (by decide)

end Zms.Portal.ParamOpt
