import Mathlib
import Zms.Registry.Association
import Zms.Text.Fields
import Zms.Text.Separated
import Zms.Text.Splitting
import Zms.Text.Utf16

/-! The signature of a request: its fields as a text, and a keyed hash of the text. -/

set_option autoImplicit false

namespace Zms.Signing

open Zms.Text (Looks Clear wordsOf SameHeader)

/-- An identifier has neither of the characters that separate the fields. -/
@[ext] structure FieldName where
  name : String
  noAmpersand : '&' ∉ name.toList
  noEquals : '=' ∉ name.toList
  deriving DecidableEq

/-- A `java.lang.Integer` that is not null. -/
@[ext] structure Number where
  value : Int
  least : -2147483648 ≤ value
  most : value ≤ 2147483647
  deriving DecidableEq

inductive FieldType where
  | integer | string
  deriving DecidableEq

inductive FieldValue where
  | integer (value : Option Number)
  | string (value : Option String)
  deriving DecidableEq

def FieldValue.type : FieldValue → FieldType
  | .integer _ => .integer
  | .string _ => .string

def FieldValue.valueOf : FieldValue → String
  | .integer none => "null"
  | .integer (some value) => toString value.value
  | .string none => "null"
  | .string (some value) => value

/-- The fields that a class of requests declares. -/
structure RequestClass where
  fields : List (FieldName × FieldType)
  distinct : (fields.map Prod.fst).Nodup

@[ext] structure Request (cls : RequestClass) where
  values : List FieldValue
  typed : values.map FieldValue.type = cls.fields.map Prod.snd

section Code
variable {cls : RequestClass}

def objectToMap (obj : Request cls) : List (String × Option String) :=
  List.zipWith (fun field value => (field.1.name, some value.valueOf)) cls.fields obj.values

/-- The order of `Map.Entry::getKey`. -/
def comparing (x y : String × String) : Bool := decide (Text.utf16 x.1 ≤ Text.utf16 y.1)

def spliceParam (map : List (String × Option String)) : String :=
  if map.length = 0 then ""
  else
    let entries := (map.filterMap fun item => item.2.map (item.1, ·)).mergeSort comparing
    entries.zipIdx.foldl
      (fun paramBuffer (entry, index) =>
        let paramBuffer := paramBuffer ++ entry.1 ++ "=" ++ entry.2
        if index + 1 ≠ entries.length then paramBuffer ++ "&" else paramBuffer) ""

/-- `Integer.toHexString` of half a byte. -/
def hexDigit (n : ℕ) : Char := "0123456789abcdef".toList.getD n '0'

def byteArrayToHexString (bytes : List UInt8) : String :=
  String.ofList (bytes.flatMap fun byte => [hexDigit (byte.toNat / 16), hexDigit (byte.toNat % 16)])

/-- `compareToIgnoreCase` is 0; one of the two texts is hexadecimal. -/
def sameIgnoringCase (x y : String) : Bool :=
  x.toList.map (fun c => c.toUpper.toLower) == y.toList.map (fun c => c.toUpper.toLower)

-- `doFinal` of an `HmacSHA1` with a key
variable (doFinal : ByteArray → ByteArray → List UInt8)

/-- `none` is an exception: a `SecretKeySpec` takes no empty key. -/
def hmacSHA1Encrypt (encryptText encryptKey : String) : Option String :=
  if encryptKey = "" then none else some (byteArrayToHexString (doFinal encryptKey.toUTF8 encryptText.toUTF8))

def generateSign (dto : Request cls) (token : String) : Option String :=
  hmacSHA1Encrypt doFinal (spliceParam (objectToMap dto)) token

def verifySignature (sign : String) (dto : Request cls) (token : String) : Option Bool :=
  (hmacSHA1Encrypt doFinal (spliceParam (objectToMap dto)) token).map (sameIgnoringCase sign)

/-- The signature of a request is accepted with no other request of its class. -/
def Authenticates (a : Request cls) (token : String) : Prop :=
  ∀ b : Request cls,
    ((generateSign doFinal a token).bind fun sign => verifySignature doFinal sign b token) = some true → a = b

end Code

/-! The fields of a request as words, with `&` between them. -/

def mark (name : FieldName) (word : List Char) : List Char := name.name.toList ++ '=' :: word

/-- What is written of a number, or of none. -/
def short (word : List Char) : Prop := ∃ value, word = (FieldValue.integer value).valueOf.toList

def fieldOf (entry : FieldName × FieldValue) : Text.Field FieldName (List Char) where
  key := entry.1
  free := entry.2.type = .string
  first := (entry.2.valueOf.toList.splitOn '&').headD []
  more := (entry.2.valueOf.toList.splitOn '&').tail

def entriesOf {cls : RequestClass} (obj : Request cls) : List (FieldName × FieldValue) :=
  (cls.fields.map Prod.fst).zip obj.values

/-- The fields in the order in which they are signed. -/
def sorted {cls : RequestClass} (obj : Request cls) : List (FieldName × FieldValue) :=
  (entriesOf obj).mergeSort fun x y => Text.utf16 x.1.name ≤ Text.utf16 y.1.name

/-- A request whose signed text says no less than its fields: no text is null or reads `null`, and
of two texts that follow each other, up to numbers between them, neither has a part that reads
like all that is written between the two. -/
structure Readable {cls : RequestClass} (obj : Request cls) : Prop where
  noNull : ∀ value ∈ obj.values, value ≠ .string none ∧ value ≠ .string (some "null")
  clear : Clear mark short ((sorted obj).map fieldOf)

/-! What equal signatures say of the texts. -/

def foldCase (c : Char) : Char := c.toUpper.toLower

theorem hexDigit_inj {m n : ℕ} (hm : m < 16) (hn : n < 16) (same : foldCase (hexDigit m) = foldCase (hexDigit n)) :
    m = n := by
  interval_cases m <;> interval_cases n <;> first | rfl | exact absurd same (by decide)

theorem byte_eq_of_halves {x y : UInt8} (high : x.toNat / 16 = y.toNat / 16) (low : x.toNat % 16 = y.toNat % 16) :
    x = y := by
  apply UInt8.toNat_inj.mp
  omega

theorem sameIgnoringCase_hex_iff (xs ys : List UInt8) :
    sameIgnoringCase (byteArrayToHexString xs) (byteArrayToHexString ys) = true ↔ xs = ys := by
  simp only [sameIgnoringCase, byteArrayToHexString, beq_iff_eq, String.toList_ofList]
  refine ⟨fun same => ?_, fun same => by rw [same]⟩
  induction xs generalizing ys with
  | nil =>
    cases ys with
    | nil => rfl
    | cons y ys => cases same
  | cons x xs ih =>
    cases ys with
    | nil => cases same
    | cons y ys =>
      obtain ⟨high, rest⟩ := List.cons.inj same
      obtain ⟨low, others⟩ := List.cons.inj rest
      have bound : ∀ z : UInt8, z.toNat / 16 < 16 := fun z => by
        have := z.toNat_lt
        omega
      have sameHigh := hexDigit_inj (bound x) (bound y) high
      have sameLow := hexDigit_inj (Nat.mod_lt _ (by decide)) (Nat.mod_lt _ (by decide)) low
      rw [byte_eq_of_halves sameHigh sameLow, ih ys others]

theorem toUTF8_inj {x y : String} (same : x.toUTF8 = y.toUTF8) : x = y :=
  String.toByteArray_inj.mp same

section Code
variable {cls : RequestClass} {doFinal : ByteArray → ByteArray → List UInt8}

/-- Without collisions, what is accepted has the same text. -/
theorem authenticates_iff_splice (collisionFree : ∀ key, Function.Injective (doFinal key)) (a : Request cls)
    (token : String) : Authenticates doFinal a token ↔
      token = "" ∨ ∀ b : Request cls, spliceParam (objectToMap a) = spliceParam (objectToMap b) → a = b := by
  by_cases empty : token = ""
  · refine iff_of_true (fun b accepted => ?_) (.inl empty)
    simp [generateSign, hmacSHA1Encrypt, empty] at accepted
  · have accepted_iff : ∀ b : Request cls, ((generateSign doFinal a token).bind fun sign =>
        verifySignature doFinal sign b token) = some true ↔
        spliceParam (objectToMap a) = spliceParam (objectToMap b) := by
      intro b
      simp only [generateSign, verifySignature, hmacSHA1Encrypt, if_neg empty, Option.bind_some, Option.map_some,
        Option.some.injEq, sameIgnoringCase_hex_iff]
      exact ⟨fun same => toUTF8_inj (collisionFree _ same), fun same => by rw [same]⟩
    simp only [Authenticates, accepted_iff, empty, false_or]

end Code

/-! The signed text as words. -/

theorem spliced_from (entries : List (String × String)) (k n : ℕ) (length : k + entries.length = n)
    (paramBuffer : String) :
    ((entries.zipIdx k).foldl
      (fun paramBuffer (entry, index) =>
        let paramBuffer := paramBuffer ++ entry.1 ++ "=" ++ entry.2
        if index + 1 ≠ n then paramBuffer ++ "&" else paramBuffer) paramBuffer).toList =
      paramBuffer.toList ++ ['&'].intercalate (entries.map fun entry => entry.1.toList ++ '=' :: entry.2.toList) := by
  induction entries generalizing k paramBuffer with
  | nil => simp
  | cons entry rest ih =>
    rw [List.zipIdx_cons, List.foldl_cons, ih (k + 1) (by simp at length; omega)]
    cases rest with
    | nil =>
      have last : ¬k + 1 ≠ n := by simp at length; omega
      simp [last]
    | cons next rest =>
      have more : k + 1 ≠ n := by simp at length; omega
      simp [more]

theorem intercalate_flatMap {α : Type} (c : Char) (parts : α → List (List Char)) (some : ∀ x, parts x ≠ [])
    (xs : List α) :
    [c].intercalate (xs.flatMap parts) = [c].intercalate (xs.map fun x => [c].intercalate (parts x)) := by
  have appended : ∀ front back : List (List Char), front ≠ [] → back ≠ [] →
      [c].intercalate (front ++ back) = [c].intercalate front ++ [c] ++ [c].intercalate back := by
    intro front back someFront someBack
    induction front with
    | nil => exact absurd rfl someFront
    | cons word rest ih =>
      cases rest with
      | nil => rw [List.singleton_append, List.intercalate_cons_of_ne_nil someBack, List.intercalate_singleton]
      | cons next rest =>
        rw [List.cons_append, List.intercalate_cons_of_ne_nil (by simp), ih (by simp),
          List.intercalate_cons_of_ne_nil (List.cons_ne_nil next rest)]
        simp
  induction xs with
  | nil => rfl
  | cons x rest ih =>
    rw [List.flatMap_cons, List.map_cons]
    cases rest with
    | nil => simp
    | cons next rest =>
      have someRest : (next :: rest).flatMap parts ≠ [] := by simp [some]
      rw [appended _ _ (some x) someRest, ih, List.intercalate_cons_of_ne_nil (by simp)]

section Words
variable {cls : RequestClass}

theorem objectToMap_eq (obj : Request cls) :
    objectToMap obj = (entriesOf obj).map fun entry => (entry.1.name, some entry.2.valueOf) := by
  unfold objectToMap entriesOf
  rw [List.zip_map_left, List.map_map, List.zip, List.map_zipWith]
  rfl

theorem words_fieldOf (entry : FieldName × FieldValue) :
    ['&'].intercalate ((fieldOf entry).words mark) = entry.1.name.toList ++ '=' :: entry.2.valueOf.toList := by
  have joined : ['&'].intercalate (entry.2.valueOf.toList.splitOn '&') = entry.2.valueOf.toList :=
    List.intercalate_splitOn '&'
  unfold Text.Field.words fieldOf mark
  cases parts : entry.2.valueOf.toList.splitOn '&' with
  | nil => exact absurd parts (List.splitOn_ne_nil _ _)
  | cons first more =>
    rw [parts] at joined
    rw [← joined]
    cases more <;> simp

theorem toList_spliceParam (obj : Request cls) :
    (spliceParam (objectToMap obj)).toList = ['&'].intercalate (wordsOf mark ((sorted obj).map fieldOf)) := by
  have entries : ((objectToMap obj).filterMap fun item => item.2.map (item.1, ·)).mergeSort comparing =
      (sorted obj).map fun entry => (entry.1.name, entry.2.valueOf) := by
    have kept : (objectToMap obj).filterMap (fun item => item.2.map (item.1, ·)) =
        (entriesOf obj).map fun entry => (entry.1.name, entry.2.valueOf) := by
      rw [objectToMap_eq, List.filterMap_map]
      exact congrFun List.filterMap_eq_map (entriesOf obj)
    rw [kept, sorted]
    let plain := fun entry : FieldName × FieldValue => (entry.1.name, entry.2.valueOf)
    exact (List.map_mergeSort (f := plain) (s := comparing) fun _ _ _ _ => rfl).symm
  unfold spliceParam
  split
  next none =>
    have empty : sorted obj = [] := by
      rw [List.length_eq_zero_iff, objectToMap_eq, List.map_eq_nil_iff] at none
      rw [sorted, none, List.mergeSort_nil]
    rw [empty]
    rfl
  next =>
    simp only [entries]
    have someWords : ∀ field : Text.Field FieldName (List Char), field.words mark ≠ [] := fun _ => List.cons_ne_nil _ _
    rw [spliced_from _ 0 _ (Nat.zero_add _), wordsOf, intercalate_flatMap '&' _ someWords, List.map_map, List.map_map]
    change ['&'].intercalate _ = _
    congr 1
    exact List.map_congr_left fun entry _ => (words_fieldOf entry).symm

theorem notMem_words {obj : Request cls} {word : List Char} (member : word ∈ wordsOf mark ((sorted obj).map fieldOf)) :
    '&' ∉ word := by
  obtain ⟨field, isField, inField⟩ := List.mem_flatMap.mp member
  obtain ⟨entry, -, rfl⟩ := List.mem_map.mp isField
  have parts : ∀ part ∈ (fieldOf entry).first :: (fieldOf entry).more, '&' ∉ part := by
    intro part inParts
    suffices inSplit : part ∈ entry.2.valueOf.toList.splitOn '&' from Text.notMem_splitOn inSplit
    cases split : entry.2.valueOf.toList.splitOn '&' with
    | nil => exact absurd split (List.splitOn_ne_nil _ _)
    | cons first more => simpa [fieldOf, split] using inParts
  rcases List.mem_cons.mp inField with rfl | inMore
  · intro inMark
    rcases List.mem_append.mp inMark with inName | inFirst
    · exact entry.1.noAmpersand inName
    · rcases List.mem_cons.mp inFirst with equals | inFirst
      · cases equals
      · exact parts _ List.mem_cons_self inFirst
  · exact parts word (List.mem_cons_of_mem _ inMore)

/-- The text of a request says neither more nor less than its words. -/
theorem spliceParam_eq_iff (a b : Request cls) : spliceParam (objectToMap a) = spliceParam (objectToMap b) ↔
    wordsOf mark ((sorted a).map fieldOf) = wordsOf mark ((sorted b).map fieldOf) := by
  have length : ∀ obj : Request cls, (sorted obj).length = cls.fields.length := by
    intro obj
    have values := congrArg List.length obj.typed
    rw [List.length_map, List.length_map] at values
    rw [sorted, List.length_mergeSort, entriesOf, List.length_zip, List.length_map, values, Nat.min_self]
  rw [← String.toList_inj, toList_spliceParam, toList_spliceParam]
  refine ⟨fun same => ?_, fun same => by rw [same]⟩
  by_cases none : cls.fields = []
  · have empty : ∀ obj : Request cls, sorted obj = [] := by
      intro obj
      rw [← List.length_eq_zero_iff, length, none]
      rfl
    rw [empty a, empty b]
  · have some : ∀ obj : Request cls, wordsOf mark ((sorted obj).map fieldOf) ≠ [] := by
      intro obj noWords
      cases fields : sorted obj with
      | nil => exact none (List.length_eq_zero_iff.mp (by rw [← length obj, fields]; rfl))
      | cons entry rest => rw [fields] at noWords; cases noWords
    rw [← List.splitOn_intercalate '&' (fun _ member => notMem_words member) (some a), same,
      List.splitOn_intercalate '&' (fun _ member => notMem_words member) (some b)]

end Words

/-! Fields and their words. -/

theorem mark_inj {name name' : FieldName} {word word' : List Char} (same : mark name word = mark name' word') :
    name = name' ∧ word = word' := by
  obtain ⟨names, words⟩ := Text.append_separator_inj name.noEquals name'.noEquals same
  exact ⟨FieldName.ext (String.toList_injective names), words⟩

theorem type_eq_iff (x y : FieldValue) : (x.type = .string ↔ y.type = .string) ↔ x.type = y.type := by
  cases x <;> cases y <;> simp [FieldValue.type]

theorem sameHeader_fieldOf (x y : FieldName × FieldValue) :
    SameHeader (fieldOf x) (fieldOf y) ↔ x.1 = y.1 ∧ x.2.type = y.2.type := by
  simp only [SameHeader, fieldOf, decide_eq_decide, type_eq_iff]

theorem notMem_integer (value : Option Number) : '&' ∉ (FieldValue.integer value).valueOf.toList := by
  cases value with
  | none => decide
  | some n => exact Text.notMem_toString (by decide) (by decide) n.value

theorem integer_valueOf_inj {x y : Option Number}
    (same : (FieldValue.integer x).valueOf = (FieldValue.integer y).valueOf) : x = y := by
  have noNull : ∀ n : Number, (FieldValue.integer none).valueOf ≠ (FieldValue.integer (some n)).valueOf := by
    intro n null
    have letter : 'n' ∈ (toString n.value).toList := by
      have spelled : "null".toList = (toString n.value).toList := congrArg String.toList null
      rw [← spelled]
      decide
    exact Text.notMem_toString (by decide) (by decide) n.value letter
  cases x with
  | none =>
    cases y with
    | none => rfl
    | some n => exact absurd same (noNull n)
  | some m =>
    cases y with
    | none => exact absurd same.symm (noNull m)
    | some n => exact congrArg some (Number.ext (Int.repr_injective same))

theorem splitOn_integer (value : Option Number) : (FieldValue.integer value).valueOf.toList.splitOn '&' =
    [(FieldValue.integer value).valueOf.toList] :=
  List.splitOn_eq_singleton (notMem_integer value)

theorem proper_fieldOf (entry : FieldName × FieldValue) : (fieldOf entry).Proper short := by
  intro notFree
  obtain ⟨name, value⟩ := entry
  cases value with
  | integer value =>
    simp only [fieldOf, splitOn_integer]
    exact ⟨rfl, value, rfl⟩
  | string value => cases notFree

theorem valueOf_of_fieldOf {x y : FieldName × FieldValue} (same : fieldOf x = fieldOf y) :
    x.2.valueOf = y.2.valueOf := by
  have first := congrArg Text.Field.first same
  have more := congrArg Text.Field.more same
  have parts : x.2.valueOf.toList.splitOn '&' = y.2.valueOf.toList.splitOn '&' := by
    simp only [fieldOf] at first more
    cases splitX : x.2.valueOf.toList.splitOn '&' with
    | nil => exact absurd splitX (List.splitOn_ne_nil _ _)
    | cons firstX moreX =>
      cases splitY : y.2.valueOf.toList.splitOn '&' with
      | nil => exact absurd splitY (List.splitOn_ne_nil _ _)
      | cons firstY moreY =>
        rw [splitX, splitY] at first more
        exact congrArg₂ List.cons first more
  apply String.toList_injective
  have joined : ['&'].intercalate (x.2.valueOf.toList.splitOn '&') = x.2.valueOf.toList := List.intercalate_splitOn '&'
  rw [← joined, parts, List.intercalate_splitOn]

theorem exists_value {field : Text.Field FieldName (List Char)} (proper : field.Proper short)
    (separated : ∀ word ∈ field.first :: field.more, '&' ∉ word) : ∃ entry, fieldOf entry = field := by
  obtain ⟨name, free, first, more⟩ := field
  cases free with
  | false =>
    obtain ⟨noMore, value, spelled⟩ := proper rfl
    refine ⟨(name, .integer value), ?_⟩
    simp only [fieldOf, splitOn_integer]
    simp only at noMore spelled
    rw [noMore, spelled]
    rfl
  | true =>
    refine ⟨(name, .string (some (String.ofList (['&'].intercalate (first :: more))))), ?_⟩
    simp only [fieldOf, FieldValue.valueOf, String.toList_ofList,
      List.splitOn_intercalate '&' separated (List.cons_ne_nil first more)]
    rfl

/-! Requests of one class, in the order of their fields. -/

def header (entry : FieldName × FieldValue) : FieldName × FieldType := (entry.1, entry.2.type)

def byName {ν : Type} (x y : FieldName × ν) : Bool := decide (Text.utf16 x.1.name ≤ Text.utf16 y.1.name)

section Classes
variable {cls : RequestClass}

theorem headers_entriesOf (obj : Request cls) : (entriesOf obj).map header = cls.fields := by
  have zipped : (entriesOf obj).map header = (cls.fields.map Prod.fst).zip (obj.values.map FieldValue.type) := by
    rw [entriesOf, List.zip_map_right]
    rfl
  rw [zipped, obj.typed, List.zip_map', List.map_id'' fun _ => rfl]

theorem names_entriesOf (obj : Request cls) : (entriesOf obj).map Prod.fst = cls.fields.map Prod.fst := by
  rw [← headers_entriesOf obj, List.map_map]
  rfl

theorem headers_sorted (obj : Request cls) : (sorted obj).map header = cls.fields.mergeSort byName := by
  have moved := List.map_mergeSort (f := header) (r := byName) (s := byName) (l := entriesOf obj) fun _ _ _ _ => rfl
  rw [headers_entriesOf] at moved
  exact moved

theorem distinct_sorted (obj : Request cls) : ((sorted obj).map Prod.fst).Nodup := by
  have perm := (List.mergeSort_perm (entriesOf obj) byName).map Prod.fst
  rw [names_entriesOf] at perm
  exact perm.nodup_iff.mpr cls.distinct

theorem forall₂_header_iff {xs ys : List (FieldName × FieldValue)} : xs.map header = ys.map header ↔
    List.Forall₂ SameHeader (xs.map fieldOf) (ys.map fieldOf) := by
  simp only [List.forall₂_map_left_iff, List.forall₂_map_right_iff, sameHeader_fieldOf]
  rw [← List.forall₂_eq_eq_eq, List.forall₂_map_left_iff, List.forall₂_map_right_iff]
  simp only [header, Prod.mk.injEq]

theorem zip_of_perm {names : List FieldName} (distinct : names.Nodup) {xs ys : List FieldValue}
    (lengthX : xs.length = names.length) (lengthY : ys.length = names.length)
    (perm : (names.zip xs).Perm (names.zip ys)) : xs = ys := by
  induction names generalizing xs ys with
  | nil => rw [List.length_eq_zero_iff.mp lengthX, List.length_eq_zero_iff.mp lengthY]
  | cons name rest ih =>
    obtain ⟨fresh, distinctRest⟩ := List.nodup_cons.mp distinct
    cases xs with
    | nil => cases lengthX
    | cons x xs =>
      cases ys with
      | nil => cases lengthY
      | cons y ys =>
        have inOther : (name, x) ∈ (name :: rest).zip (y :: ys) := perm.mem_iff.mp List.mem_cons_self
        have same : x = y := by
          rcases List.mem_cons.mp inOther with here | later
          · exact (Prod.mk.inj here).2
          · exact absurd (List.of_mem_zip later).1 fresh
        subst same
        rw [ih distinctRest (Nat.succ.inj lengthX) (Nat.succ.inj lengthY) (List.perm_cons _ |>.mp perm)]

theorem request_eq_of_sorted {a b : Request cls} (same : sorted a = sorted b) : a = b := by
  have perm : (entriesOf a).Perm (entriesOf b) := by
    refine (List.mergeSort_perm (entriesOf a) byName).symm.trans ?_
    exact (List.Perm.of_eq same).trans (List.mergeSort_perm (entriesOf b) byName)
  have length : ∀ obj : Request cls, obj.values.length = (cls.fields.map Prod.fst).length := by
    intro obj
    simpa using congrArg List.length obj.typed
  exact Request.ext (zip_of_perm cls.distinct (length a) (length b) perm)

theorem exists_request (a : Request cls) {entries : List (FieldName × FieldValue)}
    (same : entries.map header = (sorted a).map header) : ∃ b : Request cls, sorted b = entries := by
  have names : entries.map Prod.fst = (sorted a).map Prod.fst := by
    have fst : ∀ xs : List (FieldName × FieldValue), xs.map Prod.fst = (xs.map header).map Prod.fst := by
      intro xs
      rw [List.map_map]
      rfl
    rw [fst, same, ← fst]
  have distinct : (entries.map Prod.fst).Nodup := names ▸ distinct_sorted a
  let value : FieldName → FieldValue := fun name => (entries.lookup name).getD (.string none)
  have values : ∀ entry ∈ entries, (entry.1, value entry.1) = entry := by
    intro entry member
    simp only [value, Registry.lookup_of_mem distinct member]
    rfl
  have again : ∀ xs : List (FieldName × FieldValue), xs.map Prod.fst = entries.map Prod.fst →
      (xs.map fun entry => (entry.1, value entry.1)) = entries := by
    intro xs sameNames
    have throughNames : ∀ ys : List (FieldName × FieldValue),
        (ys.map fun entry => (entry.1, value entry.1)) = (ys.map Prod.fst).map fun name => (name, value name) := by
      intro ys
      rw [List.map_map]
      rfl
    rw [throughNames, sameNames, ← throughNames, List.map_congr_left values, List.map_id']
  have types : ∀ entry ∈ entriesOf a, (value entry.1).type = entry.2.type := by
    intro entry member
    have inSorted : entry ∈ sorted a := (List.mergeSort_perm (entriesOf a) byName).mem_iff.mpr member
    have isHeader : header entry ∈ entries.map header := same ▸ List.mem_map_of_mem inSorted
    obtain ⟨other, isEntry, sameHeader⟩ := List.mem_map.mp isHeader
    rw [← (Prod.mk.inj sameHeader).1, ← (Prod.mk.inj sameHeader).2, (Prod.mk.inj (values other isEntry)).2]
  let b : Request cls :=
    { values := (entriesOf a).map fun entry => value entry.1
      typed := by
        rw [List.map_map, ← headers_entriesOf a, List.map_map]
        exact List.map_congr_left types }
  have entriesB : entriesOf b = (entriesOf a).map fun entry => (entry.1, value entry.1) := by
    rw [entriesOf, ← names_entriesOf a, List.zip_map']
  refine ⟨b, ?_⟩
  have moved := List.map_mergeSort (f := fun entry : FieldName × FieldValue => (entry.1, value entry.1)) (r := byName)
    (s := byName) (l := entriesOf a) fun _ _ _ _ => rfl
  have sortedB : sorted b = ((entriesOf a).map fun entry => (entry.1, value entry.1)).mergeSort byName :=
    congrArg (List.mergeSort · byName) entriesB
  rw [sortedB, ← moved]
  exact again (sorted a) names.symm

/-- Null and the text that it is written as, exchanged. -/
def swapNull : FieldValue → FieldValue
  | .string none => .string (some "null")
  | .string (some value) => if value = "null" then .string none else .string (some value)
  | value => value

theorem swapNull_spec (value : FieldValue) :
    (swapNull value).type = value.type ∧ (swapNull value).valueOf = value.valueOf := by
  cases value with
  | integer value => exact ⟨rfl, rfl⟩
  | string value =>
    cases value with
    | none => exact ⟨rfl, rfl⟩
    | some value =>
      by_cases null : value = "null"
      · rw [null]
        exact ⟨rfl, rfl⟩
      · rw [swapNull, if_neg null]
        exact ⟨rfl, rfl⟩

theorem exists_swapped (a : Request cls) :
    ∃ b : Request cls, b.values = a.values.map swapNull ∧ objectToMap a = objectToMap b := by
  let b : Request cls :=
    { values := a.values.map swapNull
      typed := by
        rw [List.map_map, ← a.typed]
        exact List.map_congr_left fun value _ => (swapNull_spec value).1 }
  refine ⟨b, rfl, ?_⟩
  have entriesB : entriesOf b = (entriesOf a).map (Prod.map id swapNull) := List.zip_map_right
  rw [objectToMap_eq, objectToMap_eq, entriesB, List.map_map]
  refine List.map_congr_left fun entry _ => ?_
  exact congrArg (fun text => (entry.1.name, some text)) (swapNull_spec entry.2).2.symm

theorem eq_of_fieldOf {x y : FieldName × FieldValue} (noNull : x.2 ≠ .string none ∧ x.2 ≠ .string (some "null"))
    (same : fieldOf x = fieldOf y) : x = y := by
  have texts := valueOf_of_fieldOf same
  obtain ⟨name, value⟩ := x
  obtain ⟨name', value'⟩ := y
  have isHeader : SameHeader (fieldOf (name, value)) (fieldOf (name', value')) := by
    rw [same]
    exact ⟨rfl, rfl⟩
  obtain ⟨names, types⟩ := (sameHeader_fieldOf _ _).mp isHeader
  refine Prod.ext names ?_
  cases value with
  | integer p =>
    cases value' with
    | integer q => exact congrArg FieldValue.integer (integer_valueOf_inj texts)
    | string q => cases types
  | string p =>
    cases value' with
    | integer q => cases types
    | string q =>
      cases p with
      | none => exact absurd rfl noNull.1
      | some p =>
        cases q with
        | none => exact absurd (congrArg (FieldValue.string ∘ some) texts) noNull.2
        | some q => exact congrArg (FieldValue.string ∘ some) texts

theorem eq_of_map_fieldOf {xs ys : List (FieldName × FieldValue)}
    (noNull : ∀ x ∈ xs, x.2 ≠ .string none ∧ x.2 ≠ .string (some "null")) (same : xs.map fieldOf = ys.map fieldOf) :
    xs = ys := by
  induction xs generalizing ys with
  | nil => exact (List.map_eq_nil_iff.mp same.symm).symm
  | cons x xs ih =>
    cases ys with
    | nil => cases same
    | cons y ys =>
      obtain ⟨head, tail⟩ := List.cons.inj same
      obtain ⟨noNullHead, noNullTail⟩ := List.forall_mem_cons.mp noNull
      rw [eq_of_fieldOf noNullHead head, ih noNullTail tail]

/-- A request can be told from its signed text exactly where it is readable. -/
theorem splice_injective_iff (a : Request cls) :
    (∀ b : Request cls, spliceParam (objectToMap a) = spliceParam (objectToMap b) → a = b) ↔ Readable a := by
  have properSorted : ∀ obj : Request cls, ∀ field ∈ (sorted obj).map fieldOf, field.Proper short := by
    intro obj field member
    obtain ⟨entry, -, rfl⟩ := List.mem_map.mp member
    exact proper_fieldOf entry
  have keys : ((sorted a).map fieldOf).map Text.Field.key = (sorted a).map Prod.fst := by
    rw [List.map_map]
    rfl
  constructor
  · intro injective
    constructor
    · obtain ⟨b, valuesB, sameMap⟩ := exists_swapped a
      have unchanged : a.values.map swapNull = a.values.map id := by
        rw [← valuesB, ← injective b (congrArg spliceParam sameMap), List.map_id]
      intro value member
      have fixed := List.map_inj_left.mp unchanged value member
      constructor
      · rintro rfl
        cases fixed
      · rintro rfl
        cases fixed
    · by_contra hidden
      obtain ⟨fields, headers, proper, sameWords, differ⟩ := Text.exists_other_reading (properSorted a) hidden
      have separated : ∀ field ∈ fields, ∀ word ∈ field.first :: field.more, '&' ∉ word := by
        intro field member word inField
        have isWord : ∀ w ∈ field.words mark, '&' ∉ w := by
          intro w inWords
          have inOther : w ∈ wordsOf mark ((sorted a).map fieldOf) := by
            rw [← sameWords]
            exact List.mem_flatMap.mpr ⟨field, member, inWords⟩
          exact notMem_words inOther
        rcases List.mem_cons.mp inField with rfl | inMore
        · exact fun inFirst => isWord _ List.mem_cons_self (List.mem_append_right _ (List.mem_cons_of_mem _ inFirst))
        · exact isWord word (List.mem_cons_of_mem _ inMore)
      obtain ⟨entries, rfl⟩ : fields ∈ Set.range (List.map fieldOf) := by
        rw [Set.range_list_map]
        exact fun field member => exists_value (proper field member) (separated field member)
      obtain ⟨b, rfl⟩ := exists_request a (forall₂_header_iff.mpr headers).symm
      have equal := injective b ((spliceParam_eq_iff a b).mpr sameWords.symm)
      exact differ (by rw [equal])
  · intro readable b same
    rw [spliceParam_eq_iff] at same
    have headers := forall₂_header_iff.mp ((headers_sorted a).trans (headers_sorted b).symm)
    have fields := readable.clear.read mark_inj (keys ▸ distinct_sorted a) (properSorted a) (properSorted b) headers
      same
    refine request_eq_of_sorted (eq_of_map_fieldOf (fun entry member => ?_) fields)
    have isEntry := (List.mergeSort_perm (entriesOf a) byName).mem_iff.mp member
    exact readable.noNull entry.2 (List.of_mem_zip isEntry).2

/-- Without collisions, a signature authenticates a request exactly where the request is readable;
with an empty token there are no signatures. -/
theorem authenticates_iff (doFinal : ByteArray → ByteArray → List UInt8)
    (collisionFree : ∀ key, Function.Injective (doFinal key)) (a : Request cls) (token : String) :
    Authenticates doFinal a token ↔ token = "" ∨ Readable a := by
  rw [authenticates_iff_splice collisionFree, splice_injective_iff]

end Classes

/-! The requests to an agent. -/

def processId : FieldName := ⟨"processId", by decide, by decide⟩

def programName : FieldName := ⟨"programName", by decide, by decide⟩

def programType : FieldName := ⟨"programType", by decide, by decide⟩

def lastStartProgramName : FieldName := ⟨"lastStartProgramName", by decide, by decide⟩

def ProcessRequestDTO : RequestClass where
  fields := [(processId, .integer), (programName, .string), (programType, .string), (lastStartProgramName, .string)]
  distinct := by decide

def startRequest : Request ProcessRequestDTO where
  values := [.integer (some ⟨7, by decide, by decide⟩), .string (some "kafka-1"), .string (some "KAFKA"),
    .string (some "kafka-1")]
  typed := rfl

def stopRequest (type : Option String) : Request ProcessRequestDTO where
  values := [.integer none, .string (some "kafka-1"), .string type, .string none]
  typed := rfl

/-- A hash without collisions that gives the start request, with the token `zms`, its signature. -/
def hashOfStart (key text : ByteArray) : List UInt8 :=
  if key = "zms".toUTF8 ∧
      text = "lastStartProgramName=kafka-1&processId=7&programName=kafka-1&programType=KAFKA".toUTF8 then
    [183, 6, 112, 87, 154, 236, 99, 3, 2, 23, 180, 65, 175, 225, 227, 201, 150, 43, 2, 53]
  else 0 :: text.data.toList

theorem hashOfStart_injective (key : ByteArray) : Function.Injective (hashOfStart key) := by
  intro x y same
  unfold hashOfStart at same
  split at same <;> split at same
  next first second => rw [first.2, second.2]
  next => cases same
  next => cases same
  next => exact ByteArray.ext (Array.toList_inj.mp (List.cons.inj same).2)

theorem authenticates_start : Authenticates hashOfStart startRequest "zms" ↔ "zms" = "" ∨ Readable startRequest :=
  authenticates_iff hashOfStart hashOfStart_injective startRequest "zms"

/-- The request to stop a program is accepted with the type `null`, too. -/
theorem stop_for_another : ¬Authenticates hashOfStart (stopRequest none) "zms" := by
  intro authenticates
  have sameMap : objectToMap (stopRequest none) = objectToMap (stopRequest (some "null")) := rfl
  have accepted := authenticates (stopRequest (some "null")) (by
    simp [generateSign, verifySignature, sameMap, hmacSHA1Encrypt, sameIgnoringCase])
  have values := congrArg Request.values accepted
  cases values

end Zms.Signing
