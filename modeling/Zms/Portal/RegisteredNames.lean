import Mathlib
import Zms.Portal.Tables
import Zms.Text.Doubled
import Zms.Text.Splitting

/-! The names under which consumers register at the node of their group, and what the portal
makes of them.

`allowed` says of a character whether ZooKeeper takes it in the name of a node, `digit` is
`Character.digit` in radix 10.
-/

set_option autoImplicit false

namespace Zms.Portal.RegisteredNames

section Nodes

def segments (path : String) : List String := Text.parts '/' path

/-- A path that ZooKeeper takes. -/
def ValidPath (allowed : Char → Bool) (node : List String) : Prop :=
  node.head? = some "" ∧ ∀ name ∈ node.tail,
    name ≠ "" ∧ name ≠ "." ∧ name ≠ ".." ∧ ∀ c ∈ name.toList, allowed c = true

instance (allowed : Char → Bool) (node : List String) : Decidable (ValidPath allowed node) :=
  @instDecidableAnd _ _ _ (@List.decidableBAll _ _ (fun _ =>
    @instDecidableAnd _ _ _ (@instDecidableAnd _ _ _ (@instDecidableAnd _ _ _ (List.decidableBAll _ _)))) _)

/-- The paths of the nodes that exist. -/
structure ZkTree (allowed : Char → Bool) where
  nodes : List (List String)
  valid : ∀ node ∈ nodes, ValidPath allowed node

variable {allowed : Char → Bool}

def ZkTree.exists (tree : ZkTree allowed) (path : String) : Bool := segments path ∈ tree.nodes

def childOf (parent node : List String) : Option String := if node.dropLast = parent then node.getLast? else none

def ZkTree.getChildren (tree : ZkTree allowed) (path : String) : List String :=
  tree.nodes.filterMap (childOf (segments path))

/-- `none` is an exception: an invalid path, no parent, or a node that exists. -/
def ZkTree.createEphemeral (tree : ZkTree allowed) (path : String) : Option (ZkTree allowed) :=
  let node := segments path
  if valid : ValidPath allowed node then
    if node.dropLast ∈ tree.nodes ∧ node ∉ tree.nodes then
      some ⟨tree.nodes ++ [node], fun other member => (List.mem_append.mp member).elim (tree.valid other)
        fun last => List.mem_singleton.mp last ▸ valid⟩
    else none
  else none

end Nodes

section Client

structure LocalDateTime where
  year : Int
  month : Nat
  day : Nat
  hour : Nat
  minute : Nat
  second : Nat
  nano : Nat

def digits (n : Nat) : List Char := Nat.toDigits 10 n

def twoDigits (n : Nat) : List Char := if n < 10 then '0' :: digits n else digits n

def yearText (year : Int) : List Char :=
  if year.natAbs < 1000 then (if year < 0 then ['-'] else []) ++ (digits (year.natAbs + 10000)).tail
  else (if 9999 < year then ['+'] else []) ++ (if year < 0 then ['-'] else []) ++ digits year.natAbs

def nanoText (nano : Nat) : List Char :=
  if nano % 1000000 = 0 then (digits (nano / 1000000 + 1000)).tail
  else if nano % 1000 = 0 then (digits (nano / 1000 + 1000000)).tail
  else (digits (nano + 1000000000)).tail

/-- `toString`. -/
def LocalDateTime.text (time : LocalDateTime) : String :=
  String.ofList (yearText time.year ++ '-' :: twoDigits time.month ++ '-' :: twoDigits time.day ++
    'T' :: twoDigits time.hour ++ ':' :: twoDigits time.minute ++
    (if 0 < time.second ∨ 0 < time.nano then ':' :: twoDigits time.second else []) ++
    (if 0 < time.nano then '.' :: nanoText time.nano else []))

def isStatistic (fold : Char → Char) (name : String) : Bool :=
  ["statistic_ping_consumer", "statistic_ping_topic", "statistic_consumer_consumerInfo",
    "statistic_consumer_kafka_consumerinfo", "statistic_consumer_kafka_producerinfo",
    "statistic_consumer_producerInfo", "statistic_topic_consumerinfo", "statistic_topic_kafka_consumerinfo",
    "statistic_topic_kafka_producerinfo", "statistic_topic_producerinfo"].any fun statistic =>
      equalsIgnoreCase fold statistic name

def consumerGroupPath (name : String) : String := "/zms/consumergroup" ++ "/" ++ name

/-- What a client registers with. -/
structure Registration where
  zmsIp : String
  instanceName : String
  zmsVersion : String
  now : LocalDateTime
  random : Fin 100000

def Registration.nodeName (r : Registration) : String :=
  r.zmsIp ++ "||" ++ r.instanceName ++ "||" ++ r.zmsVersion ++ "||" ++ r.now.text ++ "||" ++ toString r.random.val

def registerName {allowed : Char → Bool} (fold : Char → Char) (tree : ZkTree allowed) (group : String)
    (r : Registration) : Option (ZkTree allowed) :=
  if isStatistic fold group then some tree
  else tree.createEphemeral (consumerGroupPath group ++ "/" ++ r.nodeName)

end Client

section Portal
variable (digit : Char → Option Nat)

/-- `split("\\|\\|")`. -/
def splitBars (text : String) : List String :=
  let parts := Text.splitDoubled '|' text.toList
  if parts.tail = [] then [text] else (parts.map String.ofList).rdropWhile (· = "")

def signed : List Char → Int × List Char
  | '-' :: rest => (-1, rest)
  | '+' :: rest => (1, rest)
  | rest => (1, rest)

/-- `Integer.parseInt`; `none` is its exception. -/
def parseInt (text : String) : Option Int :=
  ((signed text.toList).2.mapM digit).bind fun values =>
    let value := (signed text.toList).1 * (values.foldl (fun n d => 10 * n + d) 0 : Nat)
    if values ≠ [] ∧ -2 ^ 31 ≤ value ∧ value < 2 ^ 31 then some value else none

structure ConsumerZmsRegisterDTO where
  zmsIP : String
  instanceName : String
  zmsVersion : String
  startUpTime : Option String
  threadLocalRandomInt : Int
  deriving DecidableEq

/-- The entry for a child, if it has one; the outer `none` is the exception. -/
def registerOf (clientInfo : String) : Option (Option ConsumerZmsRegisterDTO) :=
  match splitBars clientInfo with
  | [zmsIP, instanceName, zmsVersion, number] =>
      (parseInt digit number).map fun n => some ⟨zmsIP, instanceName, zmsVersion, none, n⟩
  | [zmsIP, instanceName, zmsVersion, startUpTime, number] =>
      (parseInt digit number).map fun n => some ⟨zmsIP, instanceName, zmsVersion, some startUpTime, n⟩
  | _ => some none

def consumerZmsRegister {allowed : Char → Bool} (tree : ZkTree allowed) (consumerGroup : String) :
    Option (List ConsumerZmsRegisterDTO) :=
  let zkPath := consumerGroupPath consumerGroup
  if tree.exists zkPath then ((tree.getChildren zkPath).mapM (registerOf digit)).map List.reduceOption else some []

end Portal

section Characters

/-- The characters of times and numbers. -/
def Printed (c : Char) : Prop := c.isDigit = true ∨ c ∈ ['-', '+', 'T', ':', '.']

theorem printed_digits {n : Nat} {c : Char} (member : c ∈ digits n) : Printed c :=
  .inl (Nat.isDigit_of_mem_toDigits (by decide) (by decide) member)

theorem printed_tail {n : Nat} {c : Char} (member : c ∈ (digits n).tail) : Printed c :=
  printed_digits (List.mem_of_mem_tail member)

theorem printed_twoDigits {n : Nat} {c : Char} (member : c ∈ twoDigits n) : Printed c := by
  unfold twoDigits at member
  split at member
  · rcases List.mem_cons.mp member with rfl | later
    · exact .inl rfl
    · exact printed_digits later
  · exact printed_digits member

theorem printed_yearText {year : Int} {c : Char} (member : c ∈ yearText year) : Printed c := by
  have sign : ∀ {d : Char} {condition : Prop} [Decidable condition], d ∈ ['-', '+', 'T', ':', '.'] →
      c ∈ (if condition then [d] else []) → Printed c := by
    intro d condition _ isSign inSign
    split at inSign
    · exact .inr (List.mem_singleton.mp inSign ▸ isSign)
    · cases inSign
  unfold yearText at member
  split at member
  · rcases List.mem_append.mp member with minus | later
    · exact sign (by decide) minus
    · exact printed_tail later
  · rcases List.mem_append.mp member with signs | later
    · rcases List.mem_append.mp signs with plus | minus
      · exact sign (by decide) plus
      · exact sign (by decide) minus
    · exact printed_digits later

theorem printed_nanoText {nano : Nat} {c : Char} (member : c ∈ nanoText nano) : Printed c := by
  unfold nanoText at member
  split at member
  · exact printed_tail member
  · split at member <;> exact printed_tail member

theorem printed_text {time : LocalDateTime} {c : Char} (member : c ∈ time.text.toList) : Printed c := by
  have separated : ∀ {d : Char} {text : List Char}, d ∈ ['-', '+', 'T', ':', '.'] → (∀ c ∈ text, Printed c) →
      ∀ c ∈ d :: text, Printed c := by
    intro d text isSeparator printed c inText
    rcases List.mem_cons.mp inText with rfl | later
    · exact .inr isSeparator
    · exact printed c later
  rw [LocalDateTime.text, String.toList_ofList] at member
  simp only [List.mem_append] at member
  rcases member with (((((year | month) | day) | hour) | minute) | seconds) | fraction
  · exact printed_yearText year
  · exact separated (by decide) (fun _ => printed_twoDigits) c month
  · exact separated (by decide) (fun _ => printed_twoDigits) c day
  · exact separated (by decide) (fun _ => printed_twoDigits) c hour
  · exact separated (by decide) (fun _ => printed_twoDigits) c minute
  · split at seconds
    · exact separated (by decide) (fun _ => printed_twoDigits) c seconds
    · cases seconds
  · split at fraction
    · exact separated (by decide) (fun _ => printed_nanoText) c fraction
    · cases fraction

theorem printed_toString {n : Nat} {c : Char} (member : c ∈ (toString n).toList) : Printed c := by
  have shape : (toString n).toList = digits n := Nat.toList_repr
  rw [shape] at member
  exact printed_digits member

theorem Printed.spec {c : Char} (printed : Printed c) : c ≠ '|' ∧ c ≠ '/' ∧ 32 ≤ c.toNat ∧ c.toNat < 127 := by
  rcases printed with digit | mark
  · have range : 48 ≤ c.toNat ∧ c.toNat ≤ 57 := by
      have same : c.val.toNat = c.toNat := rfl
      simp only [Char.isDigit, Bool.and_eq_true, decide_eq_true_eq, ge_iff_le, UInt32.le_iff_toNat_le] at digit
      simpa [same] using digit
    refine ⟨?_, ?_, by omega, by omega⟩ <;> rintro rfl <;> revert range <;> decide
  · fin_cases mark <;> decide

end Characters

section Decoding

theorem toList_nodeName (r : Registration) : r.nodeName.toList =
    r.zmsIp.toList ++ '|' :: '|' :: (r.instanceName.toList ++ '|' :: '|' :: (r.zmsVersion.toList ++
      '|' :: '|' :: (r.now.text.toList ++ '|' :: '|' :: (toString r.random.val).toList))) := by
  have bars : "||".toList = ['|', '|'] := rfl
  simp only [Registration.nodeName, String.toList_append, bars, List.append_assoc, List.cons_append, List.nil_append]

theorem splitDoubled_last (r : Registration) :
    Text.splitDoubled '|' (r.now.text.toList ++ '|' :: '|' :: (toString r.random.val).toList) =
      [r.now.text.toList, (toString r.random.val).toList] := by
  have freeTime : '|' ∉ r.now.text.toList := fun member => (printed_text member).spec.1 rfl
  have freeNumber : '|' ∉ (toString r.random.val).toList := fun member => (printed_toString member).spec.1 rfl
  rw [Text.splitDoubled_append (Text.single_of_notMem freeTime), Text.splitDoubled_of_notMem freeNumber]

/-- The parts that a client has put together come back. -/
def Apart (r : Registration) : Prop :=
  Text.Single '|' r.zmsIp.toList ∧ Text.Single '|' r.instanceName.toList ∧ Text.Single '|' r.zmsVersion.toList

instance (r : Registration) : Decidable (Apart r) := inferInstanceAs (Decidable (_ ∧ _ ∧ _))

theorem splitDoubled_nodeName_iff (r : Registration) {more : List (List Char)} (some : more ≠ []) :
    Text.splitDoubled '|' r.nodeName.toList =
        r.zmsIp.toList :: r.instanceName.toList :: r.zmsVersion.toList :: more ↔
      Apart r ∧ more = [r.now.text.toList, (toString r.random.val).toList] := by
  rw [toList_nodeName, Text.splitDoubled_cons_iff (by simp), Text.splitDoubled_cons_iff (by simp),
    Text.splitDoubled_cons_iff some, splitDoubled_last, eq_comm (b := more)]
  simp only [Apart, and_assoc]

theorem splitBars_prefix {text : String} {parts : List String} (is : splitBars text = parts)
    (several : 1 < parts.length) :
    ∃ more, Text.splitDoubled '|' text.toList = parts.map String.toList ++ more := by
  unfold splitBars at is
  by_cases single : (Text.splitDoubled '|' text.toList).tail = []
  · rw [if_pos single] at is
    subst is
    exact absurd several (Nat.lt_irrefl 1)
  · rw [if_neg single] at is
    obtain ⟨more, whole⟩ := List.rdropWhile_prefix (fun part : String => decide (part = ""))
      ((Text.splitDoubled '|' text.toList).map String.ofList)
    rw [is] at whole
    have lists := congrArg (List.map String.toList) whole
    rw [List.map_append, List.map_map] at lists
    refine ⟨more.map String.toList, Eq.trans ?_ lists.symm⟩
    simp [Function.comp_def]

theorem splitBars_nodeName {r : Registration} (apart : Apart r) :
    splitBars r.nodeName = [r.zmsIp, r.instanceName, r.zmsVersion, r.now.text, toString r.random.val] := by
  have parts := (splitDoubled_nodeName_iff r (by simp)).mpr ⟨apart, rfl⟩
  unfold splitBars
  rw [parts, if_neg (by simp)]
  simp only [List.map_cons, List.map_nil, String.ofList_toList]
  exact List.rdropWhile_eq_self_iff.mpr fun _ => by simp

variable {digit : Char → Option Nat}

/-- `digit` has the digits of ASCII. -/
def Decimal (digit : Char → Option Nat) : Prop := ∀ c, c.isDigit = true → digit c = some (c.toNat - '0'.toNat)

theorem parseInt_toString (decimal : Decimal digit) {n : Nat} (small : n < 2 ^ 31) :
    parseInt digit (toString n) = some (n : Int) := by
  have shape : (toString n).toList = digits n := Nat.toList_repr
  have isDigits : ∀ c ∈ digits n, c.isDigit = true := fun c => Nat.isDigit_of_mem_toDigits (by decide) (by decide)
  have values : ∀ text : List Char, (∀ c ∈ text, c.isDigit = true) →
      text.mapM digit = some (text.map fun c => c.toNat - '0'.toNat) := by
    intro text
    induction text with
    | nil => exact fun _ => rfl
    | cons c rest ih =>
      intro all
      have tail := ih fun d member => all d (List.mem_cons_of_mem _ member)
      rw [List.mapM_cons, decimal c (all c List.mem_cons_self), tail]
      rfl
  have value : (digits n).foldl (fun k c => 10 * k + (c.toNat - '0'.toNat)) 0 = n := Nat.ofDigitChars_ten_toDigits
  have unsigned : signed (digits n) = (1, digits n) := by
    unfold signed
    split
    · next same => exact absurd (isDigits '-' (same ▸ List.mem_cons_self)) (by decide)
    · next same => exact absurd (isDigits '+' (same ▸ List.mem_cons_self)) (by decide)
    · rfl
  have nonempty : (digits n).map (fun c => c.toNat - '0'.toNat) ≠ [] := fun none =>
    Nat.toDigits_ne_nil (List.map_eq_nil_iff.mp none)
  rw [parseInt, shape, unsigned, values _ isDigits, Option.bind_some, List.foldl_map, value]
  simp only [Int.one_mul]
  exact if_pos ⟨nonempty, by omega, by omega⟩

theorem registerOf_nodeName_iff (decimal : Decimal digit) (r : Registration) :
    registerOf digit r.nodeName =
        some (some ⟨r.zmsIp, r.instanceName, r.zmsVersion, some r.now.text, r.random.val⟩) ↔ Apart r := by
  constructor
  · intro is
    unfold registerOf at is
    split at is
    · obtain ⟨n, -, same⟩ := Option.map_eq_some_iff.mp is
      cases same
    · next zmsIP instanceName zmsVersion startUpTime number parts =>
      obtain ⟨n, -, same⟩ := Option.map_eq_some_iff.mp is
      obtain ⟨rfl, rfl, rfl, -, -⟩ := ConsumerZmsRegisterDTO.mk.inj (Option.some.inj same)
      obtain ⟨more, whole⟩ := splitBars_prefix parts (by simp)
      exact ((splitDoubled_nodeName_iff r (by simp)).mp whole).1
    · cases is
  · intro apart
    have small : r.random.val < 2 ^ 31 := by
      have := r.random.isLt
      omega
    have read := parseInt_toString decimal small
    rw [registerOf, splitBars_nodeName apart]
    simp only [read, Option.map_some]

end Decoding

section Registering
variable {allowed : Char → Bool} {tree : ZkTree allowed} {path name : String}

theorem segments_append (path name : String) : segments (path ++ "/" ++ name) = segments path ++ segments name := by
  have slash : "/".toList = ['/'] := rfl
  simp only [segments, Text.parts, String.toList_append, slash, List.append_assoc, List.singleton_append,
    List.splitOn_append_cons_self, List.map_append]

theorem segments_of_notMem (free : '/' ∉ name.toList) : segments name = [name] := by
  rw [segments, Text.parts, List.splitOn_eq_singleton free, List.map_singleton, String.ofList_toList]

theorem one_lt_of_mem (slash : '/' ∈ name.toList) : 1 < (segments name).length := by
  obtain ⟨before, after, shape⟩ := List.append_of_mem slash
  have before' := List.length_pos_iff.mpr (List.splitOn_ne_nil '/' before)
  have after' := List.length_pos_iff.mpr (List.splitOn_ne_nil '/' after)
  rw [segments, Text.parts, shape, List.splitOn_append_cons_self, List.length_map, List.length_append]
  omega

theorem childOf_append (parent rest : List String) (some : rest ≠ []) :
    childOf parent (parent ++ rest) = if rest.length = 1 then rest.getLast? else none := by
  unfold childOf
  rw [List.dropLast_append_of_ne_nil some, List.getLast?_append_of_ne_nil _ some]
  have same : parent ++ rest.dropLast = parent ↔ rest.length = 1 := by
    rw [List.append_right_eq_self, ← List.length_eq_zero_iff, List.length_dropLast]
    have := List.length_pos_iff.mpr some
    omega
  simp only [same]

theorem mem_getChildren : name ∈ tree.getChildren path ↔ segments path ++ [name] ∈ tree.nodes := by
  unfold ZkTree.getChildren
  rw [List.mem_filterMap]
  constructor
  · rintro ⟨node, inTree, child⟩
    obtain ⟨parent, last⟩ := Option.ite_none_right_eq_some.mp child
    rw [← parent, List.dropLast_append_getLast? name last]
    exact inTree
  · intro member
    exact ⟨_, member, by rw [childOf_append _ _ (by simp)]; rfl⟩

theorem createEphemeral_eq_some_iff {tree' : ZkTree allowed} : tree.createEphemeral path = some tree' ↔
    ValidPath allowed (segments path) ∧ (segments path).dropLast ∈ tree.nodes ∧ segments path ∉ tree.nodes ∧
      tree'.nodes = tree.nodes ++ [segments path] := by
  unfold ZkTree.createEphemeral
  obtain ⟨nodes', valid'⟩ := tree'
  by_cases valid : ValidPath allowed (segments path)
  · by_cases fresh : (segments path).dropLast ∈ tree.nodes ∧ segments path ∉ tree.nodes
    · simp [valid, fresh, eq_comm]
    · simp only [valid, fresh, dif_pos, if_false, reduceCtorEq, true_and, false_iff]
      exact fun both => fresh ⟨both.1, both.2.1⟩
  · simp [valid]

/-- A name makes one child more of a node exactly when it is a name that ZooKeeper takes, with
no slash, and new. -/
theorem creates_child_iff (parent : tree.exists path = true) (some : 2 < name.toList.length) {child : String} :
    (∃ tree', tree.createEphemeral (path ++ "/" ++ name) = .some tree' ∧
        tree'.getChildren path = tree.getChildren path ++ [child]) ↔
      (∀ c ∈ name.toList, c ≠ '/' ∧ allowed c = true) ∧ name ∉ tree.getChildren path ∧ child = name := by
  have inTree : segments path ∈ tree.nodes := by simpa [ZkTree.exists] using parent
  have validParent := tree.valid _ inTree
  have someSegments : segments name ≠ [] := by simp [segments, Text.parts, List.splitOn_ne_nil]
  have children : ∀ tree' : ZkTree allowed, tree'.nodes = tree.nodes ++ [segments path ++ segments name] →
      tree'.getChildren path = tree.getChildren path ++
        (if (segments name).length = 1 then (segments name).getLast? else none).toList := by
    intro tree' same
    rw [ZkTree.getChildren, same, List.filterMap_append, List.filterMap_cons, childOf_append _ _ someSegments]
    cases (if (segments name).length = 1 then (segments name).getLast? else none) <;> rfl
  simp only [createEphemeral_eq_some_iff, segments_append]
  by_cases slash : '/' ∈ name.toList
  · have several := one_lt_of_mem slash
    constructor
    · rintro ⟨tree', ⟨-, -, -, same⟩, grown⟩
      rw [children tree' same, if_neg (by omega)] at grown
      simp at grown
    · rintro ⟨clean, -⟩
      exact absurd rfl (clean _ slash).1
  · have own := segments_of_notMem slash
    have validName : ValidPath allowed (segments path ++ [name]) ↔ ∀ c ∈ name.toList, allowed c = true := by
      have someParent : segments path ≠ [] := by simp [segments, Text.parts, List.splitOn_ne_nil]
      have notShort : ∀ short : String, short.toList.length ≤ 2 → name ≠ short := fun short length same => by
        rw [same] at some
        omega
      obtain ⟨root, above⟩ := validParent
      unfold ValidPath
      rw [List.head?_append_of_ne_nil _ someParent, List.tail_append_of_ne_nil someParent]
      constructor
      · rintro ⟨-, each⟩
        exact (each name (List.mem_append_right _ (List.mem_singleton_self _))).2.2.2
      · intro chars
        refine ⟨root, fun segment member => ?_⟩
        rcases List.mem_append.mp member with inParent | isName
        · exact above segment inParent
        · obtain rfl := List.mem_singleton.mp isName
          exact ⟨notShort "" (by decide), notShort "." (by decide), notShort ".." (by decide), chars⟩
    rw [own] at children ⊢
    simp only [validName, List.dropLast_concat, inTree, true_and, mem_getChildren]
    constructor
    · rintro ⟨tree', ⟨chars, fresh, same⟩, grown⟩
      rw [children tree' same] at grown
      have isName : [name] = [child] := List.append_cancel_left grown
      exact ⟨fun c member => ⟨fun isSlash => slash (isSlash ▸ member), chars c member⟩, fresh,
        (List.cons.inj isName).1.symm⟩
    · rintro ⟨clean, fresh, rfl⟩
      have valid := validName.mpr fun c member => (clean c member).2
      refine ⟨⟨tree.nodes ++ [segments path ++ [child]], fun node member => ?_⟩,
        ⟨fun c member => (clean c member).2, fresh, rfl⟩, children _ rfl⟩
      rcases List.mem_append.mp member with old | last
      · exact tree.valid node old
      · exact List.mem_singleton.mp last ▸ valid

end Registering

section Listing
variable {digit : Char → Option Nat} {child : String}

/-- Of four or five parts, the last of which is an integer. -/
def isWellFormed (digit : Char → Option Nat) (child : String) : Bool :=
  ((splitBars child).length = 4 || (splitBars child).length = 5) &&
    ((splitBars child).getLast?.bind (parseInt digit)).isSome

/-- The entry has the parts of the child. -/
def Shows (digit : Char → Option Nat) (child : String) (entry : ConsumerZmsRegisterDTO) : Prop :=
  ∃ number, splitBars child =
      entry.zmsIP :: entry.instanceName :: entry.zmsVersion :: (entry.startUpTime.toList ++ [number]) ∧
    parseInt digit number = some entry.threadLocalRandomInt

theorem registerOf_cases (digit : Char → Option Nat) (child : String) :
    (∃ entry, registerOf digit child = some (some entry) ∧ isWellFormed digit child = true ∧ Shows digit child entry) ∨
      (registerOf digit child = some none ∧ isWellFormed digit child = false ∧
        ¬ ((splitBars child).length = 4 ∨ (splitBars child).length = 5)) ∨
      (registerOf digit child = none ∧ isWellFormed digit child = false ∧
        ((splitBars child).length = 4 ∨ (splitBars child).length = 5)) := by
  unfold registerOf isWellFormed Shows
  split
  · next zmsIP instanceName zmsVersion number parts =>
    rw [parts]
    cases read : parseInt digit number with
    | some n => exact .inl ⟨_, rfl, by simp [read], number, rfl, read⟩
    | none => exact .inr (.inr ⟨rfl, by simp [read], .inl rfl⟩)
  · next zmsIP instanceName zmsVersion startUpTime number parts =>
    rw [parts]
    cases read : parseInt digit number with
    | some n => exact .inl ⟨_, rfl, by simp [read], number, rfl, read⟩
    | none => exact .inr (.inr ⟨rfl, by simp [read], .inr rfl⟩)
  · next notFour notFive =>
    have other : ¬ ((splitBars child).length = 4 ∨ (splitBars child).length = 5) := by
      rintro (four | five)
      · obtain ⟨a, b, c, d, shape⟩ := List.length_eq_four.mp four
        exact notFour a b c d shape
      · obtain ⟨a, rest, shape⟩ := List.exists_cons_of_length_eq_add_one five
        rw [shape, List.length_cons] at five
        obtain ⟨b, c, d, e, same⟩ := List.length_eq_four.mp (Nat.succ.inj five)
        exact notFive a b c d e (shape.trans (congrArg _ same))
    refine .inr (.inl ⟨rfl, ?_, other⟩)
    rw [not_or] at other
    simp [other]

theorem mapM_cons_registerOf (digit : Char → Option Nat) (child : String) (rest : List String) :
    ((child :: rest).mapM (registerOf digit)).map List.reduceOption =
      (registerOf digit child).bind fun own =>
        ((rest.mapM (registerOf digit)).map List.reduceOption).map (own.toList ++ ·) := by
  rw [List.mapM_cons]
  cases registerOf digit child with
  | none => rfl
  | some own =>
    cases rest.mapM (registerOf digit) with
    | none => rfl
    | some others => cases own <;> rfl

theorem mapM_registerOf (digit : Char → Option Nat) (children : List String) :
    (∃ entries, (children.mapM (registerOf digit)).map List.reduceOption = some entries ∧
        List.Forall₂ (Shows digit) (children.filter (isWellFormed digit)) entries) ↔
      ∀ child ∈ children, (splitBars child).length = 4 ∨ (splitBars child).length = 5 →
        isWellFormed digit child = true := by
  induction children with
  | nil => exact ⟨fun _ => by simp, fun _ => ⟨[], rfl, .nil⟩⟩
  | cons child rest ih =>
    rw [List.forall_mem_cons, ← ih, mapM_cons_registerOf]
    obtain ⟨entry, is, well, shows⟩ | ⟨is, ill, other⟩ | ⟨is, ill, several⟩ := registerOf_cases digit child
    · rw [is, List.filter_cons_of_pos well, Option.bind_some]
      constructor
      · rintro ⟨entries, listed, all⟩
        obtain ⟨others, areOthers, rfl⟩ := Option.map_eq_some_iff.mp listed
        exact ⟨fun _ => well, others, areOthers, (List.forall₂_cons.mp all).2⟩
      · rintro ⟨-, others, areOthers, all⟩
        exact ⟨entry :: others, by rw [areOthers]; rfl, .cons shows all⟩
    · rw [is, List.filter_cons_of_neg (by simp [ill]), Option.bind_some]
      constructor
      · rintro ⟨entries, listed, all⟩
        obtain ⟨others, areOthers, rfl⟩ := Option.map_eq_some_iff.mp listed
        exact ⟨fun several => absurd several other, others, areOthers, all⟩
      · rintro ⟨-, others, areOthers, all⟩
        exact ⟨others, by rw [areOthers]; rfl, all⟩
    · rw [is]
      constructor
      · rintro ⟨entries, listed, -⟩
        cases listed
      · rintro ⟨well, -⟩
        exact absurd (well several) (by simp [ill])

end Listing

section Claims
variable {allowed : Char → Bool}

/-- A registration makes one child of the group's node, and the portal shows it as it is. -/
def Decodes (digit : Char → Option Nat) (fold : Char → Char) (tree : ZkTree allowed) (group : String)
    (r : Registration) : Prop :=
  ∃ tree' child, registerName fold tree group r = some tree' ∧
    tree'.getChildren (consumerGroupPath group) = tree.getChildren (consumerGroupPath group) ++ [child] ∧
    registerOf digit child = some (some ⟨r.zmsIp, r.instanceName, r.zmsVersion, some r.now.text, r.random.val⟩)

/-- The portal shows the well-formed children of the group's node. -/
def Lists (digit : Char → Option Nat) (tree : ZkTree allowed) (group : String) : Prop :=
  ∃ entries, consumerZmsRegister digit tree group = some entries ∧
    List.Forall₂ (Shows digit) ((tree.getChildren (consumerGroupPath group)).filter (isWellFormed digit)) entries

/-- The texts that a client chooses have neither slashes nor characters that ZooKeeper does not
take. -/
def Clean (allowed : Char → Bool) (r : Registration) : Prop :=
  ∀ text ∈ [r.zmsIp, r.instanceName, r.zmsVersion], ∀ c ∈ text.toList, c ≠ '/' ∧ allowed c = true

theorem clean_iff (printable : ∀ c : Char, 32 ≤ c.toNat → c.toNat < 127 → c ≠ '/' → allowed c = true)
    (r : Registration) : Clean allowed r ↔ ∀ c ∈ r.nodeName.toList, c ≠ '/' ∧ allowed c = true := by
  have bar : '|' ≠ '/' ∧ allowed '|' = true := ⟨by decide, printable '|' (by decide) (by decide) (by decide)⟩
  have printed : ∀ {c}, Printed c → c ≠ '/' ∧ allowed c = true := fun {c} is =>
    ⟨is.spec.2.1, printable c is.spec.2.2.1 is.spec.2.2.2 is.spec.2.1⟩
  have time : ∀ c ∈ r.now.text.toList, c ≠ '/' ∧ allowed c = true := fun c member => printed (printed_text member)
  have number : ∀ c ∈ (toString r.random.val).toList, c ≠ '/' ∧ allowed c = true :=
    fun c member => printed (printed_toString member)
  rw [toList_nodeName]
  simp only [Clean, List.forall_mem_cons, List.forall_mem_append]
  constructor
  · rintro ⟨zmsIp, instanceName, zmsVersion, -⟩
    exact ⟨zmsIp, bar, bar, instanceName, bar, bar, zmsVersion, bar, bar, time, bar, bar, number⟩
  · rintro ⟨zmsIp, -, -, instanceName, -, -, zmsVersion, -⟩
    exact ⟨zmsIp, instanceName, zmsVersion, by simp⟩

/-- What a client registers is shown as it is exactly when no text has the separator twice in
a row or one half of it at its end, a slash or a character that ZooKeeper does not take, and
the name is new; and all is shown that is well formed exactly when no child of four or five
parts has another last part than an integer. -/
theorem shows_registered (digit : Char → Option Nat) (decimal : Decimal digit) (fold : Char → Char)
    (printable : ∀ c : Char, 32 ≤ c.toNat → c.toNat < 127 → c ≠ '/' → allowed c = true) (tree : ZkTree allowed)
    (group : String) (inTree : tree.exists (consumerGroupPath group) = true) :
    (isStatistic fold group = false → ∀ r : Registration, Decodes digit fold tree group r ↔
        Apart r ∧ Clean allowed r ∧ r.nodeName ∉ tree.getChildren (consumerGroupPath group)) ∧
      (Lists digit tree group ↔ ∀ child ∈ tree.getChildren (consumerGroupPath group),
        (splitBars child).length = 4 ∨ (splitBars child).length = 5 →
          ((splitBars child).getLast?.bind (parseInt digit)).isSome = true) := by
  constructor
  · intro noStatistic r
    have long : 2 < r.nodeName.toList.length := by
      rw [toList_nodeName]
      simp
      omega
    rw [clean_iff printable, ← registerOf_nodeName_iff decimal]
    constructor
    · rintro ⟨tree', child, registered, grown, shown⟩
      rw [registerName, noStatistic, if_neg Bool.false_ne_true] at registered
      obtain ⟨clean, fresh, rfl⟩ := (creates_child_iff inTree long).mp ⟨tree', registered, grown⟩
      exact ⟨shown, clean, fresh⟩
    · rintro ⟨shown, clean, fresh⟩
      obtain ⟨tree', registered, grown⟩ := (creates_child_iff inTree long).mpr ⟨clean, fresh, rfl⟩
      refine ⟨tree', r.nodeName, ?_, grown, shown⟩
      rw [registerName, noStatistic, if_neg Bool.false_ne_true, registered]
  · unfold Lists consumerZmsRegister
    simp only [inTree, if_true]
    rw [mapM_registerOf]
    apply forall₂_congr
    intro child _
    constructor
    · intro well several
      have is := well several
      rw [isWellFormed, Bool.and_eq_true] at is
      exact is.2
    · intro well several
      rw [isWellFormed, Bool.and_eq_true]
      exact ⟨by simpa using several, well several⟩

/-! A group with one consumer. -/

def ascii (c : Char) : Bool := 32 ≤ c.toNat && c.toNat < 127

def asciiDigit (c : Char) : Option Nat := if c.isDigit then some (c.toNat - '0'.toNat) else none

def orders : ZkTree ascii where
  nodes := [["", "zms", "consumergroup", "orders"]]
  valid := by decide +kernel

def started : LocalDateTime := ⟨2020, 3, 4, 10, 15, 30, 120000000⟩

theorem orders_shown : Decodes asciiDigit id orders "orders" ⟨"10.0.0.1", "orders-1", "1.0.0", started, 7⟩ :=
  ((shows_registered asciiDigit (fun c is => if_pos is) id
    (fun c low high _ => by simp [ascii, low, high]) orders "orders" (by decide +kernel)).1 (by decide +kernel) _).mpr
    ⟨by decide +kernel, by simp [Clean, ascii], by decide +kernel⟩

/-- A name with the separator makes a child that the portal takes for none. -/
theorem bars_not_shown : ¬ ∀ r : Registration, Decodes asciiDigit id orders "orders" r := by
  intro always
  obtain ⟨tree', child, registered, grown, shown⟩ := always ⟨"10.0.0.1", "a||b", "1.0.0", started, 7⟩
  have noStatistic : isStatistic id "orders" = false := by decide +kernel
  rw [registerName, noStatistic, if_neg Bool.false_ne_true] at registered
  obtain ⟨-, -, rfl⟩ := (creates_child_iff (by decide +kernel) (by decide +kernel)).mp ⟨tree', registered, grown⟩
  have isNone : registerOf asciiDigit (Registration.nodeName ⟨"10.0.0.1", "a||b", "1.0.0", started, 7⟩) =
      some none := by decide +kernel
  cases isNone.symm.trans shown

end Claims

end Zms.Portal.RegisteredNames
