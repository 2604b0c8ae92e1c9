import Mathlib
import Zms.Text.PropertiesRoundTrip

/-! A text with every entry on a line of its own, whatever the keys are. As much comes back
as was written only if nothing of it is read as syntax. -/

set_option autoImplicit false

namespace Zms.Text.Properties

/-- Every entry with a line feed behind it. -/
def printLines (entries : List (String × String)) : List Char := entries.flatMap fun entry => lineOf entry ++ ['\n']

def isComment (c : Char) : Bool := c = '#' || c = '!'

/-- A key that is read as it is written. -/
def Bare (key : String) : Prop :=
  (∀ c ∈ key.toList,
      c.toNat < 128 ∧ c ≠ '\\' ∧ isTerminator c = false ∧ isSeparator c = false ∧ isWhite c = false) ∧
    ∀ c ∈ key.toList.head?, isComment c = false

/-- The entries of a text are a table: of a key the last one counts. -/
def ReadsBack (text : List Char) (entries : List (String × String)) : Prop :=
  ∃ loaded, load text = some loaded ∧ ∀ key value, getProperty loaded key = some value ↔ (key, value) ∈ entries

section Lines

/-- The logical line that a line makes by itself, if any. -/
def ownLine (line : List Char) : List (List Char) :=
  match line.dropWhile isWhite with
  | [] => []
  | c :: more => if isComment c then [] else [c :: more]

theorem length_ownLine (line : List Char) : (ownLine line).length ≤ 1 := by
  unfold ownLine
  split
  · exact Nat.zero_le _
  · split
    · exact Nat.zero_le _
    · exact Nat.le_refl _

theorem logicalLines_comment {line : List Char} (one : OneLine line) (rest : List Char) :
    logicalLines .comment [] (line ++ '\n' :: rest) = logicalLines .start [] rest := by
  induction line with
  | nil => rfl
  | cons c line ih =>
    have inside := (one c List.mem_cons_self).2
    rw [List.cons_append, logicalLines, if_neg (by simp [inside])]
    exact ih fun d member => one d (List.mem_cons_of_mem _ member)

theorem logicalLines_own {line : List Char} (one : OneLine line) (rest : List Char) :
    logicalLines .start [] (line ++ '\n' :: rest) = ownLine line ++ logicalLines .start [] rest := by
  induction line with
  | nil => rfl
  | cons c line ih =>
    obtain ⟨notBackslash, inside⟩ := one c List.mem_cons_self
    have oneRest : OneLine line := fun d member => one d (List.mem_cons_of_mem _ member)
    rw [List.cons_append, logicalLines, inside, Bool.or_false]
    by_cases white : isWhite c = true
    · rw [if_pos white, ih oneRest, ownLine, ownLine, List.dropWhile_cons_of_pos white]
    · rw [if_neg white, ownLine, List.dropWhile_cons_of_neg white]
      change (if isComment c then _ else _) = (if isComment c then _ else _) ++ _
      by_cases comment : isComment c = true
      · rw [if_pos comment, if_pos comment]
        exact logicalLines_comment oneRest rest
      · have emitted : emit (line.reverse ++ [c]) = [c :: line] := by simp [emit]
        rw [if_neg comment, if_neg comment, decide_eq_false notBackslash, (logicalLines_oneLine oneRest [c] rest).1,
          emitted]

theorem logicalLines_printLines {entries : List (String × String)}
    (one : ∀ entry ∈ entries, OneLine (lineOf entry)) :
    logicalLines .start [] (printLines entries) = entries.flatMap fun entry => ownLine (lineOf entry) := by
  induction entries with
  | nil => rfl
  | cons entry rest ih =>
    have tail := ih fun other member => one other (List.mem_cons_of_mem _ member)
    rw [List.flatMap_cons, ← tail, ← logicalLines_own (one entry List.mem_cons_self)]
    simp [printLines]

end Lines

section Reading

/-- What a line without backslashes is read as. -/
def readLine (line : List Char) : String × String :=
  (String.ofList (splitKey false line).1, String.ofList (valueOf (splitKey false line).2))

theorem valueOf_sublist (rest : List Char) : (valueOf rest).Sublist rest := by
  have dropped := List.dropWhile_sublist isWhite (l := rest)
  unfold valueOf
  split
  · exact List.nil_sublist _
  · next c more same =>
    rw [same] at dropped
    split
    · exact ((List.dropWhile_sublist isWhite).trans (List.sublist_cons_self c more)).trans dropped
    · exact dropped

theorem entryOf_eq_readLine {line : List Char} (latin : ∀ c ∈ line, c.toNat < 256) (plain : '\\' ∉ line) :
    entryOf line = some (readLine line) := by
  have whole := splitKey_append false line
  have inKey : ∀ c ∈ (splitKey false line).1, c ∈ line := by
    intro c member
    rw [← whole]
    exact List.mem_append_left _ member
  have inValue : ∀ c ∈ valueOf (splitKey false line).2, c ∈ line := by
    intro c member
    rw [← whole]
    exact List.mem_append_right _ ((valueOf_sublist _).mem member)
  have key := convert_of_not (fun c member => latin c (inKey c member)) fun member => plain (inKey _ member)
  have value := convert_of_not (fun c member => latin c (inValue c member)) fun member => plain (inValue _ member)
  simp only [entryOf, key, value]
  rfl

/-- A key that ends at `=` has nothing of the syntax, and the value follows. -/
structure ReadsExactly (line : List Char) (entry : String × String) : Prop where
  shape : line = entry.1.toList ++ '=' :: entry.2.toList
  key : ∀ c ∈ entry.1.toList, isSeparator c = false ∧ isWhite c = false
  starts : ∀ c ∈ line.head?, isWhite c = false ∧ isComment c = false
  value : ∀ c ∈ entry.2.toList.head?, isWhite c = false

theorem splitKey_spec {line : List Char} (plain : '\\' ∉ line) :
    (∀ c ∈ (splitKey false line).1, isSeparator c = false ∧ isWhite c = false) ∧
      ∀ c ∈ (splitKey false line).2.head?, (isSeparator c || isWhite c) = true := by
  induction line with
  | nil => exact ⟨by simp [splitKey], by simp [splitKey]⟩
  | cons c rest ih =>
    have notBackslash : c ≠ '\\' := fun same => plain (same ▸ List.mem_cons_self)
    obtain ⟨inKey, after⟩ := ih fun member => plain (List.mem_cons_of_mem _ member)
    by_cases ends : (isSeparator c || isWhite c) = true
    · simp only [splitKey, ends, Bool.not_false, Bool.and_true, if_true]
      exact ⟨by simp, by simpa using ends⟩
    · simp only [splitKey, ends, notBackslash, Bool.not_false, Bool.and_true, decide_false, Bool.false_eq_true,
        if_false]
      refine ⟨?_, after⟩
      intro d member
      rcases List.mem_cons.mp member with rfl | later
      · simpa using ends
      · exact inKey d later

theorem counted_of_isWhite {c : Char} (is : isWhite c = true) : counted c.toNat = true := by
  simp only [isWhite, Bool.or_eq_true, decide_eq_true_eq] at is
  rcases is with (rfl | rfl) | rfl <;> rfl

theorem dropWhile_of_weight {text : List Char} (kept : weight text ≤ weight (text.dropWhile isWhite)) :
    ∀ c ∈ text.head?, isWhite c = false := by
  cases text with
  | nil => simp
  | cons c rest =>
    rw [List.head?_cons]
    rintro d ⟨⟩
    by_contra white
    have is : isWhite c = true := by simpa using white
    have less := weight_dropWhile isWhite rest
    rw [List.dropWhile_cons_of_pos is, weight_cons, counted_of_isWhite is, if_pos rfl] at kept
    omega

theorem weight_readLine (text : List Char) : entryWeight (readLine text) ≤ weight text := by
  have whole := congrArg weight (splitKey_append false text)
  have value := weight_valueOf (splitKey false text).2
  rw [weight_append] at whole
  simp only [entryWeight, readLine, String.toList_ofList]
  omega

theorem readsExactly_of_weight {line : List Char} (plain : '\\' ∉ line) (separator : '=' ∈ line)
    (own : ownLine line ≠ [])
    (kept : weight line ≤ entryWeight (readLine (line.dropWhile isWhite))) :
    ReadsExactly line (readLine line) := by
  have startsKept := kept.trans (weight_readLine _)
  have notWhite := dropWhile_of_weight startsKept
  have dropped := dropWhile_head notWhite
  rw [dropped] at kept
  have starts : ∀ c ∈ line.head?, isWhite c = false ∧ isComment c = false := by
    intro c isHead
    refine ⟨notWhite c isHead, ?_⟩
    unfold ownLine at own
    rw [dropped] at own
    cases line with
    | nil => cases isHead
    | cons d rest =>
      cases isHead
      by_contra comment
      exact own (if_pos (by simpa using comment))
  obtain ⟨inKey, after⟩ := splitKey_spec plain
  have whole := splitKey_append false line
  have weights := congrArg weight whole
  rw [weight_append] at weights
  simp only [entryWeight, readLine, String.toList_ofList] at kept
  cases rest : (splitKey false line).2 with
  | nil =>
    rw [rest, List.append_nil] at whole
    rw [← whole] at separator
    exact absurd (inKey _ separator).1 (by decide)
  | cons c more =>
    rw [rest] at whole after weights kept
    have valueKept : weight (c :: more) ≤ weight (valueOf (c :: more)) := by omega
    have notWhiteSeparator : isWhite c = false := by
      by_contra white
      have is : isWhite c = true := by simpa using white
      have lost : weight (valueOf (c :: more)) ≤ weight more := by
        unfold valueOf
        rw [List.dropWhile_cons_of_pos is]
        exact weight_valueOf more
      rw [weight_cons, counted_of_isWhite is, if_pos rfl] at valueKept
      omega
    have isSep : isSeparator c = true := by simpa [notWhiteSeparator] using after c rfl
    have value : valueOf (c :: more) = more.dropWhile isWhite := by
      rw [valueOf, List.dropWhile_cons_of_neg (by simp [notWhiteSeparator])]
      exact if_pos isSep
    rw [value, weight_cons] at valueKept
    have lessMore := weight_dropWhile isWhite more
    have isEquals : c = '=' := by
      simp only [isSeparator, Bool.or_eq_true, decide_eq_true_eq] at isSep
      rcases isSep with rfl | rfl
      · rfl
      · have colon : counted ':'.toNat = true := rfl
        rw [colon, if_pos rfl] at valueKept
        omega
    subst isEquals
    have moreHead : ∀ c ∈ more.head?, isWhite c = false := dropWhile_of_weight (by omega)
    have valueIs : valueOf ('=' :: more) = more := value.trans (dropWhile_head moreHead)
    refine ⟨?_, ?_, starts, ?_⟩ <;> simp only [readLine, String.toList_ofList, rest, valueIs]
    · exact whole.symm
    · exact inKey
    · exact moreHead

end Reading

section Sufficiency

theorem oneLine_of_bare {entry : String × String} (bare : Bare entry.1) (plain : Plain entry.2) :
    lineOf entry = entry.1.toList ++ '=' :: entry.2.toList ∧ OneLine (lineOf entry) := by
  have shape : lineOf entry = entry.1.toList ++ '=' :: entry.2.toList := by
    rw [lineOf, bytesOf_ascii fun c member => (bare.1 c member).1, bytesOf_ascii fun c member => (plain.1 c member).1]
  refine ⟨shape, ?_⟩
  rw [shape]
  intro c member
  rcases List.mem_append.mp member with inKey | later
  · exact ⟨(bare.1 c inKey).2.1, (bare.1 c inKey).2.2.1⟩
  · rcases List.mem_cons.mp later with rfl | inValue
    · exact ⟨by decide, rfl⟩
    · exact (plain.1 c inValue).2

theorem ownLine_of_bare {entry : String × String} (bare : Bare entry.1) (plain : Plain entry.2) :
    ownLine (lineOf entry) = [lineOf entry] := by
  rw [(oneLine_of_bare bare plain).1]
  obtain ⟨inside, starts⟩ := bare
  cases chars : entry.1.toList with
  | nil => rfl
  | cons c rest =>
    rw [chars] at inside starts
    have white := (inside c List.mem_cons_self).2.2.2.2
    have comment := starts c rfl
    rw [List.cons_append, ownLine, List.dropWhile_cons_of_neg (by simp [white])]
    exact if_neg (by simp [comment])

theorem splitKey_bare {key : List Char}
    (inside : ∀ c ∈ key, c ≠ '\\' ∧ isSeparator c = false ∧ isWhite c = false)
    (rest : List Char) : splitKey false (key ++ '=' :: rest) = (key, '=' :: rest) := by
  induction key with
  | nil => rfl
  | cons c key ih =>
    obtain ⟨notBackslash, notSeparator, notWhite⟩ := inside c List.mem_cons_self
    have tail := ih fun d member => inside d (List.mem_cons_of_mem _ member)
    simp only [List.cons_append, splitKey, notSeparator, notWhite, notBackslash, Bool.or_self, Bool.false_and,
      Bool.false_eq_true, if_false, decide_false, tail]

theorem readLine_of_bare {entry : String × String} (bare : Bare entry.1) (plain : Plain entry.2) :
    readLine (lineOf entry) = entry := by
  have inside : ∀ c ∈ entry.1.toList, c ≠ '\\' ∧ isSeparator c = false ∧ isWhite c = false := fun c member =>
    ⟨(bare.1 c member).2.1, (bare.1 c member).2.2.2.1, (bare.1 c member).2.2.2.2⟩
  have split := splitKey_bare inside entry.2.toList
  have value : valueOf ('=' :: entry.2.toList) = entry.2.toList := dropWhile_head plain.2
  rw [readLine, (oneLine_of_bare bare plain).1, split]
  simp only [value, String.ofList_toList]

theorem latin_lineOf (entry : String × String) : ∀ c ∈ lineOf entry, c.toNat < 256 := by
  intro c member
  rcases List.mem_append.mp member with inKey | later
  · exact toNat_lt_of_mem_bytesOf inKey
  · rcases List.mem_cons.mp later with rfl | inValue
    · decide
    · exact toNat_lt_of_mem_bytesOf inValue

theorem mapM_entryOf {lines : List (List Char)}
    (clean : ∀ line ∈ lines, (∀ c ∈ line, c.toNat < 256) ∧ '\\' ∉ line) :
    lines.mapM entryOf = some (lines.map readLine) := by
  induction lines with
  | nil => rfl
  | cons line rest ih =>
    obtain ⟨latin, plain⟩ := clean line List.mem_cons_self
    have tail := ih fun other member => clean other (List.mem_cons_of_mem _ member)
    rw [List.mapM_cons, entryOf_eq_readLine latin plain, tail]
    rfl

theorem load_printLines {entries : List (String × String)} (bare : ∀ entry ∈ entries, Bare entry.1)
    (plain : ∀ entry ∈ entries, Plain entry.2) : load (printLines entries) = some entries := by
  have one := fun entry member => (oneLine_of_bare (bare entry member) (plain entry member)).2
  have lines : (entries.flatMap fun entry => ownLine (lineOf entry)) = entries.map lineOf := by
    rw [List.map_eq_flatMap]
    exact List.flatMap_congr fun entry member => ownLine_of_bare (bare entry member) (plain entry member)
  rw [load, logicalLines_printLines one, lines, mapM_entryOf, List.map_map]
  · congr 1
    conv_rhs => rw [← List.map_id entries]
    exact List.map_congr_left fun entry member => readLine_of_bare (bare entry member) (plain entry member)
  · intro line member
    obtain ⟨entry, inEntries, rfl⟩ := List.mem_map.mp member
    exact ⟨latin_lineOf entry, fun backslash => (one entry inEntries _ backslash).1 rfl⟩

end Sufficiency

section Necessity

/-- Where sums of two functions agree, and one is bounded by the other, they are the same. -/
theorem eq_of_sum_map {α : Type} {xs : List α} {f g : α → Nat} (le : ∀ x ∈ xs, f x ≤ g x)
    (sums : (xs.map g).sum ≤ (xs.map f).sum) : ∀ x ∈ xs, f x = g x := by
  induction xs with
  | nil => simp
  | cons x xs ih =>
    have first := le x List.mem_cons_self
    have rest : (xs.map f).sum ≤ (xs.map g).sum :=
      List.sum_le_sum fun y member => le y (List.mem_cons_of_mem _ member)
    simp only [List.map_cons, List.sum_cons] at sums
    intro y member
    rcases List.mem_cons.mp member with rfl | later
    · omega
    · exact ih (fun z inside => le z (List.mem_cons_of_mem _ inside)) (by omega) y later

theorem countP_printLines (p : Char → Bool) (feed : p '\n' = true) (entries : List (String × String)) :
    (printLines entries).countP p = (entries.map fun entry => (lineOf entry).countP p).sum + entries.length := by
  induction entries with
  | nil => rfl
  | cons entry rest ih =>
    have printed : printLines (entry :: rest) = lineOf entry ++ ['\n'] ++ printLines rest := rfl
    rw [printed, List.countP_append, List.countP_append, ih, List.countP_singleton, feed, List.map_cons,
      List.sum_cons, List.length_cons]
    simp only [if_true]
    omega

/-- A text that has to give all of its entries has nothing to spare for other terminators
and for backslashes. -/
theorem oneLine_of_readsBack {entries loaded : List (String × String)} (distinct : (entries.map Prod.fst).Nodup)
    (loads : load (printLines entries) = some loaded) (subset : entries ⊆ loaded) :
    ∀ entry ∈ entries, OneLine (lineOf entry) := by
  have needed := sum_entryWeight_le distinct subset
  obtain ⟨kept, lost⟩ : (loaded.map entryWeight).sum + (printLines entries).countP isTerminator ≤
        weight (printLines entries) ∧
      ('\\' ∈ printLines entries →
        (loaded.map entryWeight).sum + (printLines entries).countP isTerminator < weight (printLines entries)) :=
    weight_load loads
  have whole : weight (printLines entries) = (entries.map entryWeight).sum + entries.length := by
    rw [weight, countP_printLines _ rfl]
    congr 2
    exact List.map_congr_left fun entry _ => weight_lineOf entry
  have terminators := countP_printLines isTerminator rfl entries
  intro entry member c inLine
  constructor
  · rintro rfl
    have less := lost (List.mem_flatMap.mpr ⟨entry, member, List.mem_append_left _ inLine⟩)
    omega
  · have none : (entries.map fun entry => (lineOf entry).countP isTerminator).sum = 0 := by omega
    have own := List.sum_eq_zero_iff.mp none _ (List.mem_map_of_mem member)
    exact Bool.eq_false_iff.mpr (List.countP_eq_zero.mp own c inLine)

theorem perm_of_readsBack {entries loaded : List (String × String)} (distinct : (entries.map Prod.fst).Nodup)
    (loads : load (printLines entries) = some loaded) (subset : entries ⊆ loaded) :
    (∀ entry ∈ entries, ownLine (lineOf entry) ≠ []) ∧
      (entries.map fun entry => readLine ((lineOf entry).dropWhile isWhite)).Perm entries := by
  have one := oneLine_of_readsBack distinct loads subset
  have ownSublist : ∀ line, ∀ own ∈ ownLine line, own.Sublist line := by
    intro line own member
    have dropped := List.dropWhile_sublist isWhite (l := line)
    unfold ownLine at member
    split at member
    · cases member
    · next c more same =>
      split at member
      · cases member
      · rw [List.mem_singleton.mp member, ← same]
        exact dropped
  rw [load, logicalLines_printLines one, mapM_entryOf] at loads
  · obtain rfl := Option.some.inj loads
    have lengths : (entries.flatMap fun entry => ownLine (lineOf entry)).length =
        (entries.map fun entry => (ownLine (lineOf entry)).length).sum := List.length_flatMap
    have atMost : (entries.map fun entry => (ownLine (lineOf entry)).length).sum ≤ (entries.map fun _ => 1).sum :=
      List.sum_le_sum fun entry _ => length_ownLine (lineOf entry)
    have count : (entries.map fun _ : String × String => 1).sum = entries.length := by simp
    have subperm := List.subperm_of_subset distinct.of_map subset
    have perm := subperm.perm_of_length_le (by rw [List.length_map]; omega)
    have all := perm.length_eq
    rw [List.length_map] at all
    have each : ∀ entry ∈ entries, (ownLine (lineOf entry)).length = 1 :=
      eq_of_sum_map (fun entry _ => length_ownLine (lineOf entry)) (by omega)
    refine ⟨fun entry member none => ?_, ?_⟩
    · have := each entry member
      rw [none] at this
      cases this
    · have lines : (entries.flatMap fun entry => ownLine (lineOf entry)) =
          entries.map fun entry => (lineOf entry).dropWhile isWhite := by
        rw [List.map_eq_flatMap]
        apply List.flatMap_congr
        intro entry member
        have length := each entry member
        unfold ownLine at length ⊢
        split at length
        · cases length
        · next c more same =>
          split at length
          · cases length
          · next comment =>
            rw [if_neg comment, same]
      rw [lines, List.map_map] at perm
      exact perm.symm
  · intro line member
    obtain ⟨entry, inEntries, own⟩ := List.mem_flatMap.mp member
    have sublist := ownSublist _ _ own
    exact ⟨fun c inside => latin_lineOf entry c (sublist.mem inside),
      fun backslash => (one entry inEntries _ (sublist.mem backslash)).1 rfl⟩

theorem length_le_of_split {c : Char} {front key : List Char} {back value : List Char} (free : c ∉ key)
    (same : front ++ c :: back = key ++ c :: value) : key.length ≤ front.length := by
  by_contra longer
  obtain ⟨more, rfl, split⟩ | ⟨more, rfl, split⟩ := List.append_eq_append_iff.mp same
  · cases more with
    | nil => simp at longer
    | cons d more =>
      obtain ⟨rfl, -⟩ := List.cons.inj split
      exact free (List.mem_append_right _ List.mem_cons_self)
  · rw [List.length_append] at longer
    omega

theorem length_bytesOf (text : String) : text.toList.length ≤ (bytesOf text).length := by
  unfold bytesOf
  induction text.toList with
  | nil => exact Nat.le_refl 0
  | cons c rest ih =>
    rw [List.flatMap_cons, List.length_append, List.length_cons]
    by_cases ascii : c.toNat < 128
    · rw [bytesOfChar_ascii ascii, List.length_singleton]
      omega
    · have long := (bytesOfChar_other (c := c) (by omega)).1
      omega

def size (entry : String × String) : Nat := entry.1.toList.length + entry.2.toList.length

theorem length_lineOf (entry : String × String) :
    (lineOf entry).length = (bytesOf entry.1).length + (bytesOf entry.2).length + 1 := by
  rw [lineOf, List.length_append, List.length_cons, Nat.add_assoc]

theorem bare_of_perm {entries : List (String × String)} (one : ∀ entry ∈ entries, OneLine (lineOf entry))
    (own : ∀ entry ∈ entries, ownLine (lineOf entry) ≠ [])
    (perm : (entries.map fun entry => readLine ((lineOf entry).dropWhile isWhite)).Perm entries) :
    ∀ entry ∈ entries, Bare entry.1 ∧ Plain entry.2 := by
  have sums : ∀ m : String × String → Nat,
      (entries.map fun entry => m (readLine ((lineOf entry).dropWhile isWhite))).sum = (entries.map m).sum := by
    intro m
    have same := (perm.map m).sum_nat
    rwa [List.map_map] at same
  -- nothing that is counted is left out, so each line is split at its first `=` alone
  have readWeight : ∀ line, entryWeight (readLine (line.dropWhile isWhite)) ≤ weight line := fun line =>
    (weight_readLine _).trans (weight_dropWhile isWhite line)
  have weights : ∀ entry ∈ entries, entryWeight (readLine ((lineOf entry).dropWhile isWhite)) = entryWeight entry :=
    eq_of_sum_map (fun entry _ => (readWeight (lineOf entry)).trans_eq (weight_lineOf entry)) (sums _).ge
  have exact : ∀ entry ∈ entries, ReadsExactly (lineOf entry) (readLine (lineOf entry)) ∧
      (lineOf entry).dropWhile isWhite = lineOf entry := by
    intro entry member
    have kept : weight (lineOf entry) ≤ entryWeight (readLine ((lineOf entry).dropWhile isWhite)) := by
      rw [weights entry member, weight_lineOf, entryWeight]
    have reads := readsExactly_of_weight (fun backslash => (one entry member _ backslash).1 rfl)
      (List.mem_append_right _ List.mem_cons_self) (own entry member) kept
    exact ⟨reads, dropWhile_head fun c isHead => (reads.starts c isHead).1⟩
  have sumsExact : ∀ m : String × String → Nat,
      (entries.map fun entry => m (readLine (lineOf entry))).sum = (entries.map m).sum := by
    intro m
    rw [← sums m]
    congr 1
    exact List.map_congr_left fun entry member => by rw [(exact entry member).2]
  -- no character has become several
  have longer : ∀ entry ∈ entries, size entry + 1 ≤ (lineOf entry).length ∧
      size (readLine (lineOf entry)) + 1 = (lineOf entry).length := by
    intro entry member
    have key := length_bytesOf entry.1
    have value := length_bytesOf entry.2
    have shape := congrArg List.length (exact entry member).1.shape
    have length := length_lineOf entry
    rw [List.length_append, List.length_cons] at shape
    simp only [size]
    omega
  have sizes := eq_of_sum_map (fun entry member => by have := longer entry member; omega) (sumsExact size).le
  have ascii : ∀ entry ∈ entries, bytesOf entry.1 = entry.1.toList ∧ bytesOf entry.2 = entry.2.toList ∧
      (∀ c ∈ entry.1.toList, c.toNat < 128) ∧ ∀ c ∈ entry.2.toList, c.toNat < 128 := by
    intro entry member
    have same := sizes entry member
    obtain ⟨-, long⟩ := longer entry member
    have key := length_bytesOf entry.1
    have value := length_bytesOf entry.2
    rw [length_lineOf] at long
    simp only [size] at same long
    have keyAscii := @ascii_of_length entry.1 (by omega)
    have valueAscii := @ascii_of_length entry.2 (by omega)
    exact ⟨bytesOf_ascii keyAscii, bytesOf_ascii valueAscii, keyAscii, valueAscii⟩
  have shapes : ∀ entry ∈ entries, lineOf entry = entry.1.toList ++ '=' :: entry.2.toList := by
    intro entry member
    obtain ⟨key, value, -, -⟩ := ascii entry member
    rw [lineOf, key, value]
  -- so no key is read as a shorter one
  have keys := eq_of_sum_map (f := fun entry => (readLine (lineOf entry)).1.toList.length)
    (g := fun entry => entry.1.toList.length) (fun entry member => by
      obtain ⟨shape, key, -, -⟩ := (exact entry member).1
      have free : '=' ∉ (readLine (lineOf entry)).1.toList := fun inside => absurd (key _ inside).1 (by decide)
      exact length_le_of_split free ((shapes entry member).symm.trans shape))
    (sumsExact fun entry => entry.1.toList.length).ge
  intro entry member
  obtain ⟨shape, key, starts, value⟩ := (exact entry member).1
  obtain ⟨-, -, keyAscii, valueAscii⟩ := ascii entry member
  have isShape := shapes entry member
  obtain ⟨sameKey, rest⟩ := List.append_inj (shape.symm.trans isShape) (keys entry member)
  obtain ⟨-, sameValue⟩ := List.cons.inj rest
  rw [sameKey] at key
  rw [sameValue] at value
  have inLine := one entry member
  rw [isShape] at inLine starts
  refine ⟨⟨fun c inside => ?_, fun c isHead => ?_⟩, fun c inside => ?_, value⟩
  · obtain ⟨notBackslash, notTerminator⟩ := inLine c (List.mem_append_left _ inside)
    exact ⟨keyAscii c inside, notBackslash, notTerminator, key c inside⟩
  · apply (starts c _).2
    cases chars : entry.1.toList with
    | nil => rw [chars] at isHead; cases isHead
    | cons d more => rwa [chars] at isHead
  · exact ⟨valueAscii c inside, inLine c (List.mem_append_right _ (List.mem_cons_of_mem _ inside))⟩

/-- A text of lines gives its entries back exactly when none of them has anything of the
syntax. -/
theorem readsBack_printLines_iff {entries : List (String × String)} (distinct : (entries.map Prod.fst).Nodup) :
    ReadsBack (printLines entries) entries ↔ ∀ entry ∈ entries, Bare entry.1 ∧ Plain entry.2 := by
  constructor
  · rintro ⟨loaded, loads, back⟩
    have subset : entries ⊆ loaded := fun entry member => mem_of_getProperty ((back entry.1 entry.2).mpr member)
    obtain ⟨own, perm⟩ := perm_of_readsBack distinct loads subset
    exact bare_of_perm (oneLine_of_readsBack distinct loads subset) own perm
  · intro each
    refine ⟨entries, load_printLines (fun entry member => (each entry member).1) (fun entry member =>
      (each entry member).2), fun key value => getProperty_eq_some_iff distinct⟩

end Necessity

end Zms.Text.Properties
