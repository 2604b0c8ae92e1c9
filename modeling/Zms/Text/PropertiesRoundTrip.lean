import Mathlib
import Zms.Text.PropertiesWeight
import Zms.Transition.Collecting

/-! Which entries come back from a printed text: those whose values are plain. A value with
a line terminator or a backslash cannot, since the lines of all keys together would need
every character of the text.
-/

set_option autoImplicit false

namespace Zms.Text.Properties

/-- A key that needs no escapes. -/
def Letters (key : String) : Prop := key.toList ≠ [] ∧ ∀ c ∈ key.toList, c.isAlpha = true

/-- A value that needs none: in ASCII, without backslashes and line terminators, and with no
white space at its head. -/
def Plain (value : String) : Prop :=
  (∀ c ∈ value.toList, c.toNat < 128 ∧ c ≠ '\\' ∧ isTerminator c = false) ∧
    ∀ c ∈ value.toList.head?, isWhite c = false

instance (key : String) : Decidable (Letters key) := @instDecidableAnd _ _ _ (List.decidableBAll _ _)

-- not by running over all characters
instance (value : String) : Decidable (Plain value) :=
  @instDecidableAnd _ _ (List.decidableBAll _ _) (Option.decidableForallMem _)

/-- A line that is read as it is written. -/
def OneLine (line : List Char) : Prop := ∀ c ∈ line, c ≠ '\\' ∧ isTerminator c = false

section Lines

theorem logicalLines_oneLine {line : List Char} (one : OneLine line) (before rest : List Char) :
    logicalLines (.line false) before (line ++ '\n' :: rest) =
        emit (line.reverse ++ before) ++ logicalLines .start [] rest ∧
      logicalLines (.line false) before line = emit (line.reverse ++ before) := by
  induction line generalizing before with
  | nil => exact ⟨rfl, rfl⟩
  | cons c line ih =>
    obtain ⟨notBackslash, inside⟩ := one c List.mem_cons_self
    obtain ⟨first, last⟩ := ih (fun d member => one d (List.mem_cons_of_mem _ member)) (c :: before)
    simp only [List.cons_append, logicalLines, inside, notBackslash, decide_false, Bool.false_and,
      Bool.false_eq_true, if_false, List.reverse_cons, List.append_assoc, List.nil_append]
    exact ⟨first, last⟩

theorem of_isAlpha {c : Char} (letter : c.isAlpha = true) :
    c.toNat < 128 ∧ c ≠ '\\' ∧ isWhite c = false ∧ isTerminator c = false ∧ isSeparator c = false ∧
      ¬ (c = '#' ∨ c = '!') := by
  have range : (65 ≤ c.toNat ∧ c.toNat ≤ 90) ∨ (97 ≤ c.toNat ∧ c.toNat ≤ 122) := by
    have same : c.val.toNat = c.toNat := rfl
    simp only [Char.isAlpha, Char.isUpper, Char.isLower, Bool.or_eq_true, Bool.and_eq_true, decide_eq_true_eq,
      ge_iff_le, UInt32.le_iff_toNat_le] at letter
    simpa [same] using letter
  have other : ∀ d : Char, ¬ ((65 ≤ d.toNat ∧ d.toNat ≤ 90) ∨ (97 ≤ d.toNat ∧ d.toNat ≤ 122)) → c ≠ d := by
    rintro d out rfl
    exact out range
  refine ⟨by omega, other _ (by decide), ?_, ?_, ?_, ?_⟩
  · simp [isWhite, other ' ' (by decide), other '\t' (by decide), other '\x0c' (by decide)]
  · simp [isTerminator, other '\n' (by decide), other '\r' (by decide)]
  · simp [isSeparator, other '=' (by decide), other ':' (by decide)]
  · rintro (same | same)
    · exact other '#' (by decide) same
    · exact other '!' (by decide) same

theorem letters_bytesOf {key : String} (letters : Letters key) : bytesOf key = key.toList :=
  bytesOf_ascii fun c member => (of_isAlpha (letters.2 c member)).1

theorem logicalLines_start {key : String} (letters : Letters key) {more : List Char}
    (one : OneLine (key.toList ++ more)) (rest : List Char) :
    logicalLines .start [] (key.toList ++ more ++ '\n' :: rest) =
        (key.toList ++ more) :: logicalLines .start [] rest ∧
      logicalLines .start [] (key.toList ++ more) = [key.toList ++ more] := by
  obtain ⟨nonempty, alpha⟩ := letters
  cases chars : key.toList with
  | nil => exact absurd chars nonempty
  | cons c key =>
    rw [chars] at one alpha
    obtain ⟨-, notBackslash, notWhite, inside, -, notComment⟩ := of_isAlpha (alpha c List.mem_cons_self)
    have oneRest : OneLine (key ++ more) := fun d member => one d (List.mem_cons_of_mem _ member)
    obtain ⟨first, last⟩ := logicalLines_oneLine oneRest [c] rest
    have starts : ∀ text, logicalLines .start [] (c :: text) = logicalLines (.line false) [c] text := by
      intro text
      simp only [logicalLines, notWhite, inside, Bool.or_self, Bool.false_eq_true, if_false, notBackslash,
        decide_false, Bool.or_eq_true, decide_eq_true_eq, notComment]
    have emitted : emit ((key ++ more).reverse ++ [c]) = [c :: (key ++ more)] := by
      rw [emit, if_neg (by simp)]
      simp
    rw [List.cons_append, List.cons_append, starts, starts, first, last, emitted]
    exact ⟨rfl, rfl⟩

theorem oneLine_lineOf {entry : String × String} (letters : Letters entry.1) (one : OneLine (bytesOf entry.2)) :
    OneLine (lineOf entry) := by
  intro c member
  rcases List.mem_append.mp member with inKey | later
  · rw [letters_bytesOf letters] at inKey
    obtain ⟨-, notBackslash, -, inside, -, -⟩ := of_isAlpha (letters.2 c inKey)
    exact ⟨notBackslash, inside⟩
  · rcases List.mem_cons.mp later with rfl | inValue
    · exact ⟨by decide, rfl⟩
    · exact one c inValue

theorem logicalLines_print {entries : List (String × String)} (letters : ∀ entry ∈ entries, Letters entry.1)
    (one : ∀ entry ∈ entries, OneLine (bytesOf entry.2)) :
    logicalLines .start [] (print entries) = entries.map lineOf := by
  fun_induction print entries with
  | case1 => rfl
  | case2 entry =>
    have lettersOf := letters entry List.mem_cons_self
    have oneOf := oneLine_lineOf lettersOf (one entry List.mem_cons_self)
    rw [lineOf, letters_bytesOf lettersOf] at oneOf ⊢
    rw [(logicalLines_start lettersOf oneOf []).2]
    simp [lineOf, letters_bytesOf lettersOf]
  | case3 entry rest _ ih =>
    have lettersOf := letters entry List.mem_cons_self
    have oneOf := oneLine_lineOf lettersOf (one entry List.mem_cons_self)
    have tail := ih (fun e member => letters e (List.mem_cons_of_mem _ member))
      (fun e member => one e (List.mem_cons_of_mem _ member))
    rw [lineOf, letters_bytesOf lettersOf] at oneOf ⊢
    rw [(logicalLines_start lettersOf oneOf _).1, tail, List.map_cons]
    simp [lineOf, letters_bytesOf lettersOf]

theorem ofUnits_toNat {text : List Char} (latin : ∀ c ∈ text, c.toNat < 256) : ofUnits (text.map Char.toNat) = text := by
  have unit : ∀ c : Char, c.toNat < 256 → unitChar c.toNat = c := by
    intro c small
    rw [unitChar, if_pos (.inl (by omega)), Char.ofNat_toNat]
  induction text with
  | nil => rfl
  | cons c rest ih =>
    have small := latin c List.mem_cons_self
    have tail := ih fun d member => latin d (List.mem_cons_of_mem _ member)
    cases rest with
    | nil => simp [ofUnits, unit c small]
    | cons d rest =>
      rw [List.map_cons, List.map_cons, ofUnits, if_neg (by omega), unit c small]
      rw [List.map_cons] at tail
      rw [tail]

theorem convert_of_not {text : List Char} (latin : ∀ c ∈ text, c.toNat < 256) (plain : '\\' ∉ text) :
    convert text = some (String.ofList text) := by
  have units : loadConvert text = some (text.map Char.toNat) := by
    induction text with
    | nil => rfl
    | cons c rest ih =>
      have other : c ≠ '\\' := fun same => plain (same ▸ List.mem_cons_self)
      have tail := ih (fun d member => latin d (List.mem_cons_of_mem _ member))
        (fun member => plain (List.mem_cons_of_mem _ member))
      unfold loadConvert
      split <;> simp_all
  rw [convert, units, Option.map_some, ofUnits_toNat latin]

end Lines

section Entries

theorem splitKey_letters {key : String} (letters : Letters key) (rest : List Char) :
    splitKey false (key.toList ++ '=' :: rest) = (key.toList, '=' :: rest) := by
  have alpha := letters.2
  generalize key.toList = chars at alpha
  induction chars with
  | nil => rfl
  | cons c chars ih =>
    obtain ⟨-, notBackslash, notWhite, -, notSeparator, -⟩ := of_isAlpha (alpha c List.mem_cons_self)
    have tail := ih fun d member => alpha d (List.mem_cons_of_mem _ member)
    simp only [List.cons_append, splitKey, notSeparator, notWhite, notBackslash, Bool.or_self, Bool.false_and,
      Bool.false_eq_true, if_false, decide_false, tail]

/-- What comes back of a value without backslashes and line terminators. -/
def decoded (value : String) : String := String.ofList ((bytesOf value).dropWhile isWhite)

theorem entryOf_lineOf {entry : String × String} (letters : Letters entry.1) (one : OneLine (bytesOf entry.2)) :
    entryOf (lineOf entry) = some (entry.1, decoded entry.2) := by
  have key : convert entry.1.toList = some entry.1 := by
    have latin : ∀ c ∈ entry.1.toList, c.toNat < 256 := by
      intro c member
      have ascii := (of_isAlpha (letters.2 c member)).1
      omega
    rw [convert_of_not latin fun member => (of_isAlpha (letters.2 _ member)).2.1 rfl, String.ofList_toList]
  have value : convert ((bytesOf entry.2).dropWhile isWhite) = some (decoded entry.2) := by
    have sublist := List.dropWhile_sublist isWhite (l := bytesOf entry.2)
    exact convert_of_not (fun c member => toNat_lt_of_mem_bytesOf (sublist.mem member))
      fun member => (one _ (sublist.mem member)).1 rfl
  have after : valueOf ('=' :: bytesOf entry.2) = (bytesOf entry.2).dropWhile isWhite := rfl
  simp only [entryOf, lineOf, letters_bytesOf letters, splitKey_letters letters, after, key, value]
  rfl

theorem load_print {entries : List (String × String)} (letters : ∀ entry ∈ entries, Letters entry.1)
    (one : ∀ entry ∈ entries, OneLine (bytesOf entry.2)) :
    load (print entries) = some (entries.map fun entry => (entry.1, decoded entry.2)) := by
  rw [load, logicalLines_print letters one]
  induction entries with
  | nil => rfl
  | cons entry rest ih =>
    have tail := ih (fun e member => letters e (List.mem_cons_of_mem _ member))
      (fun e member => one e (List.mem_cons_of_mem _ member))
    rw [List.map_cons, List.mapM_cons, tail, entryOf_lineOf (letters entry List.mem_cons_self)
      (one entry List.mem_cons_self)]
    rfl

theorem oneLine_of_plain {value : String} (plain : Plain value) : OneLine (bytesOf value) := by
  rw [bytesOf_ascii fun c member => (plain.1 c member).1]
  exact fun c member => (plain.1 c member).2

theorem dropWhile_head {p : Char → Bool} {text : List Char} (head : ∀ c ∈ text.head?, p c = false) :
    text.dropWhile p = text := by
  cases text with
  | nil => rfl
  | cons c rest => exact List.dropWhile_cons_of_neg (by simp [head c rfl])

theorem decoded_eq_iff {value : String} (one : OneLine (bytesOf value)) : decoded value = value ↔ Plain value := by
  constructor
  · intro same
    have chars : (bytesOf value).dropWhile isWhite = value.toList := by
      have := congrArg String.toList same
      rwa [decoded, String.toList_ofList] at this
    have head : ∀ c ∈ value.toList.head?, isWhite c = false := by
      intro c isHead
      rw [← chars] at isHead
      have := List.head?_dropWhile_not isWhite (bytesOf value)
      rw [Option.mem_def.mp isHead] at this
      simpa using this
    have byte : ∀ b ∈ (bytesOf value).head?, isWhite b = false := by
      intro b isHead
      unfold bytesOf at isHead
      cases values : value.toList with
      | nil => rw [values] at isHead; cases isHead
      | cons c rest =>
        rw [values] at isHead head
        by_cases ascii : c.toNat < 128
        · rw [List.flatMap_cons, bytesOfChar_ascii ascii] at isHead
          cases isHead
          exact head b rfl
        · have high := (bytesOfChar_other (c := c) (by omega)).2
          have inside : b ∈ bytesOfChar c := by
            have long := (bytesOfChar_other (c := c) (by omega)).1
            rw [List.flatMap_cons] at isHead
            cases bytes : bytesOfChar c with
            | nil => rw [bytes] at long; cases long
            | cons d more =>
              rw [bytes] at isHead
              cases isHead
              exact List.mem_cons_self
          have := (high b inside).1
          simp only [isWhite, Bool.or_eq_false_iff, decide_eq_false_iff_not]
          refine ⟨⟨?_, ?_⟩, ?_⟩ <;> rintro rfl <;> revert this <;> decide
    rw [dropWhile_head byte] at chars
    have ascii := @ascii_of_length value (by rw [chars])
    refine ⟨fun c member => ⟨ascii c member, one c ?_⟩, head⟩
    rwa [chars]
  · rintro ⟨inside, head⟩
    rw [decoded, bytesOf_ascii fun c member => (inside c member).1, dropWhile_head head, String.ofList_toList]

theorem getProperty_eq_some_iff {entries : List (String × String)} (nodup : (entries.map Prod.fst).Nodup)
    {key value : String} : getProperty entries key = some value ↔ (key, value) ∈ entries := by
  unfold getProperty
  rw [← List.mem_reverse]
  have distinct : (entries.reverse.map Prod.fst).Nodup := by
    rw [List.map_reverse]
    exact List.nodup_reverse.mpr nodup
  generalize entries.reverse = entries at distinct
  induction entries with
  | nil => simp
  | cons entry rest ih =>
    obtain ⟨first, other⟩ := entry
    simp only [List.map_cons, List.nodup_cons] at distinct
    rw [List.lookup_cons, List.mem_cons]
    by_cases same : key = first
    · subst same
      have absent : (key, value) ∉ rest := fun member => distinct.1 (List.mem_map_of_mem (f := Prod.fst) member)
      simp [absent, eq_comm]
    · have differs : (key == first) = false := beq_false_of_ne same
      simp only [differs, Prod.mk.injEq, same, false_and, false_or]
      exact ih distinct.2

theorem mem_of_getProperty {entries : List (String × String)} {key value : String}
    (is : getProperty entries key = some value) : (key, value) ∈ entries := by
  obtain ⟨before, after, same, -⟩ := List.lookup_eq_some_iff.mp is
  apply List.mem_reverse.mp
  rw [same]
  simp

end Entries

section Necessity

/-- A value that leaves the next line alone. -/
def Terminated (value : String) : Prop := ∀ c ∈ value.toList.getLast?, c ≠ '\\' ∧ c ≠ '\r'

instance (value : String) : Decidable (Terminated value) := Option.decidableForallMem _

theorem logicalLines_step (mode : Mode) (line : List Char) (c : Char) :
    ∃ lines next line', (∀ rest, logicalLines mode line (c :: rest) = lines ++ logicalLines next line' rest) ∧
      (c ≠ '\\' → c ≠ '\r' → next ≠ .line true ∧ next ≠ .continued true) := by
  cases mode with
  | start =>
    by_cases blank : (isWhite c || isTerminator c) = true
    · exact ⟨[], .start, [], fun rest => by simp [logicalLines, blank], by simp⟩
    by_cases comment : c = '#' ∨ c = '!'
    · exact ⟨[], .comment, [], fun rest => by simp [logicalLines, blank, comment], by simp⟩
    · exact ⟨[], .line (c = '\\'), [c], fun rest => by simp [logicalLines, blank, comment], by simp +contextual⟩
  | comment =>
    by_cases ends : isTerminator c = true
    · exact ⟨[], .start, [], fun rest => by simp [logicalLines, ends], by simp⟩
    · exact ⟨[], .comment, [], fun rest => by simp [logicalLines, ends], by simp⟩
  | line escaped =>
    by_cases ends : isTerminator c = true
    · cases escaped with
      | true =>
        exact ⟨[], .continued (c = '\r'), line.tail, fun rest => by simp [logicalLines, ends], by simp +contextual⟩
      | false => exact ⟨emit line, .start, [], fun rest => by simp [logicalLines, ends], by simp⟩
    · exact ⟨[], .line (c = '\\' && !escaped), c :: line, fun rest => by simp [logicalLines, ends],
        by simp +contextual⟩
  | continued afterReturn =>
    by_cases skipped : (isWhite c || (afterReturn && c = '\n')) = true
    · exact ⟨[], .continued false, line, fun rest => by rw [logicalLines, if_pos skipped]; rfl, by simp⟩
    by_cases ends : isTerminator c = true
    · exact ⟨emit line, .start, [], fun rest => by rw [logicalLines, if_neg skipped, if_pos ends], by simp⟩
    · exact ⟨[], .line (c = '\\'), c :: line,
        fun rest => by rw [logicalLines, if_neg skipped, if_neg ends]; rfl, by simp +contextual⟩

theorem logicalLines_fresh (mode : Mode) (line : List Char) {text : List Char} (nonempty : text ≠ [])
    (ends : ∀ c ∈ text.getLast?, c ≠ '\\' ∧ c ≠ '\r') (rest : List Char) :
    ∃ lines, logicalLines mode line (text ++ '\n' :: rest) = lines ++ logicalLines .start [] rest := by
  induction text generalizing mode line with
  | nil => exact absurd rfl nonempty
  | cons c text ih =>
    obtain ⟨lines, next, line', step, leaves⟩ := logicalLines_step mode line c
    rw [List.cons_append, step]
    cases text with
    | nil =>
      obtain ⟨notBackslash, notReturn⟩ := ends c rfl
      obtain ⟨notEscaped, notContinued⟩ := leaves notBackslash notReturn
      rw [List.nil_append]
      cases next with
      | start => exact ⟨lines, rfl⟩
      | comment => exact ⟨lines, rfl⟩
      | line escaped =>
        cases escaped with
        | true => exact absurd rfl notEscaped
        | false => exact ⟨lines ++ emit line', by rw [List.append_assoc]; rfl⟩
      | continued afterReturn =>
        cases afterReturn with
        | true => exact absurd rfl notContinued
        | false => exact ⟨lines ++ emit line', by rw [List.append_assoc]; rfl⟩
    | cons d text =>
      obtain ⟨more, same⟩ := ih next line' (by simp) (by simpa using ends)
      exact ⟨lines ++ more, by rw [same, List.append_assoc]⟩

theorem getLast?_bytesOf {value : String} (terminated : Terminated value) :
    ∀ b ∈ (bytesOf value).getLast?, b ≠ '\\' ∧ b ≠ '\r' := by
  intro b isLast
  unfold Terminated at terminated
  unfold bytesOf at isLast
  rcases List.eq_nil_or_concat value.toList with none | ⟨before, c, same⟩
  · rw [none] at isLast
    cases isLast
  · rw [List.concat_eq_append] at same
    rw [same, List.flatMap_append, List.flatMap_singleton] at isLast
    rw [same] at terminated
    have last := terminated c (by simp)
    by_cases ascii : c.toNat < 128
    · rw [bytesOfChar_ascii ascii] at isLast
      have : b = c := by simpa [eq_comm] using isLast
      rw [this]
      exact last
    · obtain ⟨long, high⟩ := bytesOfChar_other (c := c) (by omega)
      have inside : b ∈ bytesOfChar c := by
        rw [List.getLast?_append_of_ne_nil _ (List.ne_nil_of_length_pos (by omega))] at isLast
        exact List.mem_of_getLast? isLast
      have := (high b inside).1
      refine ⟨?_, ?_⟩ <;> rintro rfl <;> revert this <;> decide

theorem print_append (before : List (String × String)) (last : String × String) (after : List (String × String)) :
    ∃ start, print (before ++ [last]) = start ++ lineOf last ∧
      (∀ entry, print (before ++ last :: entry :: after) = start ++ lineOf last ++ '\n' :: print (entry :: after)) := by
  induction before with
  | nil => exact ⟨[], rfl, fun entry => by simp [print]⟩
  | cons first before ih =>
    obtain ⟨start, alone, followed⟩ := ih
    refine ⟨lineOf first ++ '\n' :: start, ?_, fun entry => ?_⟩
    · have printed : print (first :: (before ++ [last])) = lineOf first ++ '\n' :: print (before ++ [last]) := by
        cases before <;> rfl
      rw [List.cons_append, printed, alone, List.append_assoc, List.cons_append]
    · have printed : print (first :: (before ++ last :: entry :: after)) =
          lineOf first ++ '\n' :: print (before ++ last :: entry :: after) := by
        cases before <;> rfl
      rw [List.cons_append, printed, followed entry]
      simp [List.append_assoc]

theorem decoded_of_plain {value : String} (plain : Plain value) : decoded value = value :=
  (decoded_eq_iff (oneLine_of_plain plain)).mpr plain

theorem lineOf_mem_logicalLines {entry : String × String} (letters : Letters entry.1) (plain : Plain entry.2)
    (after : List (String × String)) : lineOf entry ∈ logicalLines .start [] (print (entry :: after)) := by
  have one := oneLine_lineOf letters (oneLine_of_plain plain)
  rw [lineOf, letters_bytesOf letters] at one
  cases after with
  | nil =>
    rw [print, lineOf, letters_bytesOf letters, (logicalLines_start letters one []).2]
    exact List.mem_cons_self
  | cons next after =>
    rw [print, lineOf, letters_bytesOf letters, (logicalLines_start letters one _).1]
    · exact List.mem_cons_self
    · simp

/-- A plain value comes back, whatever the others are, when the value before it leaves its
line alone. -/
theorem mem_of_terminated {before after : List (String × String)} {entry : String × String}
    (letters : Letters entry.1) (plain : Plain entry.2) (leaves : ∀ last ∈ before.getLast?, Terminated last.2)
    {loaded : List (String × String)} (loads : load (print (before ++ entry :: after)) = some loaded) :
    entry ∈ loaded := by
  have line : lineOf entry ∈ logicalLines .start [] (print (before ++ entry :: after)) := by
    have own := lineOf_mem_logicalLines letters plain after
    rcases List.eq_nil_or_concat before with rfl | ⟨before, last, rfl⟩
    · exact own
    · rw [List.concat_eq_append] at leaves ⊢
      obtain ⟨start, -, followed⟩ := print_append before last after
      rw [List.append_assoc, List.singleton_append, followed entry]
      have ends : ∀ c ∈ (start ++ lineOf last).getLast?, c ≠ '\\' ∧ c ≠ '\r' := by
        intro c isLast
        rw [lineOf, List.getLast?_append_of_ne_nil _ (by simp), List.getLast?_append_of_ne_nil _ (by simp)] at isLast
        have terminated := getLast?_bytesOf (leaves last (by simp))
        cases bytes : bytesOf last.2 with
        | nil =>
          rw [bytes] at isLast
          cases isLast
          decide
        | cons b more =>
          rw [bytes] at isLast terminated
          exact terminated c (by simpa using isLast)
      have nonempty : start ++ lineOf last ≠ [] := by simp [lineOf]
      obtain ⟨lines, same⟩ := logicalLines_fresh .start [] nonempty ends (print (entry :: after))
      rw [same]
      exact List.mem_append_right _ own
  obtain ⟨found, inLoaded, is⟩ := Transition.exists_of_mem_of_mapM loads line
  rw [entryOf_lineOf letters (oneLine_of_plain plain), decoded_of_plain plain] at is
  cases is
  exact inLoaded

theorem countP_print (p : Char → Bool) (feed : p '\n' = true) {entries : List (String × String)}
    (nonempty : entries ≠ []) :
    (print entries).countP p + 1 = (entries.map fun entry => (lineOf entry).countP p + 1).sum := by
  fun_induction print entries with
  | case1 => exact absurd rfl nonempty
  | case2 entry => simp
  | case3 entry rest more ih =>
    rw [List.map_cons, List.sum_cons, ← ih (by simpa using more), List.countP_append, List.countP_cons, feed]
    simp only [if_true]
    omega

theorem weight_lineOf (entry : String × String) :
    weight (lineOf entry) = weight entry.1.toList + weight entry.2.toList := by
  have separator : counted '='.toNat = false := rfl
  rw [lineOf, weight_append, weight_cons, separator, weight_bytesOf, weight_bytesOf]
  rfl

theorem mem_print {entries : List (String × String)} {entry : String × String} (member : entry ∈ entries) {c : Char}
    (inside : c ∈ lineOf entry) : c ∈ print entries := by
  fun_induction print entries with
  | case1 => cases member
  | case2 => rwa [List.mem_singleton.mp member] at inside
  | case3 first rest _ ih =>
    rcases List.mem_cons.mp member with rfl | later
    · exact List.mem_append_left _ inside
    · exact List.mem_append_right _ (List.mem_cons_of_mem _ (ih later))

/-- What the characters of an entry weigh. -/
def entryWeight (entry : String × String) : Nat := weight entry.1.toList + weight entry.2.toList

/-- Where as much comes back as was printed, the text has nothing to spare for terminators
and backslashes. -/
theorem oneLine_of_weight {entries loaded : List (String × String)} (loads : load (print entries) = some loaded)
    (needed : (entries.map entryWeight).sum ≤ (loaded.map entryWeight).sum) :
    ∀ entry ∈ entries, OneLine (bytesOf entry.2) := by
  intro entry member
  have nonempty := List.ne_nil_of_mem member
  obtain ⟨kept, lost⟩ : (loaded.map entryWeight).sum + (print entries).countP isTerminator ≤ weight (print entries) ∧
      ('\\' ∈ print entries →
        (loaded.map entryWeight).sum + (print entries).countP isTerminator < weight (print entries)) :=
    weight_load loads
  have whole := countP_print (fun c => counted c.toNat) rfl nonempty
  have terminators := countP_print isTerminator rfl nonempty
  have lines : (fun entry : String × String => (lineOf entry).countP (fun c => counted c.toNat) + 1) =
      fun entry => entryWeight entry + 1 := by
    funext entry
    rw [entryWeight, ← weight_lineOf]
    rfl
  rw [lines] at whole
  rw [List.sum_map_add] at whole terminators
  have total : weight (print entries) = (print entries).countP fun c => counted c.toNat := rfl
  have noTerminators : (entries.map fun entry => (lineOf entry).countP isTerminator).sum = 0 := by omega
  have ownTerminators : (lineOf entry).countP isTerminator = 0 := by
    have all := List.sum_eq_zero_iff.mp noTerminators
    exact all _ (List.mem_map_of_mem member)
  intro c inValue
  have inLine : c ∈ lineOf entry := List.mem_append_right _ (List.mem_cons_of_mem _ inValue)
  constructor
  · rintro rfl
    have less := lost (mem_print member inLine)
    omega
  · exact Bool.eq_false_iff.mpr (List.countP_eq_zero.mp ownTerminators c inLine)

theorem sum_entryWeight_le {entries loaded : List (String × String)} (nodup : (entries.map Prod.fst).Nodup)
    (subset : entries ⊆ loaded) : (entries.map entryWeight).sum ≤ (loaded.map entryWeight).sum := by
  obtain ⟨part, permutes, sublist⟩ := List.subperm_of_subset nodup.of_map subset
  rw [← (permutes.map _).sum_nat]
  exact (sublist.map _).sum_le_sum (by simp)

theorem oneLine_of_subset {entries loaded : List (String × String)} (nodup : (entries.map Prod.fst).Nodup)
    (loads : load (print entries) = some loaded) (subset : entries ⊆ loaded) :
    ∀ entry ∈ entries, OneLine (bytesOf entry.2) :=
  oneLine_of_weight loads (sum_entryWeight_le nodup subset)

theorem plain_of_subset {entries loaded : List (String × String)} (nodup : (entries.map Prod.fst).Nodup)
    (letters : ∀ entry ∈ entries, Letters entry.1) (loads : load (print entries) = some loaded)
    (subset : entries ⊆ loaded) : ∀ entry ∈ entries, Plain entry.2 := by
  have one := oneLine_of_subset nodup loads subset
  obtain rfl := Option.some.inj ((load_print letters one).symm.trans loads)
  intro entry member
  apply (decoded_eq_iff (one entry member)).mp
  obtain ⟨other, inEntries, same⟩ := List.mem_map.mp (subset member)
  have keys : other.1 = entry.1 := by rw [← same]
  have : other = entry := List.inj_on_of_nodup_map nodup inEntries member keys
  subst this
  exact congrArg Prod.snd same

theorem load_print_of_plain {entries : List (String × String)} (letters : ∀ entry ∈ entries, Letters entry.1)
    (plain : ∀ entry ∈ entries, Plain entry.2) : load (print entries) = some entries := by
  rw [load_print letters fun entry member => oneLine_of_plain (plain entry member)]
  congr 1
  conv_rhs => rw [← List.map_id entries]
  apply List.map_congr_left
  intro entry member
  rw [decoded_of_plain (plain entry member)]
  rfl

theorem load_print_eq {entries loaded : List (String × String)} (nodup : (entries.map Prod.fst).Nodup)
    (letters : ∀ entry ∈ entries, Letters entry.1) (terminated : ∀ entry ∈ entries, Terminated entry.2)
    (loads : load (print entries) = some loaded)
    (back : ∀ entry ∈ entries, getProperty loaded entry.1 = some entry.2 ∨ Plain entry.2) :
    (∀ entry ∈ entries, Plain entry.2) ∧ loaded = entries := by
  have subset : entries ⊆ loaded := by
    intro entry member
    rcases back entry member with is | plain
    · exact mem_of_getProperty is
    · obtain ⟨before, after, rfl⟩ := List.append_of_mem member
      apply mem_of_terminated (letters entry member) plain _ loads
      intro last isLast
      exact terminated last (List.mem_append_left _ (List.mem_of_getLast? isLast))
  have plain := plain_of_subset nodup letters loads subset
  exact ⟨plain, Option.some.inj (loads.symm.trans (load_print_of_plain letters plain))⟩

theorem bytesOf_append (text other : String) : bytesOf (text ++ other) = bytesOf text ++ bytesOf other := by
  rw [bytesOf, String.toList_append, List.flatMap_append]
  rfl

theorem bytesOf_text (entries : List (String × String)) : bytesOf (text entries) = print entries := by
  have separator : bytesOf "=" = ['='] := by decide
  have feed : bytesOf "\n" = ['\n'] := by decide
  fun_induction print entries with
  | case1 => rfl
  | case2 entry =>
    rw [text, bytesOf_append, bytesOf_append, separator, lineOf, List.append_assoc]
    rfl
  | case3 entry rest more ih =>
    cases rest with
    | nil => exact absurd rfl more
    | cons next rest =>
      rw [text, bytesOf_append, bytesOf_append, bytesOf_append, bytesOf_append, separator, feed, ih, lineOf]
      · simp only [List.append_assoc, List.nil_append, List.cons_append]
      · exact more

end Necessity

end Zms.Text.Properties
