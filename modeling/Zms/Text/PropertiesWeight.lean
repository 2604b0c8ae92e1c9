import Mathlib
import Zms.Text.Properties

/-! How much of a text its entries have. Decoding never makes characters of ASCII; what a
text loses are its line terminators and its backslashes. -/

set_option autoImplicit false

namespace Zms.Text.Properties

section Bytes

theorem toNat_ofNat {n : Nat} (valid : n < 0xD800 ∨ 0xDFFF < n ∧ n < 0x110000) : (Char.ofNat n).toNat = n := by
  rw [Char.ofNat, dif_pos valid]
  rfl

theorem bytesOfChar_ascii {c : Char} (ascii : c.toNat < 128) : bytesOfChar c = [c] := by
  have encoded : String.utf8EncodeChar c = [UInt8.ofNat c.toNat] := if_pos (Nat.le_of_lt_succ ascii)
  have same : (UInt8.ofNat c.toNat).toNat = c.toNat := by
    rw [UInt8.toNat_ofNat']
    omega
  simp [bytesOfChar, encoded, same]

theorem bytesOfChar_other {c : Char} (other : 128 ≤ c.toNat) :
    2 ≤ (bytesOfChar c).length ∧ ∀ b ∈ bytesOfChar c, 128 ≤ b.toNat ∧ b.toNat < 256 := by
  have high : ¬ c.val.toNat ≤ 0x7f := by
    show ¬ c.toNat ≤ 127
    omega
  have continues : ∀ n : Nat, 128 ≤ n → n < 256 →
      128 ≤ (Char.ofNat (UInt8.ofNat n).toNat).toNat ∧ (Char.ofNat (UInt8.ofNat n).toNat).toNat < 256 := by
    intro n atLeast small
    rw [UInt8.toNat_ofNat', Nat.mod_eq_of_lt (by omega), toNat_ofNat (.inl (by omega))]
    exact ⟨atLeast, small⟩
  unfold bytesOfChar String.utf8EncodeChar
  dsimp only
  rw [if_neg high]
  by_cases two : c.val.toNat ≤ 0x7ff
  · rw [if_pos two]
    refine ⟨Nat.le_refl _, ?_⟩
    simp only [List.map_cons, List.map_nil, List.mem_cons, List.not_mem_nil, or_false]
    rintro b (rfl | rfl) <;> exact continues _ (by omega) (by omega)
  · rw [if_neg two]
    by_cases three : c.val.toNat ≤ 0xffff
    · rw [if_pos three]
      refine ⟨by simp, ?_⟩
      simp only [List.map_cons, List.map_nil, List.mem_cons, List.not_mem_nil, or_false]
      rintro b (rfl | rfl | rfl) <;> exact continues _ (by omega) (by omega)
    · rw [if_neg three]
      refine ⟨by simp, ?_⟩
      simp only [List.map_cons, List.map_nil, List.mem_cons, List.not_mem_nil, or_false]
      rintro b (rfl | rfl | rfl | rfl) <;> exact continues _ (by omega) (by omega)

theorem bytesOf_ascii {text : String} (ascii : ∀ c ∈ text.toList, c.toNat < 128) : bytesOf text = text.toList := by
  unfold bytesOf
  generalize text.toList = chars at ascii
  induction chars with
  | nil => rfl
  | cons c rest ih =>
    rw [List.flatMap_cons, bytesOfChar_ascii (ascii c List.mem_cons_self),
      ih fun d member => ascii d (List.mem_cons_of_mem _ member)]
    rfl

theorem toNat_lt_of_mem_bytesOf {text : String} {b : Char} (member : b ∈ bytesOf text) : b.toNat < 256 := by
  obtain ⟨c, -, inBytes⟩ := List.mem_flatMap.mp member
  by_cases ascii : c.toNat < 128
  · rw [bytesOfChar_ascii ascii] at inBytes
    rw [List.mem_singleton.mp inBytes]
    omega
  · exact ((bytesOfChar_other (by omega)).2 b inBytes).2

theorem ascii_of_length {text : String} (short : (bytesOf text).length ≤ text.toList.length) :
    ∀ c ∈ text.toList, c.toNat < 128 := by
  unfold bytesOf at short
  generalize text.toList = chars at short
  have atLeast : ∀ l : List Char, l.length ≤ (l.flatMap bytesOfChar).length := by
    intro l
    induction l with
    | nil => exact Nat.le_refl 0
    | cons c rest ih =>
      rw [List.flatMap_cons, List.length_append, List.length_cons]
      by_cases ascii : c.toNat < 128
      · rw [bytesOfChar_ascii ascii, List.length_singleton]
        omega
      · have long := (bytesOfChar_other (c := c) (by omega)).1
        omega
  induction chars with
  | nil => simp
  | cons c rest ih =>
    rw [List.flatMap_cons, List.length_append, List.length_cons] at short
    have restLong := atLeast rest
    by_cases ascii : c.toNat < 128
    · rw [bytesOfChar_ascii ascii, List.length_singleton] at short
      intro d member
      rcases List.mem_cons.mp member with rfl | later
      · exact ascii
      · exact ih (by omega) d later
    · have long := (bytesOfChar_other (c := c) (by omega)).1
      omega

end Bytes

section Weight

/-- The characters that are counted: ASCII without `=`, which a line has for its separator. -/
def counted (n : Nat) : Bool := n < 128 && n ≠ 61

def weight (text : List Char) : Nat := text.countP fun c => counted c.toNat

@[simp] theorem weight_nil : weight [] = 0 := rfl

theorem weight_cons (c : Char) (rest : List Char) :
    weight (c :: rest) = weight rest + if counted c.toNat then 1 else 0 := List.countP_cons

theorem weight_append (text other : List Char) : weight (text ++ other) = weight text + weight other :=
  List.countP_append

theorem weight_reverse (text : List Char) : weight text.reverse = weight text := List.countP_reverse

theorem weight_dropWhile (p : Char → Bool) (text : List Char) : weight (text.dropWhile p) ≤ weight text :=
  (List.dropWhile_sublist p).countP_le

theorem weight_bytesOf (text : String) : weight (bytesOf text) = weight text.toList := by
  unfold bytesOf
  induction text.toList with
  | nil => rfl
  | cons c rest ih =>
    rw [List.flatMap_cons, weight_append, ih, weight_cons, Nat.add_comm]
    congr 1
    by_cases ascii : c.toNat < 128
    · rw [bytesOfChar_ascii ascii, weight_cons, weight_nil, Nat.zero_add]
    · have none : weight (bytesOfChar c) = 0 := by
        apply List.countP_eq_zero.mpr
        intro b member
        have high := ((bytesOfChar_other (by omega)).2 b member).1
        simp only [counted, Bool.and_eq_true, decide_eq_true_eq, not_and]
        omega
      rw [none]
      simp only [counted, ascii, decide_false, Bool.false_and, Bool.false_eq_true, if_false]

theorem counted_of_escaped {c : Char} (is : counted (escaped c).toNat = true) : counted c.toNat = true := by
  unfold escaped at is
  by_cases t : c = 't'
  · subst t; rfl
  by_cases n : c = 'n'
  · subst n; rfl
  by_cases r : c = 'r'
  · subst r; rfl
  by_cases f : c = 'f'
  · subst f; rfl
  · rwa [if_neg t, if_neg n, if_neg r, if_neg f] at is

theorem weight_loadConvert {text : List Char} {units : List Nat} (converts : loadConvert text = some units) :
    units.countP counted ≤ weight text ∧ ('\\' ∈ text → units.countP counted < weight text) := by
  have backslash : counted '\\'.toNat = true := rfl
  fun_induction loadConvert text generalizing units with
  | case1 => cases converts; simp
  | case2 a b c d rest ih =>
    simp only [Option.bind_eq_bind, Option.bind_eq_some_iff, Option.pure_def, Option.some.injEq] at converts
    obtain ⟨unit, -, decoded, isDecoded, rfl⟩ := converts
    have less := (ih isDecoded).1
    have u : counted 'u'.toNat = true := rfl
    simp only [weight_cons, List.countP_cons, backslash, u, if_true]
    constructor
    · split <;> omega
    · intro _
      split <;> omega
  | case3 => cases converts
  | case4 c rest _ _ ih =>
    obtain ⟨decoded, isDecoded, rfl⟩ := Option.map_eq_some_iff.mp converts
    have less := (ih isDecoded).1
    have decides := counted_of_escaped (c := c)
    simp only [weight_cons, List.countP_cons, backslash, if_true]
    constructor
    · split
      · next is => rw [if_pos (decides is)]; omega
      · omega
    · intro _
      split
      · next is => rw [if_pos (decides is)]; omega
      · omega
  | case5 rest =>
    cases converts
    simp only [List.countP_nil, weight_cons, backslash, if_true]
    exact ⟨Nat.zero_le _, fun _ => Nat.succ_pos _⟩
  | case6 c rest _ _ _ notBackslash ih =>
    obtain ⟨decoded, isDecoded, rfl⟩ := Option.map_eq_some_iff.mp converts
    obtain ⟨less, strict⟩ := ih isDecoded
    simp only [weight_cons, List.countP_cons]
    refine ⟨by omega, ?_⟩
    intro member
    rcases List.mem_cons.mp member with same | later
    · exact absurd same.symm notBackslash
    · have := strict later
      omega

theorem counted_unitChar {unit : Nat} (is : counted (unitChar unit).toNat = true) : counted unit = true := by
  unfold unitChar at is
  split at is
  · next valid => rwa [toNat_ofNat valid] at is
  · cases is

theorem weight_ofUnits (units : List Nat) : weight (ofUnits units) ≤ units.countP counted := by
  have single : ∀ unit, (if counted (unitChar unit).toNat then 1 else 0) ≤ if counted unit then 1 else 0 := by
    intro unit
    split
    · next is => rw [if_pos (counted_unitChar is)]
    · exact Nat.zero_le _
  fun_induction ofUnits units with
  | case1 high low rest pair ih =>
    have value := toNat_ofNat (n := 0x10000 + (high - 0xD800) * 0x400 + (low - 0xDC00)) (.inr (by omega))
    have uncounted : counted (0x10000 + (high - 0xD800) * 0x400 + (low - 0xDC00)) = false := by
      simp only [counted, Bool.and_eq_false_iff, decide_eq_false_iff_not]
      omega
    simp only [weight_cons, value, uncounted, List.countP_cons]
    simp only [Bool.false_eq_true, if_false]
    omega
  | case2 high low rest notPair ih =>
    have first := single high
    rw [weight_cons, List.countP_cons (a := high)]
    omega
  | case3 unit =>
    have first := single unit
    simpa [weight_cons] using first
  | case4 => exact Nat.le_refl 0

theorem weight_convert {text : List Char} {decoded : String} (converts : convert text = some decoded) :
    weight decoded.toList ≤ weight text ∧ ('\\' ∈ text → weight decoded.toList < weight text) := by
  obtain ⟨units, isUnits, rfl⟩ := Option.map_eq_some_iff.mp converts
  obtain ⟨less, strict⟩ := weight_loadConvert isUnits
  have chars := weight_ofUnits units
  rw [String.toList_ofList]
  exact ⟨chars.trans less, fun member => lt_of_le_of_lt chars (strict member)⟩

theorem splitKey_append (afterBackslash : Bool) (line : List Char) :
    (splitKey afterBackslash line).1 ++ (splitKey afterBackslash line).2 = line := by
  fun_induction splitKey afterBackslash line with
  | case1 => rfl
  | case2 => rfl
  | case3 _ c rest _ _ ih => exact congrArg (c :: ·) ih

theorem weight_valueOf (rest : List Char) : weight (valueOf rest) ≤ weight rest := by
  have shorter := weight_dropWhile isWhite rest
  unfold valueOf
  split
  · exact Nat.zero_le _
  · next c more same =>
    rw [same, weight_cons] at shorter
    split
    · have := weight_dropWhile isWhite more
      omega
    · rw [weight_cons]
      exact shorter

theorem mem_dropWhile {c : Char} {p : Char → Bool} (other : p c = false) {text : List Char} (member : c ∈ text) :
    c ∈ text.dropWhile p := by
  induction text with
  | nil => cases member
  | cons d rest ih =>
    rcases List.mem_cons.mp member with rfl | later
    · rw [List.dropWhile_cons_of_neg (by simp [other])]
      exact List.mem_cons_self
    · by_cases is : p d = true
      · rw [List.dropWhile_cons_of_pos is]
        exact ih later
      · rw [List.dropWhile_cons_of_neg is]
        exact member

theorem backslash_mem_valueOf {rest : List Char} (member : '\\' ∈ rest) : '\\' ∈ valueOf rest := by
  have kept := mem_dropWhile (p := isWhite) rfl member
  unfold valueOf
  split
  · next none => rw [none] at kept; exact kept
  · next c more same =>
    rw [same] at kept
    split
    · next separator =>
      rcases List.mem_cons.mp kept with rfl | later
      · cases separator
      · exact mem_dropWhile rfl later
    · exact kept

theorem weight_entryOf {line : List Char} {entry : String × String} (is : entryOf line = some entry) :
    weight entry.1.toList + weight entry.2.toList ≤ weight line ∧
      ('\\' ∈ line → weight entry.1.toList + weight entry.2.toList < weight line) := by
  simp only [entryOf, Option.bind_eq_bind, Option.bind_eq_some_iff, Option.pure_def, Option.some.injEq] at is
  obtain ⟨key, isKey, value, isValue, rfl⟩ := is
  obtain ⟨keyLess, keyStrict⟩ := weight_convert isKey
  obtain ⟨valueLess, valueStrict⟩ := weight_convert isValue
  have restLess := weight_valueOf (splitKey false line).2
  have whole := congrArg weight (splitKey_append false line)
  rw [weight_append] at whole
  refine ⟨by dsimp only; omega, ?_⟩
  intro member
  rw [← splitKey_append false line] at member
  dsimp only
  rcases List.mem_append.mp member with inKey | inRest
  · have := keyStrict inKey
    omega
  · have := valueStrict (backslash_mem_valueOf inRest)
    omega

theorem counted_of_isTerminator {c : Char} (is : isTerminator c = true) : counted c.toNat = true := by
  simp only [isTerminator, Bool.or_eq_true, decide_eq_true_eq] at is
  rcases is with rfl | rfl <;> rfl

theorem weight_pos {line : List Char} (member : '\\' ∈ line) : 0 < weight line :=
  List.countP_pos_iff.mpr ⟨'\\', member, rfl⟩

theorem weight_emit (line : List Char) : ((emit line).map weight).sum = weight line := by
  unfold emit
  split
  · next none => rw [none]; rfl
  · simp [weight_reverse]

theorem exists_mem_emit {line : List Char} {c : Char} (member : c ∈ line) : ∃ logical ∈ emit line, c ∈ logical := by
  unfold emit
  rw [if_neg (List.ne_nil_of_mem member)]
  exact ⟨line.reverse, List.mem_singleton_self _, List.mem_reverse.mpr member⟩

/-- The logical lines of a text, after what has been read of one, have none of the
terminators and no more than the rest of both; of a backslash they have less, unless it is
in a line. -/
structure Accounts (lines : List (List Char)) (line text : List Char) : Prop where
  le : (lines.map weight).sum + text.countP isTerminator ≤ weight line + weight text
  lost : '\\' ∈ line ∨ '\\' ∈ text → (∃ logical ∈ lines, '\\' ∈ logical) ∨
    (lines.map weight).sum + text.countP isTerminator < weight line + weight text

theorem Accounts.emit (line : List Char) : Accounts (emit line) line [] where
  le := by rw [weight_emit]; exact Nat.le_refl _
  lost member := by
    rcases member with inLine | inText
    · exact .inl (exists_mem_emit inLine)
    · cases inText

theorem Accounts.weaken {lines : List (List Char)} {text : List Char} (accounts : Accounts lines [] text)
    (line : List Char) : Accounts lines line text where
  le := by
    have := accounts.le
    rw [weight_nil] at this
    omega
  lost member := by
    have := accounts.le
    rw [weight_nil] at this
    rcases member with inLine | inText
    · have := weight_pos inLine
      exact .inr (by omega)
    · rcases accounts.lost (.inr inText) with kept | less
      · exact .inl kept
      · rw [weight_nil] at less
        exact .inr (by omega)

theorem Accounts.drop {lines : List (List Char)} {line text : List Char} (accounts : Accounts lines line text)
    (c : Char) : Accounts lines line (c :: text) := by
  have first : (if isTerminator c then 1 else 0) ≤ if counted c.toNat then 1 else 0 := by
    split
    · next is => rw [if_pos (counted_of_isTerminator is)]
    · exact Nat.zero_le _
  have le := accounts.le
  refine ⟨by rw [weight_cons, List.countP_cons]; omega, ?_⟩
  intro member
  rw [weight_cons, List.countP_cons]
  by_cases backslash : c = '\\'
  · subst backslash
    have counts : counted '\\'.toNat = true := rfl
    have keeps : isTerminator '\\' = false := rfl
    rw [counts, keeps, if_pos rfl, if_neg Bool.false_ne_true]
    exact .inr (by omega)
  · have before : '\\' ∈ line ∨ '\\' ∈ text := by
      rcases member with inLine | inText
      · exact .inl inLine
      · rcases List.mem_cons.mp inText with same | later
        · exact absurd same.symm backslash
        · exact .inr later
    rcases accounts.lost before with kept | less
    · exact .inl kept
    · exact .inr (by omega)

theorem Accounts.keep {lines : List (List Char)} {line text : List Char} {c : Char}
    (accounts : Accounts lines (c :: line) text) (inside : isTerminator c = false) : Accounts lines line (c :: text) := by
  obtain ⟨le, lost⟩ := accounts
  simp only [weight_cons, List.mem_cons] at le lost
  refine ⟨?_, ?_⟩ <;> rw [weight_cons, List.countP_cons, inside, if_neg Bool.false_ne_true]
  · omega
  · intro member
    have before : ('\\' = c ∨ '\\' ∈ line) ∨ '\\' ∈ text := by
      rcases member with inLine | inText
      · exact .inl (.inr inLine)
      · rcases List.mem_cons.mp inText with same | later
        · exact .inl (.inl same)
        · exact .inr later
    rcases lost before with kept | less
    · exact .inl kept
    · exact .inr (by omega)

theorem Accounts.close {lines : List (List Char)} {text : List Char} (accounts : Accounts lines [] text)
    (line : List Char) {c : Char} (ends : isTerminator c = true) :
    Accounts (Properties.emit line ++ lines) line (c :: text) := by
  have le := accounts.le
  have sum : ((Properties.emit line ++ lines).map weight).sum = weight line + (lines.map weight).sum := by
    rw [List.map_append, List.sum_append, weight_emit]
  rw [weight_nil] at le
  refine ⟨?_, ?_⟩ <;> rw [sum, weight_cons, List.countP_cons, ends, counted_of_isTerminator ends, if_pos rfl]
  · omega
  · intro member
    rcases member with inLine | inText
    · obtain ⟨logical, emitted, inside⟩ := exists_mem_emit inLine
      exact .inl ⟨logical, List.mem_append_left _ emitted, inside⟩
    · rcases List.mem_cons.mp inText with rfl | later
      · cases ends
      · rcases accounts.lost (.inr later) with ⟨logical, kept, inside⟩ | less
        · exact .inl ⟨logical, List.mem_append_right _ kept, inside⟩
        · rw [weight_nil] at less
          exact .inr (by omega)

theorem Accounts.unescape {lines : List (List Char)} {before text : List Char} (accounts : Accounts lines before text) :
    Accounts lines ('\\' :: before) text := by
  have le := accounts.le
  have counts : counted '\\'.toNat = true := rfl
  refine ⟨?_, fun _ => .inr ?_⟩ <;> rw [weight_cons, counts, if_pos rfl] <;> omega

theorem accounts_logicalLines (mode : Mode) (line text : List Char)
    (well : ∀ escaped, mode = .line escaped → escaped = true → ∃ before, line = '\\' :: before) :
    Accounts (logicalLines mode line text) line text := by
  fun_induction logicalLines mode line text with
  | case1 line =>
    obtain ⟨before, rfl⟩ := well true rfl rfl
    apply Accounts.unescape
    refine ⟨by simp [weight_reverse], ?_⟩
    intro member
    rcases member with inLine | inText
    · exact .inl ⟨before.reverse, List.mem_singleton_self _, List.mem_reverse.mpr inLine⟩
    · cases inText
  | case2 line => exact .emit line
  | case3 _ line => exact .emit line
  | case4 line => exact .weaken ⟨Nat.le_refl _, by simp⟩ line
  | case5 line => exact .weaken ⟨Nat.le_refl _, by simp⟩ line
  | case6 line c rest _ ih => exact ((ih (by simp)).weaken line).drop c
  | case7 line c rest _ _ ih => exact ((ih (by simp)).weaken line).drop c
  | case8 line c rest blank _ ih =>
    have inside : isTerminator c = false := by
      simp only [Bool.or_eq_true, not_or, Bool.not_eq_true] at blank
      exact blank.2
    refine ((ih ?_).keep inside).weaken line
    rintro escaped same rfl
    have : c = '\\' := by simpa using same
    exact ⟨[], by rw [this]⟩
  | case9 line c rest _ ih => exact ((ih (by simp)).weaken line).drop c
  | case10 line c rest _ ih => exact ((ih (by simp)).weaken line).drop c
  | case11 line c rest _ ih =>
    obtain ⟨before, rfl⟩ := well true rfl rfl
    exact ((ih (by simp)).drop c).unescape
  | case12 escaped line c rest ends _ ih => exact (ih (by simp)).close line ends
  | case13 escaped line c rest inside ih =>
    refine (ih ?_).keep (by simpa using inside)
    rintro after same rfl
    have : c = '\\' ∧ escaped = false := by simpa using same
    exact ⟨line, by rw [this.1]⟩
  | case14 _ line c rest _ ih => exact (ih (by simp)).drop c
  | case15 _ line c rest _ ends ih => exact (ih (by simp)).close line ends
  | case16 _ line c rest _ inside ih =>
    refine (ih ?_).keep (by simpa using inside)
    rintro after same rfl
    have : c = '\\' := by simpa using same
    exact ⟨line, by rw [this]⟩

/-- The entries of a text, and its terminators, need all of it and more where it has a
backslash. -/
theorem weight_load {text : List Char} {entries : List (String × String)} (loads : load text = some entries) :
    (entries.map fun entry => weight entry.1.toList + weight entry.2.toList).sum + text.countP isTerminator ≤
        weight text ∧
      ('\\' ∈ text → (entries.map fun entry => weight entry.1.toList + weight entry.2.toList).sum +
        text.countP isTerminator < weight text) := by
  obtain ⟨le, lost⟩ := accounts_logicalLines .start [] text (by simp)
  have each : ∀ lines : List (List Char), ∀ entries, lines.mapM entryOf = some entries →
      (entries.map fun entry => weight entry.1.toList + weight entry.2.toList).sum ≤ (lines.map weight).sum ∧
      ((∃ logical ∈ lines, '\\' ∈ logical) →
        (entries.map fun entry => weight entry.1.toList + weight entry.2.toList).sum < (lines.map weight).sum) := by
    intro lines
    induction lines with
    | nil => intro entries same; cases same; simp
    | cons line rest ih =>
      intro entries same
      rw [List.mapM_cons] at same
      obtain ⟨entry, isEntry, later⟩ := Option.bind_eq_some_iff.mp same
      obtain ⟨others, areOthers, isCons⟩ := Option.bind_eq_some_iff.mp later
      cases isCons
      obtain ⟨firstLe, firstLost⟩ := weight_entryOf isEntry
      obtain ⟨restLe, restLost⟩ := ih others areOthers
      simp only [List.map_cons, List.sum_cons]
      refine ⟨by omega, ?_⟩
      rintro ⟨logical, member, backslash⟩
      rcases List.mem_cons.mp member with rfl | inRest
      · have := firstLost backslash
        omega
      · have := restLost ⟨logical, inRest, backslash⟩
        omega
  obtain ⟨eachLe, eachLost⟩ := each _ _ loads
  rw [weight_nil] at le lost
  refine ⟨by omega, fun member => ?_⟩
  rcases lost (.inr member) with inLine | less
  · have := eachLost inLine
    omega
  · omega

end Weight

end Zms.Text.Properties
