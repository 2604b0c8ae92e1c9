import Mathlib

/-! Texts as sequences of UTF-16 code units, and the order in which `String.compareTo` puts
them. -/

set_option autoImplicit false

namespace Zms.Text

/-- One code unit, or a surrogate pair. -/
def utf16OfChar (c : Char) : List ℕ :=
  if c.toNat < 0x10000 then [c.toNat]
  else [0xD800 + (c.toNat - 0x10000) / 0x400, 0xDC00 + (c.toNat - 0x10000) % 0x400]

def utf16 (text : String) : List ℕ := text.toList.flatMap utf16OfChar

theorem utf16OfChar_append_inj {c d : Char} {rest rest' : List ℕ}
    (same : utf16OfChar c ++ rest = utf16OfChar d ++ rest') : c = d ∧ rest = rest' := by
  have scalar : ∀ e : Char, e.toNat < 0xD800 ∨ (0xDFFF < e.toNat ∧ e.toNat < 0x110000) := fun e => e.valid
  have validC := scalar c
  have validD := scalar d
  suffices c.toNat = d.toNat ∧ rest = rest' from ⟨Char.toNat_inj.mp this.1, this.2⟩
  unfold utf16OfChar at same
  split at same
  · split at same
    · simpa using same
    · obtain ⟨head, -⟩ := List.cons.inj same
      omega
  · split at same
    · obtain ⟨head, -⟩ := List.cons.inj same
      omega
    · obtain ⟨high, tail⟩ := List.cons.inj same
      obtain ⟨low, rests⟩ := List.cons.inj tail
      exact ⟨by omega, rests⟩

theorem utf16_injective : Function.Injective utf16 := by
  intro a b same
  apply String.toList_injective
  unfold utf16 at same
  generalize a.toList = cs at same
  generalize b.toList = ds at same
  have nonempty : ∀ c, utf16OfChar c ≠ [] := by
    intro c
    unfold utf16OfChar
    split <;> exact List.cons_ne_nil _ _
  induction cs generalizing ds with
  | nil =>
    cases ds with
    | nil => rfl
    | cons d rest => exact absurd (List.append_eq_nil_iff.mp same.symm).1 (nonempty d)
  | cons c rest ih =>
    cases ds with
    | nil => exact absurd (List.append_eq_nil_iff.mp same).1 (nonempty c)
    | cons d rest' =>
      obtain ⟨rfl, rests⟩ := utf16OfChar_append_inj same
      rw [ih _ rests]

/-- The order of `String.compareTo`. -/
@[reducible] def compareTo : LinearOrder String where
  le a b := utf16 a ≤ utf16 b
  lt a b := utf16 a < utf16 b
  le_refl a := le_refl (utf16 a)
  le_trans _ _ _ first second := le_trans (α := List ℕ) first second
  lt_iff_le_not_ge a b := lt_iff_le_not_ge (a := utf16 a) (b := utf16 b)
  le_antisymm _ _ first second := utf16_injective (le_antisymm (α := List ℕ) first second)
  le_total a b := le_total (utf16 a) (utf16 b)
  toDecidableLE a b := inferInstanceAs (Decidable (utf16 a ≤ utf16 b))
  toDecidableEq := instDecidableEqString
  toMin := ⟨fun a b => if utf16 a ≤ utf16 b then a else b⟩
  toMax := ⟨fun a b => if utf16 a ≤ utf16 b then b else a⟩
  toOrd := ⟨fun a b => if utf16 a < utf16 b then .lt else if a = b then .eq else .gt⟩
  min_def _ _ := rfl
  max_def _ _ := rfl
  compare_eq_compareOfLessAndEq _ _ := rfl

end Zms.Text
