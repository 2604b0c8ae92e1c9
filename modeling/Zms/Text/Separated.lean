import Mathlib

/-! Texts made of parts with a separator between them, and the characters of a printed
number. -/

set_option autoImplicit false

namespace Zms.Text

theorem append_separator_inj {α : Type} {c : α} {l₁ l₂ r₁ r₂ : List α} (free₁ : c ∉ l₁) (free₂ : c ∉ l₂)
    (same : l₁ ++ c :: r₁ = l₂ ++ c :: r₂) : l₁ = l₂ ∧ r₁ = r₂ := by
  induction l₁ generalizing l₂ with
  | nil =>
    cases l₂ with
    | nil => exact ⟨rfl, (List.cons.inj same).2⟩
    | cons d rest =>
      have head := (List.cons.inj same).1
      exact absurd (head ▸ List.mem_cons_self) free₂
  | cons d rest ih =>
    cases l₂ with
    | nil =>
      have head := (List.cons.inj same).1
      exact absurd (head ▸ List.mem_cons_self) free₁
    | cons d' rest' =>
      obtain ⟨head, tail⟩ := List.cons.inj same
      have free₁' : c ∉ rest := fun member => free₁ (List.mem_cons_of_mem _ member)
      have free₂' : c ∉ rest' := fun member => free₂ (List.mem_cons_of_mem _ member)
      obtain ⟨equal, tails⟩ := ih free₁' free₂' tail
      exact ⟨by rw [head, equal], tails⟩

theorem separated_inj {c : Char} {separator before before' rest rest' : String} (single : separator.toList = [c])
    (free : c ∉ before.toList) (free' : c ∉ before'.toList)
    (same : before ++ separator ++ rest = before' ++ separator ++ rest') : before = before' ∧ rest = rest' := by
  have chars := congrArg String.toList same
  simp only [String.toList_append, single, List.append_assoc, List.singleton_append] at chars
  obtain ⟨befores, rests⟩ := append_separator_inj free free' chars
  exact ⟨String.toList_injective befores, String.toList_injective rests⟩

theorem isDigit_of_mem_repr {n : Nat} {c : Char} (member : c ∈ n.repr.toList) : c.isDigit = true := by
  rw [Nat.repr_eq_ofList_toDigits, String.toList_ofList] at member
  exact Nat.isDigit_of_mem_toDigits (by decide) (by decide) member

theorem of_mem_toString {n : Int} {c : Char} (member : c ∈ (toString n).toList) : c = '-' ∨ c.isDigit = true := by
  cases n with
  | ofNat n => exact .inr (isDigit_of_mem_repr member)
  | negSucc n =>
    have same : (toString (Int.negSucc n)).toList = '-' :: (n.succ.repr).toList := String.toList_append
    rw [same] at member
    obtain minus | digit := List.mem_cons.mp member
    · exact .inl minus
    · exact .inr (isDigit_of_mem_repr digit)

theorem notMem_toString {c : Char} (noMinus : c ≠ '-') (noDigit : c.isDigit = false) (n : Int) :
    c ∉ (toString n).toList := by
  intro member
  rcases of_mem_toString member with minus | digit
  · exact noMinus minus
  · simp [noDigit] at digit

end Zms.Text
