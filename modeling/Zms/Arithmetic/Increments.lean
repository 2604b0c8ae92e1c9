import Mathlib

/-! Levels that are recorded with their increase over the level before. -/

set_option autoImplicit false

namespace Zms.Arithmetic

variable {Entry : Type} (increment level : Entry → ℤ)

/-- The newest entry comes first; the first that is recorded has nothing to increase over. -/
inductive Recorded : List Entry → Prop where
  | nil : Recorded []
  | first {entry : Entry} (zero : increment entry = 0) : Recorded [entry]
  | next {entry last : Entry} {earlier : List Entry} (recorded : Recorded (last :: earlier))
      (increase : increment entry = level entry - level last) : Recorded (entry :: last :: earlier)

variable {increment level}

theorem Recorded.sum_increments {entries : List Entry} (recorded : Recorded increment level entries) {last first : Entry}
    (isLast : entries.head? = some last) (isFirst : entries.getLast? = some first) :
    (entries.map increment).sum = level last - level first := by
  induction recorded generalizing last with
  | nil => cases isLast
  | first zero =>
      cases isLast
      have same := Option.some.inj isFirst
      rw [List.map_singleton, List.sum_singleton, zero, ← same]
      exact (Int.sub_self _).symm
  | @next entry before earlier recorded increase ih =>
      cases isLast
      have sum := ih rfl (by rw [← isFirst, List.getLast?_cons_cons])
      rw [List.map_cons, List.sum_cons, sum, increase]
      omega

end Zms.Arithmetic
