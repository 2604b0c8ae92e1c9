import Mathlib.Logic.Function.Basic
import Mathlib.Tactic

/-! Maps to which values are written one after the other. -/

set_option autoImplicit false

namespace Zms.Registry.Writes

variable {K V : Type} [DecidableEq K]

/-- What the map holds after the writes. -/
def write (entries : K → Option V) (writes : List (K × V)) : K → Option V :=
  writes.foldl (fun entries entry => Function.update entries entry.1 (some entry.2)) entries

/-- The value that was written last. -/
def written : List (K × V) → K → Option V
  | [], _ => none
  | entry :: rest, key => (written rest key).or (if key = entry.1 then some entry.2 else none)

variable {entries : K → Option V} {writes : List (K × V)} {key : K} {value : V}

theorem write_eq (entries : K → Option V) (writes : List (K × V)) (key : K) :
    write entries writes key = (written writes key).or (entries key) := by
  induction writes generalizing entries with
  | nil => rfl
  | cons entry rest ih =>
    rw [write, List.foldl_cons, ← write, ih, written, Option.or_assoc]
    by_cases own : key = entry.1
    · subst own
      rw [Function.update_self, if_pos rfl, Option.some_or]
    · rw [Function.update_of_ne own, if_neg own, Option.none_or]

theorem write_append (entries : K → Option V) (writes later : List (K × V)) :
    write entries (writes ++ later) = write (write entries writes) later := List.foldl_append

theorem isSome_write_iff : (write entries writes key).isSome ↔ (entries key).isSome ∨ (written writes key).isSome := by
  rw [write_eq, Option.isSome_or, Bool.or_eq_true, or_comm]

theorem write_eq_some_iff (held : entries key = some value) :
    write entries writes key = some value ↔ ∀ last, written writes key = some last → last = value := by
  rw [write_eq, held]
  cases written writes key with
  | none => simp
  | some last => simp

theorem update_eq_some_iff {κ ν : Type} [DecidableEq κ] {entries : κ → Option ν} {key other : κ} {new : Option ν}
    {value : ν} : Function.update entries key new other = some value ↔
      (other = key ∧ new = some value) ∨ (other ≠ key ∧ entries other = some value) := by
  by_cases same : other = key
  · subst same
    simp
  · simp [Function.update_of_ne same, same]

end Zms.Registry.Writes
