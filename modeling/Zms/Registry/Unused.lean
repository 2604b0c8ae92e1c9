import Mathlib

/-! Values counted up, with those left out that are taken already. -/

set_option autoImplicit false

namespace Zms.Registry

variable {α : Type} [DecidableEq α] {next : α → α} {taken : List α}

/-- `do x = next(x) while (taken.contains(x))`, for as many rounds as `fuel` allows. -/
def nextUnused (next : α → α) (taken : List α) : ℕ → α → Option α
  | 0, _ => none
  | fuel + 1, x => if next x ∈ taken then nextUnused next taken fuel (next x) else some (next x)

/-- What lies ahead of `x`: the next `room` values are new ones each time, and those among them
that are taken are in `remaining`. -/
structure Ahead (next : α → α) (taken : List α) (x : α) (room : ℕ) (remaining : List α) : Prop where
  distinct : ∀ i j, i < j → j ≤ room → next^[i] x ≠ next^[j] x
  left : ∀ i, 1 ≤ i → i ≤ room → next^[i] x ∈ taken → next^[i] x ∈ remaining

omit [DecidableEq α] in
theorem Ahead.start {x : α} {room : ℕ} (distinct : ∀ i j, i < j → j ≤ room → next^[i] x ≠ next^[j] x) :
    Ahead next taken x room taken :=
  ⟨distinct, fun _ _ _ isTaken => isTaken⟩

omit [DecidableEq α] in
theorem Ahead.pass {x : α} {room : ℕ} {remaining : List α} (ahead : Ahead next taken x (room + 1) remaining) :
    Ahead next taken (next x) room remaining where
  distinct i j before upto := ahead.distinct (i + 1) (j + 1) (by omega) (by omega)
  left i _ upto := ahead.left (i + 1) (by omega) (by omega)

theorem Ahead.skip {x : α} {room : ℕ} {remaining : List α} (ahead : Ahead next taken x (room + 1) remaining)
    (isTaken : next x ∈ taken) :
    Ahead next taken (next x) room (remaining.erase (next x)) ∧
      (remaining.erase (next x)).length + 1 = remaining.length := by
  have inRemaining : next x ∈ remaining := ahead.left 1 le_rfl (by omega) isTaken
  refine ⟨⟨ahead.pass.distinct, ?_⟩, ?_⟩
  · intro i positive upto again
    have differs : next x ≠ next^[i] (next x) := ahead.distinct 1 (i + 1) (by omega) (by omega)
    exact (List.mem_erase_of_ne differs.symm).mpr (ahead.pass.left i positive upto again)
  · rw [List.length_erase_of_mem inRemaining]
    have := List.length_pos_of_mem inRemaining
    omega

/-- The loop ends where there is room for all that are taken, and has then met as many of them
as it took rounds, but for the last. -/
theorem nextUnused_spec {fuel room : ℕ} {x : α} {remaining : List α} (ahead : Ahead next taken x room remaining)
    (enough : remaining.length < fuel) (fits : remaining.length < room) :
    ∃ d remaining', nextUnused next taken fuel x = some (next^[d] x) ∧ 1 ≤ d ∧ d ≤ room ∧ next^[d] x ∉ taken ∧
      Ahead next taken (next^[d] x) (room - d) remaining' ∧ d + remaining'.length = remaining.length + 1 := by
  induction fuel generalizing x room remaining with
  | zero => omega
  | succ fuel ih =>
    obtain ⟨room, rfl⟩ := Nat.exists_eq_add_one.mpr (Nat.zero_lt_of_lt fits)
    unfold nextUnused
    by_cases isTaken : next x ∈ taken
    · obtain ⟨skipped, fewer⟩ := ahead.skip isTaken
      obtain ⟨d, remaining', found, positive, upto, unused, later, met⟩ := ih skipped (by omega) (by omega)
      rw [if_pos isTaken]
      refine ⟨d + 1, remaining', found, by omega, by omega, unused, ?_, by omega⟩
      rwa [Nat.add_sub_add_right]
    · rw [if_neg isTaken]
      exact ⟨1, remaining, rfl, le_rfl, by omega, isTaken, ahead.pass, by omega⟩

end Zms.Registry
