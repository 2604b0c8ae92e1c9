import Zms.Transition.Throwing

/-! Programs that take one step after another and ask before each of them.

A refusal leaves the steps taken so far, so the points at which such a program can
end are the prefixes of its steps.
-/

set_option autoImplicit false

namespace Zms.Transition

open Throwing

/-- States with the rows that the steps change, and the answers to the requests to come. -/
structure Asking (S R : Type) where
  rows : S → R
  put : S → R → S
  answers : S → Nat → Bool
  next : S → S
  rows_put : ∀ s r, rows (put s r) = r
  answers_put : ∀ s r, answers (put s r) = answers s
  rows_next : ∀ s, rows (next s) = rows s
  answers_next : ∀ s n, answers (next s) n = answers s (n + 1)

/-- A step that is not there throws without a request. -/
abbrev Step (R : Type) : Type := Option (R → Option R)

/-- The steps one after another; `none` where one of them fails. -/
def applied {R : Type} : List (Step R) → R → Option R
  | [], r => some r
  | none :: _, _ => none
  | some step :: rest, r => (step r).bind (applied rest)

section Applied
variable {R : Type} {first rest : List (Step R)} {r t : R}

theorem applied_append (first rest : List (Step R)) (r : R) :
    applied (first ++ rest) r = (applied first r).bind (applied rest) := by
  induction first generalizing r with
  | nil => rfl
  | cons step later ih =>
    cases step with
    | none => rfl
    | some step =>
      simp only [List.cons_append, applied, ih]
      cases step r <;> rfl

/-- What the steps do when every request is answered: whether they all succeed, and the rows they leave. -/
def finish : List (Step R) → R → Option Unit × R
  | [], r => (some (), r)
  | none :: _, r => (none, r)
  | some step :: rest, r =>
    match step r with
    | none => (none, r)
    | some t => finish rest t

theorem finish_append (done : applied first r = some t) : finish (first ++ rest) r = finish rest t := by
  induction first generalizing r with
  | nil =>
    cases done
    rfl
  | cons step later ih =>
    cases step with
    | none => cases done
    | some step =>
      obtain ⟨u, taken, done⟩ := Option.bind_eq_some_iff.mp done
      simp only [List.cons_append, finish, taken]
      exact ih done

/-- What every step does the steps do together. -/
theorem related_of_applied (rel : R → R → Prop) [IsPreorder R rel] {steps : List (Step R)}
    (each : ∀ step, some step ∈ steps → ∀ u v, step u = some v → rel u v) (done : applied steps r = some t) :
    rel r t := by
  induction steps generalizing r with
  | nil =>
    cases done
    exact refl_of rel _
  | cons step rest ih =>
    cases step with
    | none => cases done
    | some step =>
      obtain ⟨u, taken, later⟩ := Option.bind_eq_some_iff.mp done
      have first := each step List.mem_cons_self r u taken
      exact trans_of rel first (ih (fun other member => each other (List.mem_cons_of_mem _ member)) later)

theorem keeps_of_applied {α : Type} {f : R → α} {steps : List (Step R)}
    (each : ∀ step, some step ∈ steps → ∀ u v, step u = some v → f v = f u) (done : applied steps r = some t) :
    f t = f r :=
  haveI : IsPreorder R fun u v => f v = f u :=
    { refl := fun _ => rfl, trans := fun _ _ _ first second => second.trans first }
  related_of_applied (fun u v => f v = f u) each done

/-- Where the steps taken so far can be taken again without changing anything, starting over ends as
if there had been no stop. -/
theorem finish_again {steps : List (Step R)} {k : Nat} (done : applied (steps.take k) r = some t)
    (again : applied (steps.take k) t = some t) : finish steps t = finish steps r := by
  rw [← List.take_append_drop k steps, finish_append done, finish_append again]

end Applied

namespace Asking

variable {S R : Type} (A : Asking S R)

def ask : Throwing S Unit := fun s => (if A.answers s 0 then some () else none, A.next s)

def perform : List (Step R) → Throwing S Unit
  | [] => pure ()
  | none :: _ => throw
  | some step :: rest => do
      A.ask
      let s ← get
      let r ← ofOption (step (A.rows s))
      modify fun s => A.put s r
      perform rest

/-- The program ends before step `k`, for want of an answer or because the step fails. -/
structure Stops (steps : List (Step R)) (answers : Nat → Bool) (r t : R) (k : Nat) : Prop where
  below : k < steps.length
  done : applied (steps.take k) r = some t
  passed : ∀ i < k, answers i = true
  stops : answers k = true → applied ((steps.drop k).take 1) t = none

/-- A program of steps has taken all of them or stops before one. -/
inductive Ended (steps : List (Step R)) (s : S) : Option Unit × S → Prop where
  | returns {t : S} : applied steps (A.rows s) = some (A.rows t) → (∀ i < steps.length, A.answers s i = true) →
      (∀ n, A.answers t n = A.answers s (steps.length + n)) → Ended steps s (some (), t)
  | throws {t : S} {k : Nat} : Stops steps (A.answers s) (A.rows s) (A.rows t) k → Ended steps s (none, t)

variable {A}

theorem get_bind {α : Type} (rest : S → Throwing S α) (s : S) : (Throwing.get >>= rest) s = rest s s := rfl

theorem ask_eq_of_refused {s : S} (refused : A.answers s 0 = false) : A.ask s = (none, A.next s) := by
  rw [ask, refused]
  rfl

theorem ask_eq_of_answered {s : S} (answered : A.answers s 0 = true) : A.ask s = (some (), A.next s) := by
  rw [ask, answered]
  rfl

theorem perform_cons_of_answered {step : R → Option R} {rest : List (Step R)} {s : S}
    (answered : A.answers s 0 = true) : A.perform (some step :: rest) s =
      match step (A.rows s) with
      | none => (none, A.next s)
      | some r => A.perform rest (A.put (A.next s) r) := by
  rw [perform, bind_of_returns (ask_eq_of_answered answered), get_bind, A.rows_next]
  cases step (A.rows s) <;> rfl

theorem perform_cons_of_refused {step : R → Option R} {rest : List (Step R)} {s : S}
    (refused : A.answers s 0 = false) : A.perform (some step :: rest) s = (none, A.next s) := by
  rw [perform]
  exact bind_of_throws (ask_eq_of_refused refused)

/-- A program that is one step. -/
theorem eq_perform_one {program : Throwing S Unit} {step : R → Option R} {s : S}
    (refused : A.answers s 0 = false → program s = (none, A.next s))
    (fails : A.answers s 0 = true → step (A.rows s) = none → program s = (none, A.next s))
    (takes : A.answers s 0 = true → ∀ r, step (A.rows s) = some r → program s = (some (), A.put (A.next s) r)) :
    program s = A.perform [some step] s := by
  cases asked : A.answers s 0 with
  | false => rw [refused asked, perform_cons_of_refused asked]
  | true =>
    rw [perform_cons_of_answered asked]
    cases taken : step (A.rows s) with
    | none => exact fails asked taken
    | some r => exact takes asked r taken

theorem perform_ended (steps : List (Step R)) (s : S) : A.Ended steps s (A.perform steps s) := by
  induction steps generalizing s with
  | nil =>
    refine .returns rfl (fun i below => absurd below (Nat.not_lt_zero i)) fun n => ?_
    rw [List.length_nil, Nat.zero_add]
  | cons step rest ih =>
    cases step with
    | none =>
      exact .throws (k := 0) ⟨Nat.zero_lt_succ _, rfl, fun i below => absurd below (Nat.not_lt_zero i), fun _ => rfl⟩
    | some step =>
      cases answered : A.answers s 0 with
      | false =>
        rw [perform_cons_of_refused answered]
        refine .throws (k := 0) ⟨Nat.zero_lt_succ _, congrArg some (A.rows_next s).symm,
          fun i below => absurd below (Nat.not_lt_zero i), fun yes => ?_⟩
        rw [answered] at yes
        cases yes
      | true =>
        rw [perform_cons_of_answered answered]
        cases taken : step (A.rows s) with
        | none =>
          refine .throws (k := 0) ⟨Nat.zero_lt_succ _, congrArg some (A.rows_next s).symm,
            fun i below => absurd below (Nat.not_lt_zero i), fun _ => ?_⟩
          show (step (A.rows (A.next s))).bind _ = none
          rw [A.rows_next, taken]
          rfl
        | some r =>
          have later := ih (A.put (A.next s) r)
          have shifted : ∀ n, A.answers (A.put (A.next s) r) n = A.answers s (n + 1) := by
            intro n
            rw [A.answers_put, A.answers_next]
          show A.Ended (some step :: rest) s (A.perform rest (A.put (A.next s) r))
          generalize A.perform rest (A.put (A.next s) r) = ending at later
          cases later with
          | returns all answers left =>
            rw [A.rows_put] at all
            refine .returns ?_ ?_ ?_
            · simp only [applied, taken, Option.bind_some, all]
            · intro i below
              cases i with
              | zero => exact answered
              | succ i => exact (shifted i).symm.trans (answers i (Nat.lt_of_succ_lt_succ below))
            · intro n
              rw [left n, shifted, List.length_cons]
              congr 1
              omega
          | throws stops =>
            rename_i k
            rw [A.rows_put] at stops
            refine .throws (k := k + 1) ⟨Nat.succ_lt_succ stops.below, ?_, ?_, ?_⟩
            · simp only [List.take_succ_cons, applied, taken, Option.bind_some, stops.done]
            · intro i below
              cases i with
              | zero => exact answered
              | succ i => exact (shifted i).symm.trans (stops.passed i (Nat.lt_of_succ_lt_succ below))
            · intro yes
              exact stops.stops ((shifted k).trans yes)

theorem applied_of_perform {steps : List (Step R)} {s t : S} (returns : A.perform steps s = (some (), t)) :
    applied steps (A.rows s) = some (A.rows t) := by
  have ended := perform_ended (A := A) steps s
  rw [returns] at ended
  cases ended with
  | returns all _ _ => exact all

theorem stops_of_perform {steps : List (Step R)} {s t : S} (throws : A.perform steps s = (none, t)) :
    ∃ k, Stops steps (A.answers s) (A.rows s) (A.rows t) k := by
  have ended := perform_ended (A := A) steps s
  rw [throws] at ended
  cases ended with
  | throws stops => exact ⟨_, stops⟩

/-- A step that fails is not got past. -/
theorem Stops.past {steps : List (Step R)} {answers : Nat → Bool} {r t : R} {k m : Nat}
    (stops : Stops steps answers r t k) (answered : answers k = true) (past : k < m) :
    applied (steps.take m) r = none := by
  obtain ⟨j, rfl⟩ : ∃ j, m = k + (1 + j) := ⟨m - k - 1, by omega⟩
  rw [List.take_add, List.take_add, applied_append, stops.done, Option.bind_some, applied_append,
    stops.stops answered]
  rfl

/-- What every step does the program does, however it ends. -/
theorem related_of_perform (rel : R → R → Prop) [IsPreorder R rel] {steps : List (Step R)}
    (each : ∀ step, some step ∈ steps → ∀ u v, step u = some v → rel u v) (s : S) :
    rel (A.rows s) (A.rows (A.perform steps s).2) := by
  have ended := perform_ended (A := A) steps s
  generalize A.perform steps s = ending at ended
  cases ended with
  | returns all _ _ => exact related_of_applied rel each all
  | throws stops =>
    exact related_of_applied rel (fun step member => each step (List.mem_of_mem_take member)) stops.done

/-- With every request answered a program returns when all steps can be taken. -/
theorem returns_iff {steps : List (Step R)} {s : S} (answered : ∀ n, A.answers s n = true) :
    (A.perform steps s).1 = some () ↔ (applied steps (A.rows s)).isSome = true := by
  have ended := perform_ended (A := A) steps s
  generalize A.perform steps s = ending at ended
  cases ended with
  | returns all _ _ => exact iff_of_true rfl (Option.isSome_of_eq_some all)
  | throws stops =>
    refine iff_of_false (fun impossible => by cases impossible) ?_
    have stuck := stops.past (answered _) stops.below
    rw [List.take_length] at stuck
    rw [stuck]
    exact Bool.false_ne_true

/-- With every request answered the program does what `finish` says. -/
theorem perform_finish (steps : List (Step R)) (s : S) (answering : ∀ n, A.answers s n = true) :
    (A.perform steps s).1 = (finish steps (A.rows s)).1 ∧
      A.rows (A.perform steps s).2 = (finish steps (A.rows s)).2 := by
  induction steps generalizing s with
  | nil => exact ⟨rfl, rfl⟩
  | cons step rest ih =>
    cases step with
    | none => exact ⟨rfl, rfl⟩
    | some step =>
      rw [perform_cons_of_answered (answering 0), finish]
      cases step (A.rows s) with
      | none => exact ⟨rfl, A.rows_next s⟩
      | some r =>
        have later := ih (A.put (A.next s) r) fun n => by rw [A.answers_put, A.answers_next, answering]
        rwa [A.rows_put] at later

theorem perform_append (first rest : List (Step R)) :
    A.perform (first ++ rest) = A.perform first >>= fun _ => A.perform rest := by
  induction first with
  | nil => rfl
  | cons step later ih =>
    cases step with
    | none => rfl
    | some step =>
      simp only [List.cons_append, perform, ih, bind_assoc]

/-- What neither asking nor the rows have to do with. -/
theorem respects_perform (rel : S → S → Prop) [IsPreorder S rel] (next : ∀ s, rel s (A.next s))
    (put : ∀ s r, rel s (A.put s r)) (steps : List (Step R)) : Respects rel (A.perform steps) := by
  induction steps with
  | nil => exact respects_pure ()
  | cons step rest ih =>
    cases step with
    | none => exact respects_throw
    | some step =>
      exact Respects.bind ⟨next⟩ fun _ => respects_get.bind fun _ => (respects_ofOption _).bind fun r =>
        Respects.bind ⟨fun s => put s r⟩ fun _ => ih

/-- What goes on by steps after the first ones are taken. -/
theorem bind_eq_perform {first : Throwing S Unit} {next : Unit → Throwing S Unit} {steps rest : List (Step R)} {s : S}
    (one : first s = A.perform steps s)
    (more : ∀ t, A.perform steps s = (some (), t) → next () t = A.perform rest t) :
    (first >>= next) s = A.perform (steps ++ rest) s := by
  rw [perform_append]
  cases ends : A.perform steps s with
  | mk answer t =>
    rw [ends] at one
    cases answer with
    | none => rw [bind_of_throws ends, bind_of_throws one]
    | some _ => rw [bind_of_returns ends, bind_of_returns one, more t ends]

theorem forEach_perform {α : Type} {body : α → Throwing S Unit} {steps : α → List (Step R)}
    (each : ∀ a, body a = A.perform (steps a)) (items : List α) :
    forEach body items = A.perform (items.flatMap steps) := by
  induction items with
  | nil => rfl
  | cons a rest ih => rw [forEach_cons, each, ih, List.flatMap_cons, perform_append]

end Asking

end Zms.Transition
