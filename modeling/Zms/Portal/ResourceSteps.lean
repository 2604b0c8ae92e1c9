import Zms.Portal.Resources
import Zms.Transition.Stepwise

/-! The requests of a call as the steps of a program that can end before each of them. -/

set_option autoImplicit false

namespace Zms.Portal.Resources

open Zms.Transition Zms.Transition.Throwing

/-- What the requests of a call change. -/
structure Rows where
  db : Database
  nodes : Nodes

def State.rows (s : State) : Rows := ⟨s.db, s.nodes⟩

def asking : Asking State Rows where
  rows := State.rows
  put s r := { s with db := r.db, nodes := r.nodes }
  answers := State.answers
  next s := { s with answers := fun n => s.answers (n + 1) }
  rows_put _ _ := rfl
  answers_put _ _ := rfl
  rows_next _ := rfl
  answers_next _ _ := rfl

def statement (change : Database → Option Database) : Step Rows :=
  some fun r => (change r.db).map fun db => { r with db }

theorem request_eq : request = asking.ask := rfl

theorem execute_eq (change : Database → Option Database) : execute change = asking.perform [statement change] := by
  unfold execute statement Asking.perform
  rw [request_eq]
  congr 1
  funext _ s
  show (ofOption (change s.db) >>= _) s = (ofOption ((change s.db).map _) >>= _) s
  cases change s.db <;> rfl

theorem when_eq {condition : Prop} [Decidable condition] {body : Call Unit} {steps : List (Step Rows)}
    (same : body = asking.perform steps) : when condition body = asking.perform (if condition then steps else []) := by
  unfold Throwing.when
  split
  · exact same
  · rfl

/-! ### One request -/

section Request
variable {s : State}

theorem request_of_answered (answered : s.answers 0 = true) :
    request s = (some (), { s with answers := fun n => s.answers (n + 1) }) :=
  Asking.ask_eq_of_answered (A := asking) answered

theorem request_of_refused (refused : s.answers 0 = false) :
    request s = (none, { s with answers := fun n => s.answers (n + 1) }) :=
  Asking.ask_eq_of_refused (A := asking) refused

theorem query_of_answered {α : Type} {select : Database → α} (answered : s.answers 0 = true) :
    query select s = (some (select s.db), { s with answers := fun n => s.answers (n + 1) }) :=
  bind_of_returns (request_of_answered answered)

theorem query_of_refused {α : Type} {select : Database → α} (refused : s.answers 0 = false) :
    query select s = (none, { s with answers := fun n => s.answers (n + 1) }) :=
  bind_of_throws (request_of_refused refused)

theorem execute_of_refused {change : Database → Option Database} (refused : s.answers 0 = false) :
    execute change s = (none, { s with answers := fun n => s.answers (n + 1) }) :=
  bind_of_throws (request_of_refused refused)

theorem execute_of_answered {change : Database → Option Database} (answered : s.answers 0 = true) :
    execute change s = match change s.db with
      | none => (none, { s with answers := fun n => s.answers (n + 1) })
      | some db => (some (), { s with db, answers := fun n => s.answers (n + 1) }) := by
  unfold execute
  rw [bind_of_returns (request_of_answered answered)]
  change (ofOption (change s.db) >>= _) _ = _
  cases change s.db <;> rfl

theorem writeInfo_of_answered {env : EnvId} {type : ZmsType} {name : String} {data : Properties}
    (answered : s.answers 0 = true) : writeInfo env type name (some data) s =
      (some (), { s with nodes := s.nodes.put env type name (some data), answers := fun n => s.answers (n + 1) }) := by
  unfold writeInfo
  rw [ofOption_bind, bind_of_returns (request_of_answered answered)]
  rfl

theorem writeInfo_of_refused {env : EnvId} {type : ZmsType} {name : String} {data : Properties}
    (refused : s.answers 0 = false) :
    writeInfo env type name (some data) s = (none, { s with answers := fun n => s.answers (n + 1) }) := by
  unfold writeInfo
  rw [ofOption_bind, bind_of_throws (request_of_refused refused)]

theorem ends_execute_returns (change : Database → Option Database) (s : State) :
    Ends (execute change) s fun answer t => t.nodes = s.nodes ∧ (answer = some () → change s.db = some t.db) := by
  constructor
  cases answered : s.answers 0 with
  | false =>
    rw [execute_of_refused answered]
    refine ⟨rfl, ?_⟩
    intro impossible
    cases impossible
  | true =>
    rw [execute_of_answered answered]
    cases changed : change s.db with
    | none =>
      refine ⟨rfl, ?_⟩
      intro impossible
      cases impossible
    | some db => exact ⟨rfl, fun _ => rfl⟩

end Request

end Zms.Portal.Resources
