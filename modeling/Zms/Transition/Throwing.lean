import Mathlib

/-! Programs over a state that may throw, with rules for every way they can end.

What a program has done when it throws stays done, unless it is a transaction.
-/

set_option autoImplicit false

namespace Zms.Transition

/-- The answer, `none` when it throws, and the state it leaves. -/
def Throwing (S α : Type) : Type := S → Option α × S

namespace Throwing

variable {S α β : Type}

protected def pure (a : α) : Throwing S α := fun s => (some a, s)

protected def bind (first : Throwing S α) (next : α → Throwing S β) : Throwing S β := fun s =>
  match first s with
  | (some a, t) => next a t
  | (none, t) => (none, t)

instance : Monad (Throwing S) where
  pure := Throwing.pure
  bind := Throwing.bind

def throw : Throwing S α := fun s => (none, s)

def get : Throwing S S := fun s => (some s, s)

def modify (change : S → S) : Throwing S Unit := fun s => (some (), change s)

/-- Throws where there is no value. -/
def ofOption (a : Option α) : Throwing S α := fun s => (a, s)

def ensure (condition : Prop) [Decidable condition] : Throwing S Unit := fun s =>
  (if condition then some () else none, s)

def when (condition : Prop) [Decidable condition] (body : Throwing S Unit) : Throwing S Unit :=
  if condition then body else Throwing.pure ()

/-- Catches the exception; `none` tells that there was one. -/
def attempt (body : Throwing S α) : Throwing S (Option α) := fun s => (some (body s).1, (body s).2)

/-- What `rollback` takes back is as it was when the program throws. -/
def transaction (rollback : S → S → S) (body : Throwing S α) : Throwing S α := fun s =>
  match body s with
  | (some a, t) => (some a, t)
  | (none, t) => (none, rollback s t)

def forEach (body : α → Throwing S Unit) : List α → Throwing S Unit
  | [] => Throwing.pure ()
  | a :: rest => (body a).bind fun _ => forEach body rest

theorem bind_of_returns {first : Throwing S α} {next : α → Throwing S β} {s t : S} {a : α}
    (returns : first s = (some a, t)) : (first >>= next) s = next a t := by
  change Throwing.bind first next s = next a t
  unfold Throwing.bind
  rw [returns]

theorem bind_of_throws {first : Throwing S α} {next : α → Throwing S β} {s t : S}
    (throws : first s = (none, t)) : (first >>= next) s = (none, t) := by
  change Throwing.bind first next s = (none, t)
  unfold Throwing.bind
  rw [throws]

theorem ofOption_bind (a : α) (next : α → Throwing S β) (s : S) : (ofOption (some a) >>= next) s = next a s := rfl

theorem modify_bind (change : S → S) (next : Unit → Throwing S β) (s : S) :
    (modify change >>= next) s = next () (change s) := rfl

theorem ensure_bind {condition : Prop} [Decidable condition] (holds : condition) (next : Unit → Throwing S β) (s : S) :
    (ensure condition >>= next) s = next () s := by
  apply bind_of_returns
  unfold ensure
  rw [if_pos holds]

theorem ensure_bind_of_not {condition : Prop} [Decidable condition] (fails : ¬condition) (next : Unit → Throwing S β)
    (s : S) : (ensure condition >>= next) s = (none, s) := by
  apply bind_of_throws
  unfold ensure
  rw [if_neg fails]

theorem when_of {condition : Prop} [Decidable condition] (holds : condition) (body : Throwing S Unit) :
    when condition body = body := if_pos holds

theorem when_of_not {condition : Prop} [Decidable condition] (fails : ¬condition) (body : Throwing S Unit) :
    when condition body = Throwing.pure () := if_neg fails

theorem bind_assoc {γ : Type} (first : Throwing S α) (next : α → Throwing S β) (last : β → Throwing S γ) :
    first >>= next >>= last = first >>= fun a => next a >>= last := by
  funext s
  change Throwing.bind (Throwing.bind first next) last s = Throwing.bind first (fun a => Throwing.bind (next a) last) s
  unfold Throwing.bind
  cases first s with
  | mk answer t => cases answer <;> rfl

theorem forEach_cons (body : α → Throwing S Unit) (a : α) (rest : List α) :
    forEach body (a :: rest) = body a >>= fun _ => forEach body rest := rfl

/-- What holds of the answer and the state at the end. -/
structure Ends (program : Throwing S α) (s : S) (post : Option α → S → Prop) : Prop where
  holds : post (program s).1 (program s).2

section Ends
variable {first body : Throwing S α} {next : α → Throwing S β} {s : S}

theorem Ends.imp {mid post : Option α → S → Prop} (ends : Ends first s mid)
    (weaken : ∀ a t, mid a t → post a t) : Ends first s post := ⟨weaken _ _ ends.holds⟩

theorem ends_pure {a : α} {post : Option α → S → Prop} (holds : post (some a) s) :
    Ends (pure a : Throwing S α) s post := ⟨holds⟩

theorem Ends.bind {P : Option α → S → Prop} {Q : Option β → S → Prop} (ends : Ends first s P)
    (throws : ∀ t, P none t → Q none t) (returns : ∀ a t, P (some a) t → Ends (next a) t Q) :
    Ends (first >>= next) s Q := by
  have holds := ends.holds
  constructor
  change Q (Throwing.bind first next s).1 (Throwing.bind first next s).2
  unfold Throwing.bind
  cases result : first s with
  | mk answer t =>
      rw [result] at holds
      cases answer with
      | none => exact throws t holds
      | some a => exact (returns a t holds).holds

theorem ends_get_bind {next : S → Throwing S β} {post : Option β → S → Prop} (rest : Ends (next s) s post) :
    Ends (get >>= next) s post := ⟨rest.holds⟩

theorem ends_ofOption_bind {a : Option α} {Q : Option β → S → Prop} (throws : a = none → Q none s)
    (returns : ∀ value, a = some value → Ends (next value) s Q) : Ends (ofOption a >>= next) s Q := by
  cases a with
  | none => exact ⟨throws rfl⟩
  | some value => exact ⟨(returns value rfl).holds⟩

theorem ends_ensure_bind {condition : Prop} [Decidable condition] {next : Unit → Throwing S β}
    {Q : Option β → S → Prop} (fails : ¬condition → Q none s) (passes : condition → Ends (next ()) s Q) :
    Ends (ensure condition >>= next) s Q := by
  by_cases holds : condition
  · apply Ends.bind (P := fun a t => a = some () ∧ t = s) ⟨if_pos holds, rfl⟩
    · intro t impossible
      cases impossible.1
    · intro _ t same
      rw [same.2]
      exact passes holds
  · apply Ends.bind (P := fun a t => a = none ∧ t = s) ⟨if_neg holds, rfl⟩
    · intro t same
      rw [same.2]
      exact fails holds
    · intro _ t impossible
      cases impossible.1

end Ends

/-- The state at the end is in the relation to the one at the start, whichever way
the program ends. -/
structure Respects (R : S → S → Prop) (program : Throwing S α) : Prop where
  related : ∀ s, R s (program s).2

section Respects
variable {R : S → S → Prop} {first body : Throwing S α} {next : α → Throwing S β}

theorem Respects.ends (respects : Respects R body) (s : S) : Ends body s fun _ t => R s t := ⟨respects.related s⟩

theorem respects_of_ends (ends : ∀ s, Ends body s fun _ t => R s t) : Respects R body := ⟨fun s => (ends s).holds⟩

theorem Respects.attempt (respects : Respects R body) : Respects R (attempt body) := ⟨respects.related⟩

theorem Respects.imp {R' : S → S → Prop} (respects : Respects R body) (weaken : ∀ s t, R s t → R' s t) :
    Respects R' body := ⟨fun s => weaken _ _ (respects.related s)⟩

variable [IsPreorder S R]

/-- What leaves the state as it is. -/
theorem respects_of_unchanged (unchanged : ∀ s, (body s).2 = s) : Respects R body :=
  ⟨fun s => by rw [unchanged s]; exact refl_of R s⟩

theorem respects_pure (a : α) : Respects R (pure a : Throwing S α) := respects_of_unchanged fun _ => rfl

theorem respects_throw : Respects R (throw : Throwing S α) := respects_of_unchanged fun _ => rfl

theorem respects_get : Respects R (get : Throwing S S) := respects_of_unchanged fun _ => rfl

theorem respects_ofOption (a : Option α) : Respects R (ofOption a : Throwing S α) := respects_of_unchanged fun _ => rfl

theorem respects_ensure (condition : Prop) [Decidable condition] :
    Respects R (ensure condition : Throwing S Unit) := respects_of_unchanged fun _ => rfl

theorem Respects.bind (respects : Respects R first) (rest : ∀ a, Respects R (next a)) : Respects R (first >>= next) :=
  ⟨fun s => (Ends.bind (Q := fun _ t => R s t) (respects.ends s) (fun _ related => related)
    fun a t related => ⟨trans_of R related ((rest a).related t)⟩).holds⟩

theorem respects_ofOption_bind {a : Option α} (rest : ∀ value, a = some value → Respects R (next value)) :
    Respects R (ofOption a >>= next) :=
  ⟨fun s => (ends_ofOption_bind (Q := fun _ t => R s t) (fun _ => refl_of R s)
    fun value known => (rest value known).ends s).holds⟩

theorem respects_ensure_bind {condition : Prop} [Decidable condition] {next : Unit → Throwing S β}
    (rest : condition → Respects R (next ())) : Respects R (ensure condition >>= next) :=
  ⟨fun s => (ends_ensure_bind (Q := fun _ t => R s t) (fun _ => refl_of R s)
    fun holds => (rest holds).ends s).holds⟩

theorem Respects.when {condition : Prop} [Decidable condition] {body : Throwing S Unit}
    (respects : condition → Respects R body) : Respects R (when condition body) := by
  unfold Throwing.when
  split
  · next holds => exact respects holds
  · exact respects_pure ()

theorem Respects.forEach {body : α → Throwing S Unit} {items : List α}
    (respects : ∀ a ∈ items, Respects R (body a)) : Respects R (forEach body items) := by
  induction items with
  | nil => exact respects_pure ()
  | cons a rest ih =>
      apply Respects.bind (respects a List.mem_cons_self)
      intro _
      exact ih fun b member => respects b (List.mem_cons_of_mem a member)

end Respects

/-- Wherever the relation has led from `s`, the rest of the program ends as `post` says. -/
structure EndsFrom (R : S → S → Prop) (s : S) (program : Throwing S α) (post : S → Prop) : Prop where
  ends : ∀ t, R s t → Ends program t fun _ u => post u

section EndsFrom
variable {R : S → S → Prop} {s : S} {first : Throwing S α} {next : α → Throwing S β} {post : S → Prop}

theorem EndsFrom.weaken {R' : S → S → Prop} {program : Throwing S α} (endsFrom : EndsFrom R s program post)
    (implies : ∀ t, R' s t → R s t) : EndsFrom R' s program post := ⟨fun t led => endsFrom.ends t (implies t led)⟩

/-- A part that respects the relation; it may throw where the relation is enough. -/
theorem EndsFrom.bind [IsPreorder S R] (enough : ∀ t, R s t → post t) (respects : Respects R first)
    (rest : ∀ a, EndsFrom R s (next a) post) : EndsFrom R s (first >>= next) post := by
  constructor
  intro t led
  apply (respects.ends t).bind
  · intro u related
    exact enough u (trans_of R led related)
  · intro a u related
    exact (rest a).ends u (trans_of R led related)

/-- What follows keeps what has been reached. -/
theorem EndsFrom.andThen (endsFrom : EndsFrom R s first post) (respects : ∀ a, Respects R (next a))
    (stable : ∀ t u, post t → R t u → post u) : EndsFrom R s (first >>= next) post := by
  constructor
  intro t led
  apply (endsFrom.ends t led).bind
  · intro u reached
    exact reached
  · intro a u reached
    exact ⟨stable u _ reached ((respects a).related u)⟩

theorem endsFrom_ofOption_bind (enough : ∀ t, R s t → post t) {a : Option α}
    (rest : ∀ value, a = some value → EndsFrom R s (next value) post) : EndsFrom R s (ofOption a >>= next) post := by
  constructor
  intro t led
  apply ends_ofOption_bind
  · intro _
    exact enough t led
  · intro value known
    exact (rest value known).ends t led

theorem endsFrom_ensure_bind (enough : ∀ t, R s t → post t) {condition : Prop} [Decidable condition]
    {next : Unit → Throwing S β} (rest : condition → EndsFrom R s (next ()) post) :
    EndsFrom R s (ensure condition >>= next) post := by
  constructor
  intro t led
  apply ends_ensure_bind
  · intro _
    exact enough t led
  · intro holds
    exact (rest holds).ends t led

end EndsFrom

end Throwing

end Zms.Transition
