import Mathlib

/-! Programs over a state that throw exceptions of several kinds and catch some of
them, with rules for the kinds that leave a program.

What a program has done when it throws stays done.
-/

set_option autoImplicit false

namespace Zms.Transition

/-- The answer or the exception, and the state it leaves. -/
def Catching (E S α : Type) : Type := S → Except E α × S

namespace Catching

variable {E S α β : Type}

protected def pure (a : α) : Catching E S α := fun s => (.ok a, s)

protected def bind (first : Catching E S α) (next : α → Catching E S β) : Catching E S β := fun s =>
  match first s with
  | (.ok a, t) => next a t
  | (.error e, t) => (.error e, t)

instance : Monad (Catching E S) where
  pure := Catching.pure
  bind := Catching.bind

def get : Catching E S S := fun s => (.ok s, s)

def modify (change : S → S) : Catching E S Unit := fun s => (.ok (), change s)

/-- A call that answers or throws. -/
def call (answer : Except E α) : Catching E S α := fun s => (answer, s)

/-- Follow a reference; `e` where it is null. -/
def nonNull (e : E) : Option α → Catching E S α
  | none => call (.error e)
  | some a => Catching.pure a

/-- The handler runs on the exceptions that the clause names. -/
def catching (clause : E → Bool) (body handler : Catching E S α) : Catching E S α := fun s =>
  match body s with
  | (.ok a, t) => (.ok a, t)
  | (.error e, t) => if clause e then handler t else (.error e, t)

def forEach (body : α → Catching E S Unit) : List α → Catching E S Unit
  | [] => Catching.pure ()
  | a :: rest => (body a).bind fun _ => forEach body rest

/-- The answers of the programs, one after the other. -/
def collect (body : α → Catching E S β) : List α → Catching E S (List β)
  | [] => Catching.pure []
  | a :: rest => (body a).bind fun b => (collect body rest).bind fun others => Catching.pure (b :: others)

theorem forEach_cons (body : α → Catching E S Unit) (a : α) (rest : List α) :
    forEach body (a :: rest) = body a >>= fun _ => forEach body rest := rfl

protected theorem id_map (program : Catching E S α) : id <$> program = program := by
  funext s
  change Catching.bind program Catching.pure s = program s
  unfold Catching.bind
  cases program s with
  | mk answer t => cases answer <;> rfl

protected theorem bind_assoc {γ : Type} (first : Catching E S α) (next : α → Catching E S β)
    (last : β → Catching E S γ) : first >>= next >>= last = first >>= fun a => next a >>= last := by
  funext s
  change Catching.bind (Catching.bind first next) last s = Catching.bind first (fun a => Catching.bind (next a) last) s
  unfold Catching.bind
  cases first s with
  | mk answer t => cases answer <;> rfl

instance : LawfulMonad (Catching E S) :=
  LawfulMonad.mk' _ Catching.id_map (fun _ _ => rfl) Catching.bind_assoc

/-- The program started in the state ends without an exception. -/
def Returns (program : Catching E S α) (s : S) : Prop := ∃ a, (program s).1 = .ok a

/-- Only allowed exceptions leave the program. -/
def Raises (allowed : E → Prop) (program : Catching E S α) : Prop := ∀ s e, (program s).1 = .error e → allowed e

section Returns
variable {first : Catching E S α} {next : α → Catching E S β} {s : S}

@[simp] theorem returns_pure (a : α) : Returns (pure a : Catching E S α) s := ⟨a, rfl⟩

@[simp] theorem returns_modify (change : S → S) : Returns (modify change : Catching E S Unit) s := ⟨(), rfl⟩

@[simp] theorem returns_call (answer : Except E α) :
    Returns (call answer : Catching E S α) s ↔ ∃ a, answer = .ok a := Iff.rfl

@[simp] theorem returns_get_bind (next : S → Catching E S β) : Returns (get >>= next) s ↔ Returns (next s) s := Iff.rfl

@[simp] theorem returns_modify_bind (change : S → S) (next : Unit → Catching E S β) :
    Returns (modify change >>= next) s ↔ Returns (next ()) (change s) := Iff.rfl

@[simp] theorem returns_call_bind (answer : Except E α) (next : α → Catching E S β) :
    Returns (call answer >>= next) s ↔ ∃ a, answer = .ok a ∧ Returns (next a) s := by
  cases answer with
  | ok a =>
    constructor
    · intro returns
      exact ⟨a, rfl, returns⟩
    · rintro ⟨b, same, returns⟩
      cases same
      exact returns
  | error e =>
    constructor
    · rintro ⟨b, absurdity⟩
      cases absurdity
    · rintro ⟨b, absurdity, -⟩
      cases absurdity

@[simp] theorem returns_nonNull_bind (e : E) (reference : Option α) (next : α → Catching E S β) :
    Returns (nonNull e reference >>= next) s ↔ ∃ a, reference = some a ∧ Returns (next a) s := by
  cases reference with
  | none => exact (returns_call_bind (.error e) next).trans (by simp)
  | some a =>
    constructor
    · intro returns
      exact ⟨a, rfl, returns⟩
    · rintro ⟨b, same, returns⟩
      cases same
      exact returns

theorem returns_bind_iff : Returns (first >>= next) s ↔
    ∃ a, (first s).1 = .ok a ∧ Returns (next a) (first s).2 := by
  change (∃ b, (Catching.bind first next s).1 = .ok b) ↔ _
  unfold Catching.bind
  cases result : first s with
  | mk answer t => cases answer <;> simp [Returns]

theorem returns_catching {clause : E → Bool} {body handler : Catching E S α} {allowed : E → Prop}
    (raises : Raises allowed body) (named : ∀ e, allowed e → clause e = true) (handled : ∀ t, Returns handler t)
    (s : S) : Returns (catching clause body handler) s := by
  unfold Returns catching
  cases result : body s with
  | mk answer t =>
    cases answer with
    | ok a => exact ⟨a, rfl⟩
    | error e =>
      have raised : allowed e := raises s e (by rw [result])
      simp only [named e raised, if_true]
      exact handled t

theorem returns_catching_iff {clause : E → Bool} {body : Catching E S Unit} :
    Returns (catching clause body (pure ())) s ↔ ∀ e, (body s).1 = .error e → clause e = true := by
  unfold Returns catching
  cases result : body s with
  | mk answer t =>
    cases answer with
    | ok a => simp
    | error e => by_cases named : clause e = true <;> simp [named, pure, Catching.pure]

end Returns

section Raises
variable {allowed : E → Prop} {first : Catching E S α} {next : α → Catching E S β}

theorem raises_true (program : Catching E S α) : Raises (fun _ => True) program := fun _ _ _ => trivial

theorem raises_pure (a : α) : Raises allowed (pure a : Catching E S α) := by
  intro s e absurdity
  cases absurdity

theorem raises_get : Raises allowed (get : Catching E S S) := by
  intro s e absurdity
  cases absurdity

theorem raises_modify (change : S → S) : Raises allowed (modify change : Catching E S Unit) := by
  intro s e absurdity
  cases absurdity

theorem raises_call {answer : Except E α} (raises : ∀ e, answer = .error e → allowed e) :
    Raises allowed (call answer : Catching E S α) := fun _ e thrown => raises e thrown

theorem raises_nonNull (e : E) (null : allowed e) (reference : Option α) :
    Raises allowed (nonNull e reference : Catching E S α) := by
  intro s raised thrown
  cases reference with
  | none =>
    cases thrown
    exact null
  | some a => cases thrown

theorem Raises.bind (raises : Raises allowed first) (rest : ∀ a, Raises allowed (next a)) :
    Raises allowed (first >>= next) := by
  intro s e thrown
  change (Catching.bind first next s).1 = .error e at thrown
  unfold Catching.bind at thrown
  cases result : first s with
  | mk answer t =>
    rw [result] at thrown
    cases answer with
    | ok a => exact rest a t e thrown
    | error other =>
      cases thrown
      exact raises s e (by rw [result])

theorem Raises.catching {clause : E → Bool} {body handler : Catching E S α} (raises : Raises allowed body)
    (handled : Raises allowed handler) : Raises allowed (catching clause body handler) := by
  intro s e thrown
  unfold Catching.catching at thrown
  cases result : body s with
  | mk answer t =>
    rw [result] at thrown
    cases answer with
    | ok a => cases thrown
    | error other =>
      by_cases named : clause other = true
      · simp only [named, if_true] at thrown
        exact handled t e thrown
      · simp only [named] at thrown
        cases thrown
        exact raises s e (by rw [result])

theorem Raises.forEach {body : α → Catching E S Unit} (raises : ∀ a, Raises allowed (body a)) (items : List α) :
    Raises allowed (forEach body items) := by
  induction items with
  | nil => exact raises_pure ()
  | cons a rest ih => exact (raises a).bind fun _ => ih

end Raises

theorem returns_forEach {body : α → Catching E S Unit} {items : List α} (each : ∀ a ∈ items, ∀ s, Returns (body a) s)
    (s : S) : Returns (forEach body items) s := by
  induction items generalizing s with
  | nil => exact returns_pure ()
  | cons a rest ih =>
    rw [forEach_cons, returns_bind_iff]
    obtain ⟨answer, returned⟩ := each a List.mem_cons_self s
    exact ⟨answer, returned, ih (fun b member => each b (List.mem_cons_of_mem a member)) _⟩

theorem returns_forEach_iff {body : α → Catching E S Unit} {returning : α → Prop}
    (decides : ∀ a s, Returns (body a) s ↔ returning a) (items : List α) (s : S) :
    Returns (forEach body items) s ↔ ∀ a ∈ items, returning a := by
  induction items generalizing s with
  | nil => simp [forEach, Returns, Catching.pure]
  | cons a rest ih =>
    rw [forEach_cons, returns_bind_iff, List.forall_mem_cons, ← decides a s]
    constructor
    · rintro ⟨answer, returned, others⟩
      exact ⟨⟨answer, returned⟩, (ih _).mp others⟩
    · rintro ⟨⟨answer, returned⟩, others⟩
      exact ⟨answer, returned, (ih _).mpr others⟩

theorem returns_bind_iff_left {first : Catching E S α} {next : α → Catching E S β} {s : S}
    (rest : Returns first s → ∀ a t, Returns (next a) t) : Returns (first >>= next) s ↔ Returns first s := by
  rw [returns_bind_iff]
  constructor
  · rintro ⟨a, returned, -⟩
    exact ⟨a, returned⟩
  · intro returns
    obtain ⟨a, returned⟩ := returns
    exact ⟨a, returned, rest ⟨a, returned⟩ a _⟩

end Catching

end Zms.Transition
