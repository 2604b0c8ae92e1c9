import Zms.Client.Metrics.Distribution
import Zms.Transition.Guarded

/-! Senders mark a producer's distributions while a report replaces and reads them.

A field holds the number of the `Distribution` it refers to, and every reading of a field and
every operation on a counter is a step of its own. Reports come from one timer thread, one at a time.
-/

set_option autoImplicit false

namespace Zms.Client.Metrics

open Zms.Transition

inductive Instr where
  /-- Read the field into the local variable of the report. -/
  | fetch (field : Field)
  /-- Store a `newDistribution` in the field. -/
  | renew (field : Field)
  /-- Read a counter of the local variable's distribution into the report. -/
  | read (field : Field) (bucket : Bucket)
deriving DecidableEq, Repr

def renewDistribution : List Instr := [.renew .distribution, .renew .msgBody]

/-- The counters in the order of `transfer` and of `output`. -/
def transfer (field : Field) : List Instr :=
  [.read field .lessThan1Ms, .read field .lessThan5Ms, .read field .lessThan10Ms, .read field .lessThan50Ms,
    .read field .lessThan100Ms, .read field .lessThan500Ms, .read field .lessThan1000Ms, .read field .moreThan1000Ms]

def output (field : Field) : List Instr := transfer field

def reportMessageStatistics : List Instr :=
  [.fetch .distribution, .fetch .msgBody] ++ renewDistribution ++ transfer .distribution ++ transfer .msgBody

def reportLogStatistics : List Instr :=
  [.fetch .distribution, .fetch .msgBody] ++ renewDistribution ++ output .distribution ++ output .msgBody

/-- The log level `statistics` selects by, as far as the distributions are concerned. -/
inductive Report where
  | message
  | log
deriving DecidableEq, Repr

def Report.instrs : Report → List Instr
  | .message => reportMessageStatistics
  | .log => reportLogStatistics

/-- A call of `markTime` or `markSize` on the distribution a sender has read from the field. -/
structure Mark where
  field : Field
  value : Int
  target : Nat
  counted : Bool
deriving DecidableEq, Repr

def Mark.bucket (mark : Mark) : Bucket := mark.field.mark mark.value

structure State where
  counters : Field → Nat → Bucket → Nat
  current : Field → Nat
  old : Field → Nat
  next : Field → Nat
  todo : List Instr
  reported : Field → Bucket → Nat
  marks : List Mark

def start : State :=
  ⟨fun _ _ _ => 0, fun _ => 0, fun _ => 0, fun _ => 1, [], fun _ _ => 0, []⟩

def Instr.run (s : State) : Instr → State
  | .fetch field => { s with old := Function.update s.old field (s.current field) }
  | .renew field => { s with
      current := Function.update s.current field (s.next field)
      next := Function.update s.next field (s.next field + 1) }
  | .read field bucket => { s with
      reported := fun f b =>
        if f = field ∧ b = bucket then s.reported f b + s.counters f (s.old f) b else s.reported f b }

inductive Action where
  | report (which : Report)
  | instr
  | fetch (field : Field) (value : Int)
  | increment (i : Nat)
deriving DecidableEq, Repr

def State.increment (s : State) (mark : Mark) : Field → Nat → Bucket → Nat := fun f target b =>
  if f = mark.field ∧ target = mark.target ∧ b = mark.bucket then s.counters f target b + 1 else s.counters f target b

/-- Any number of sending threads and the reports of one producer. -/
def producerMetrics : Guarded State Action where
  init s := s = start
  guard s
    | .report _ => s.todo = []
    | .instr => s.todo ≠ []
    | .fetch _ _ => True
    | .increment i => ∃ mark ∈ s.marks[i]?, mark.counted = false
  effect s
    | .report which => { s with todo := which.instrs }
    | .instr =>
      match s.todo with
      | [] => s
      | instr :: rest => instr.run { s with todo := rest }
    | .fetch field value => { s with marks := s.marks ++ [⟨field, value, s.current field, false⟩] }
    | .increment i =>
      match s.marks[i]? with
      | none => s
      | some mark => { s with
          counters := s.increment mark
          marks := s.marks.set i { mark with counted := true } }

instance decidableGuard : ∀ s a, Decidable (producerMetrics.guard s a)
  | s, .report _ => inferInstanceAs (Decidable (s.todo = []))
  | s, .instr => inferInstanceAs (Decidable (s.todo ≠ []))
  | _, .fetch _ _ => inferInstanceAs (Decidable True)
  | s, .increment i => inferInstanceAs (Decidable (∃ mark ∈ s.marks[i]?, mark.counted = false))

/-! ### What is to hold -/

/-- The mark calls that have been counted and whose value lies within the bounds of the bucket. -/
def State.observed (s : State) (field : Field) (bucket : Bucket) : Nat :=
  s.marks.countP fun mark => mark.counted && decide (mark.field = field ∧ field.Contains bucket mark.value)

/-- All mark calls of a field that have been counted. -/
def State.calls (s : State) (field : Field) : Nat :=
  s.marks.countP fun mark => mark.counted && decide (mark.field = field)

/-- No measurement is lost or counted twice, and each is counted in the bucket whose bounds contain it. -/
structure Accounts (s : State) : Prop where
  buckets : ∀ field bucket,
    s.reported field bucket + s.counters field (s.current field) bucket = s.observed field bucket
  total : ∀ field,
    ∑ bucket, (s.reported field bucket + s.counters field (s.current field) bucket) = s.calls field

/-- The report under way is going to read the bucket from the distribution it has replaced. -/
def State.Unread (s : State) (field : Field) (bucket : Bucket) : Prop :=
  .renew field ∉ s.todo ∧ .read field bucket ∈ s.todo

/-- A sender counts before the report that replaces its distribution has read the bucket. -/
def InTime (s : State) : Action → Prop
  | .increment i => ∀ mark ∈ s.marks[i]?, mark.target = s.current mark.field ∨
      mark.target = s.old mark.field ∧ s.Unread mark.field mark.bucket
  | _ => True

/-! ### A report, instruction by instruction -/

theorem instrs_eq (which : Report) : which.instrs = reportMessageStatistics := by
  cases which <;> rfl

/-- What is left of a report. -/
def Left (todo : List Instr) : Prop := todo ∈ reportMessageStatistics.tails

theorem Left.tail {instr : Instr} {rest : List Instr} (left : Left (instr :: rest)) : Left rest := by
  rw [Left, List.mem_tails] at left ⊢
  exact (List.suffix_cons instr rest).trans left

theorem after_fetch : ∀ todo ∈ reportMessageStatistics.tails, ∀ field, todo.head? = some (.fetch field) →
    .renew field ∈ todo.tail := by decide

theorem after_renew : ∀ todo ∈ reportMessageStatistics.tails, ∀ field, todo.head? = some (.renew field) →
    .renew field ∉ todo.tail ∧ .fetch field ∉ todo.tail ∧ ∀ bucket, .read field bucket ∈ todo.tail := by decide

theorem after_read : ∀ todo ∈ reportMessageStatistics.tails, ∀ field bucket, todo.head? = some (.read field bucket) →
    .renew field ∉ todo.tail ∧ .read field bucket ∉ todo.tail := by decide

theorem fetch_mem (field : Field) : .fetch field ∈ reportMessageStatistics := by
  cases field <;> decide

theorem renew_mem (field : Field) : .renew field ∈ reportMessageStatistics := by
  cases field <;> decide

/-! ### The accounts -/

instance decidableUnread (s : State) (field : Field) (bucket : Bucket) : Decidable (s.Unread field bucket) :=
  inferInstanceAs (Decidable (_ ∧ _))

/-- What has been reported, what the current distribution holds, and what the report under way is
going to read. -/
def State.held (s : State) (field : Field) (bucket : Bucket) : Nat :=
  s.reported field bucket + s.counters field (s.current field) bucket +
    if s.Unread field bucket then s.counters field (s.old field) bucket else 0

/-- How the distributions of a field lie while a report is going on. -/
structure Placed (s : State) : Prop where
  left : Left s.todo
  fetched : ∀ field, .fetch field ∉ s.todo → .renew field ∈ s.todo → s.old field = s.current field
  replaced : ∀ field bucket, s.Unread field bucket → s.old field ≠ s.current field
  known : ∀ field, s.old field < s.next field ∧ s.current field < s.next field
  blank : ∀ field target bucket, s.next field ≤ target → s.counters field target bucket = 0

/-- Senders hold distributions that have been stored in the field. -/
def Known (s : State) : Prop := ∀ mark ∈ s.marks, mark.target < s.next mark.field

theorem placed_start : Placed start := by
  refine ⟨(List.mem_tails _ _).mpr List.nil_suffix, ?_, ?_, ?_, fun _ _ _ _ => rfl⟩
  · intro field _ renews
    cases renews
  · intro field bucket unread
    cases unread.2
  · exact fun _ => ⟨Nat.zero_lt_one, Nat.zero_lt_one⟩

section Reporting
variable {s : State}

theorem placed_report (which : Report) (placed : Placed s) : Placed { s with todo := which.instrs } := by
  rw [instrs_eq]
  refine ⟨(List.mem_tails _ _).mpr List.suffix_rfl, ?_, ?_, placed.known, placed.blank⟩
  · intro field notFetched
    exact absurd (fetch_mem field) notFetched
  · intro field bucket unread
    exact absurd (renew_mem field) unread.1

theorem held_report (which : Report) (idle : s.todo = []) (field : Field) (bucket : Bucket) :
    State.held { s with todo := which.instrs } field bucket = s.held field bucket := by
  have begins : ¬ State.Unread { s with todo := which.instrs } field bucket := by
    rw [instrs_eq]
    exact fun unread => unread.1 (renew_mem field)
  have ended : ¬ s.Unread field bucket := by
    intro unread
    rw [State.Unread, idle] at unread
    cases unread.2
  simp only [State.held, if_neg begins, if_neg ended]

variable {rest : List Instr} {field : Field}

theorem placed_fetch (placed : Placed s) (todo : s.todo = .fetch field :: rest) :
    Placed ((Instr.fetch field).run { s with todo := rest }) := by
  obtain ⟨left, fetched, replaced, known, blank⟩ := placed
  rw [todo] at left
  simp only [State.Unread, todo, List.mem_cons, reduceCtorEq, false_or, Instr.fetch.injEq] at fetched replaced
  refine ⟨left.tail, ?_, ?_, ?_, blank⟩
  · intro f notFetched renews
    by_cases same : f = field
    · subst same
      exact Function.update_self ..
    · refine (Function.update_of_ne same ..).trans (fetched f ?_ renews)
      rintro (eq | later)
      · exact same eq
      · exact notFetched later
  · rintro f bucket ⟨notRenewed, reads⟩
    by_cases same : f = field
    · subst same
      exact absurd (after_fetch _ left f rfl) notRenewed
    · have different := replaced f bucket ⟨notRenewed, reads⟩
      exact fun eq => different ((Function.update_of_ne same ..).symm.trans eq)
  · intro f
    refine ⟨?_, (known f).2⟩
    show Function.update s.old field (s.current field) f < s.next f
    by_cases same : f = field
    · subst same
      rw [Function.update_self]
      exact (known f).2
    · rw [Function.update_of_ne same]
      exact (known f).1

theorem held_fetch (placed : Placed s) (todo : s.todo = .fetch field :: rest) (f : Field) (bucket : Bucket) :
    ((Instr.fetch field).run { s with todo := rest }).held f bucket = s.held f bucket := by
  have left := placed.left
  rw [todo] at left
  have same : ((Instr.fetch field).run { s with todo := rest }).Unread f bucket ↔ s.Unread f bucket := by
    simp only [State.Unread, Instr.run, todo, List.mem_cons, reduceCtorEq, false_or]
  by_cases unread : s.Unread f bucket
  · have different : f ≠ field := by
      rintro rfl
      exact (same.mpr unread).1 (after_fetch _ left f rfl)
    simp only [State.held, if_pos unread, if_pos (same.mpr unread)]
    simp only [Instr.run, Function.update_of_ne different]
  · simp only [State.held, if_neg unread, if_neg (mt same.mp unread)]
    rfl

theorem next_run (s : State) (instr : Instr) (f : Field) : s.next f ≤ (instr.run s).next f := by
  cases instr with
  | fetch field => exact le_rfl
  | read field bucket => exact le_rfl
  | renew field =>
    show s.next f ≤ Function.update s.next field (s.next field + 1) f
    by_cases same : f = field
    · subst same
      rw [Function.update_self]
      exact Nat.le_succ _
    · rw [Function.update_of_ne same]

theorem placed_renew (placed : Placed s) (todo : s.todo = .renew field :: rest) :
    Placed ((Instr.renew field).run { s with todo := rest }) := by
  obtain ⟨left, fetched, replaced, known, blank⟩ := placed
  rw [todo] at left
  simp only [State.Unread, todo, List.mem_cons, reduceCtorEq, false_or, Instr.renew.injEq] at fetched replaced
  refine ⟨left.tail, ?_, ?_, ?_, ?_⟩
  · intro f notFetched renews
    have different : f ≠ field := by
      rintro rfl
      exact (after_renew _ left f rfl).1 renews
    exact (fetched f notFetched (.inr renews)).trans (Function.update_of_ne different ..).symm
  · rintro f bucket ⟨notRenewed, reads⟩
    show s.old f ≠ Function.update s.current field (s.next field) f
    by_cases same : f = field
    · subst same
      -- the new distribution is none of those there were
      rw [Function.update_self]
      exact (known f).1.ne
    · rw [Function.update_of_ne same]
      refine replaced f bucket ⟨?_, reads⟩
      rintro (eq | later)
      · exact same eq
      · exact notRenewed later
  · intro f
    show s.old f < Function.update s.next field (s.next field + 1) f ∧
      Function.update s.current field (s.next field) f < Function.update s.next field (s.next field + 1) f
    by_cases same : f = field
    · subst same
      simp only [Function.update_self]
      exact ⟨(known f).1.trans (Nat.lt_succ_self _), Nat.lt_succ_self _⟩
    · simp only [Function.update_of_ne same]
      exact known f
  · intro f target bucket notBelow
    exact blank f target bucket ((next_run { s with todo := rest } (.renew field) f).trans notBelow)

/-- What the field held is now in the distribution to be read, and the new one is empty. -/
theorem held_renew (placed : Placed s) (todo : s.todo = .renew field :: rest) (f : Field) (bucket : Bucket) :
    ((Instr.renew field).run { s with todo := rest }).held f bucket = s.held f bucket := by
  have left := placed.left
  rw [todo] at left
  obtain ⟨notRenewed, notFetched, reads⟩ := after_renew _ left field rfl
  by_cases same : f = field
  · subst same
    have before : ¬ s.Unread f bucket := by
      intro unread
      exact unread.1 (todo ▸ List.mem_cons_self)
    have after : ((Instr.renew f).run { s with todo := rest }).Unread f bucket := ⟨notRenewed, reads bucket⟩
    have isOld : s.old f = s.current f := by
      refine placed.fetched f ?_ (todo ▸ List.mem_cons_self)
      rw [todo]
      intro member
      cases member with
      | tail _ later => exact notFetched later
    simp only [State.held, if_neg before, if_pos after]
    simp only [Instr.run, Function.update_self, isOld, placed.blank f _ bucket le_rfl, Nat.add_zero]
  · have unread : ((Instr.renew field).run { s with todo := rest }).Unread f bucket ↔ s.Unread f bucket := by
      simp only [State.Unread, Instr.run, todo, List.mem_cons, reduceCtorEq, false_or, Instr.renew.injEq, same]
    simp only [State.held, unread]
    simp only [Instr.run, Function.update_of_ne same]

theorem placed_read {bucket : Bucket} (placed : Placed s) (todo : s.todo = .read field bucket :: rest) :
    Placed ((Instr.read field bucket).run { s with todo := rest }) := by
  obtain ⟨left, fetched, replaced, known, blank⟩ := placed
  rw [todo] at left
  simp only [State.Unread, todo, List.mem_cons, reduceCtorEq, false_or] at fetched replaced
  refine ⟨left.tail, fetched, ?_, known, blank⟩
  rintro f b ⟨notRenewed, reads⟩
  exact replaced f b ⟨notRenewed, .inr reads⟩

theorem held_read {bucket : Bucket} (placed : Placed s) (todo : s.todo = .read field bucket :: rest) (f : Field)
    (b : Bucket) : ((Instr.read field bucket).run { s with todo := rest }).held f b = s.held f b := by
  have left := placed.left
  rw [todo] at left
  obtain ⟨notRenewed, notAgain⟩ := after_read _ left field bucket rfl
  by_cases same : f = field ∧ b = bucket
  · obtain ⟨rfl, rfl⟩ := same
    have before : s.Unread f b := by
      rw [State.Unread, todo]
      refine ⟨?_, List.mem_cons_self⟩
      intro member
      cases member with
      | tail _ later => exact notRenewed later
    have after : ¬ ((Instr.read f b).run { s with todo := rest }).Unread f b := fun unread => notAgain unread.2
    simp only [State.held, if_pos before, if_neg after]
    simp only [Instr.run, and_self, if_true]
    omega
  · have unread : ((Instr.read field bucket).run { s with todo := rest }).Unread f b ↔ s.Unread f b := by
      simp only [State.Unread, Instr.run, todo, List.mem_cons, reduceCtorEq, false_or, Instr.read.injEq, same]
    simp only [State.held, unread]
    simp only [Instr.run, same, if_false]

theorem placed_run {instr : Instr} (placed : Placed s) (todo : s.todo = instr :: rest) :
    Placed (instr.run { s with todo := rest }) := by
  cases instr with
  | fetch field => exact placed_fetch placed todo
  | renew field => exact placed_renew placed todo
  | read field bucket => exact placed_read placed todo

theorem held_run {instr : Instr} (placed : Placed s) (todo : s.todo = instr :: rest) (f : Field) (bucket : Bucket) :
    (instr.run { s with todo := rest }).held f bucket = s.held f bucket := by
  cases instr with
  | fetch field => exact held_fetch placed todo f bucket
  | renew field => exact held_renew placed todo f bucket
  | read field b => exact held_read placed todo f bucket

theorem marks_run (s : State) (instr : Instr) : (instr.run s).marks = s.marks := by
  cases instr <;> rfl

end Reporting

section Sending
variable {s : State} {mark : Mark} {i : Nat}

def State.counted (s : State) (i : Nat) (mark : Mark) : State :=
  { s with counters := s.increment mark, marks := s.marks.set i { mark with counted := true } }

theorem placed_counted (placed : Placed s) (known : mark.target < s.next mark.field) : Placed (s.counted i mark) := by
  refine ⟨placed.left, placed.fetched, placed.replaced, placed.known, ?_⟩
  intro f target bucket notBelow
  have different : ¬ (f = mark.field ∧ target = mark.target ∧ bucket = mark.bucket) := by
    rintro ⟨rfl, rfl, rfl⟩
    exact absurd known (not_lt.mpr notBelow)
  exact (if_neg different).trans (placed.blank f target bucket notBelow)

theorem increment_target {target : Nat} (same : target = mark.target) :
    s.increment mark mark.field target mark.bucket = s.counters mark.field target mark.bucket + 1 :=
  if_pos ⟨rfl, same, rfl⟩

theorem increment_other {f : Field} {target : Nat} {bucket : Bucket}
    (other : ¬ (f = mark.field ∧ target = mark.target ∧ bucket = mark.bucket)) :
    s.increment mark f target bucket = s.counters f target bucket := if_neg other

/-- An increment in time counts once: in the current distribution or in the one that is still to be read. -/
theorem held_counted_self (placed : Placed s) (inTime : mark.target = s.current mark.field ∨
    mark.target = s.old mark.field ∧ s.Unread mark.field mark.bucket) :
    (s.counted i mark).held mark.field mark.bucket = s.held mark.field mark.bucket + 1 := by
  show s.reported mark.field mark.bucket + s.increment mark mark.field (s.current mark.field) mark.bucket +
    (if s.Unread mark.field mark.bucket then s.increment mark mark.field (s.old mark.field) mark.bucket else 0) = _
  rw [State.held]
  by_cases reads : s.Unread mark.field mark.bucket
  · have different := placed.replaced _ _ reads
    rw [if_pos reads, if_pos reads]
    rcases inTime with current | ⟨old, -⟩
    · rw [increment_target current.symm, increment_other fun same => different (same.2.1.trans current)]
      omega
    · rw [increment_target old.symm, increment_other fun same => different (same.2.1.trans old).symm]
      omega
  · have current := inTime.resolve_right fun old => reads old.2
    rw [if_neg reads, if_neg reads, increment_target current.symm]
    omega

theorem held_counted_other {f : Field} {bucket : Bucket} (other : ¬ (f = mark.field ∧ bucket = mark.bucket)) :
    (s.counted i mark).held f bucket = s.held f bucket := by
  have not : ∀ target, ¬ (f = mark.field ∧ target = mark.target ∧ bucket = mark.bucket) := by
    rintro target ⟨isField, -, isBucket⟩
    exact other ⟨isField, isBucket⟩
  show s.reported f bucket + s.increment mark f (s.current f) bucket +
    (if s.Unread f bucket then s.increment mark f (s.old f) bucket else 0) = _
  rw [increment_other (not _), increment_other (not _)]
  rfl

theorem held_counted_late (late : mark.target ≠ s.current mark.field)
    (read : ¬ (mark.target = s.old mark.field ∧ s.Unread mark.field mark.bucket)) (f : Field) (bucket : Bucket) :
    (s.counted i mark).held f bucket = s.held f bucket := by
  by_cases same : f = mark.field ∧ bucket = mark.bucket
  · obtain ⟨rfl, rfl⟩ := same
    show s.reported mark.field mark.bucket + s.increment mark mark.field (s.current mark.field) mark.bucket +
      (if s.Unread mark.field mark.bucket then s.increment mark mark.field (s.old mark.field) mark.bucket else 0) = _
    rw [State.held, increment_other fun same => late same.2.1.symm]
    by_cases reads : s.Unread mark.field mark.bucket
    · rw [if_pos reads, if_pos reads, increment_other fun same => read ⟨same.2.1.symm, reads⟩]
    · rw [if_neg reads, if_neg reads]
  · exact held_counted_other same

theorem observed_counted (listed : s.marks[i]? = some mark) (pending : mark.counted = false) (f : Field)
    (bucket : Bucket) : (s.counted i mark).observed f bucket =
      s.observed f bucket + if f = mark.field ∧ bucket = mark.bucket then 1 else 0 := by
  obtain ⟨below, rfl⟩ := List.getElem?_eq_some_iff.mp listed
  have contains : (s.marks[i].field = f ∧ f.Contains bucket s.marks[i].value) ↔
      f = s.marks[i].field ∧ bucket = s.marks[i].bucket := by
    rw [← mark_eq_iff, Mark.bucket]
    constructor
    · rintro ⟨rfl, isBucket⟩
      exact ⟨rfl, isBucket.symm⟩
    · rintro ⟨rfl, isBucket⟩
      exact ⟨rfl, isBucket.symm⟩
  show (s.marks.set i _).countP _ = _
  rw [List.countP_set below, pending]
  simp only [Bool.false_and, Bool.true_and, Bool.false_eq_true, if_false, Nat.sub_zero, contains, decide_eq_true_eq]
  rfl

end Sending

/-! ### Every action -/

section Actions
variable {s : State} {a : Action}

/-- The measurements of a bucket that an action counts. -/
def Action.counts (s : State) (field : Field) (bucket : Bucket) : Action → Nat
  | .increment i =>
    match s.marks[i]? with
    | none => 0
    | some mark => if field = mark.field ∧ bucket = mark.bucket then 1 else 0
  | _ => 0

theorem effect_increment {i : Nat} {mark : Mark} (listed : s.marks[i]? = some mark) :
    producerMetrics.effect s (.increment i) = s.counted i mark := by
  simp only [producerMetrics, listed, State.counted]

theorem effect_instr {instr : Instr} {rest : List Instr} (todo : s.todo = instr :: rest) :
    producerMetrics.effect s .instr = instr.run { s with todo := rest } := by
  simp only [producerMetrics, todo]

theorem placed_effect (placed : Placed s) (known : Known s) (enabled : producerMetrics.guard s a) :
    Placed (producerMetrics.effect s a) := by
  cases a with
  | report which => exact placed_report which placed
  | instr =>
    obtain ⟨instr, rest, todo⟩ := List.exists_cons_of_ne_nil enabled
    rw [effect_instr todo]
    exact placed_run placed todo
  | fetch field value => exact ⟨placed.left, placed.fetched, placed.replaced, placed.known, placed.blank⟩
  | increment i =>
    obtain ⟨mark, listed, -⟩ := enabled
    rw [effect_increment listed]
    exact placed_counted placed (known mark (List.mem_of_getElem? listed))

theorem known_effect (placed : Placed s) (known : Known s) (enabled : producerMetrics.guard s a) :
    Known (producerMetrics.effect s a) := by
  cases a with
  | report which => exact known
  | instr =>
    obtain ⟨instr, rest, todo⟩ := List.exists_cons_of_ne_nil enabled
    rw [effect_instr todo]
    intro mark member
    rw [marks_run] at member
    exact (known mark member).trans_le (next_run { s with todo := rest } instr mark.field)
  | fetch field value =>
    intro mark member
    rcases List.mem_append.mp member with earlier | fetched
    · exact known mark earlier
    · cases List.mem_singleton.mp fetched
      exact (placed.known field).2
  | increment i =>
    obtain ⟨counted, listed, -⟩ := enabled
    rw [effect_increment listed]
    intro mark member
    rcases List.mem_or_eq_of_mem_set member with earlier | rfl
    · exact known mark earlier
    · exact known counted (List.mem_of_getElem? listed)

theorem observed_effect (enabled : producerMetrics.guard s a) (f : Field) (bucket : Bucket) :
    (producerMetrics.effect s a).observed f bucket = s.observed f bucket + a.counts s f bucket := by
  cases a with
  | report which => rfl
  | instr =>
    obtain ⟨instr, rest, todo⟩ := List.exists_cons_of_ne_nil enabled
    rw [effect_instr todo, State.observed, marks_run]
    rfl
  | fetch field value => exact List.countP_append
  | increment i =>
    obtain ⟨mark, listed, pending⟩ := enabled
    rw [effect_increment listed, observed_counted listed pending, Action.counts, Option.mem_def.mp listed]

theorem held_effect (placed : Placed s) (enabled : producerMetrics.guard s a) (inTime : InTime s a) (f : Field)
    (bucket : Bucket) :
    (producerMetrics.effect s a).held f bucket = s.held f bucket + a.counts s f bucket := by
  cases a with
  | report which => exact held_report which enabled f bucket
  | instr =>
    obtain ⟨instr, rest, todo⟩ := List.exists_cons_of_ne_nil enabled
    rw [effect_instr todo]
    exact held_run placed todo f bucket
  | fetch field value => rfl
  | increment i =>
    obtain ⟨mark, listed, -⟩ := enabled
    rw [effect_increment listed, Action.counts, Option.mem_def.mp listed]
    by_cases same : f = mark.field ∧ bucket = mark.bucket
    · obtain ⟨rfl, rfl⟩ := same
      exact (held_counted_self placed (inTime mark listed)).trans (congrArg _ (if_pos ⟨rfl, rfl⟩).symm)
    · have none : (if f = mark.field ∧ bucket = mark.bucket then 1 else 0) = 0 := if_neg same
      rw [held_counted_other same]
      exact (congrArg (s.held f bucket + ·) none).symm

theorem held_effect_late (enabled : producerMetrics.guard s a) (late : ¬ InTime s a) :
    (∀ f bucket, (producerMetrics.effect s a).held f bucket = s.held f bucket) ∧
      ∃ f bucket, a.counts s f bucket = 1 := by
  cases a with
  | report which => exact absurd trivial late
  | instr => exact absurd trivial late
  | fetch field value => exact absurd trivial late
  | increment i =>
    obtain ⟨mark, listed, -⟩ := enabled
    have missed : ¬ (mark.target = s.current mark.field ∨
        mark.target = s.old mark.field ∧ s.Unread mark.field mark.bucket) := by
      intro caught
      refine late fun other found => ?_
      cases (Option.mem_def.mp listed).symm.trans found
      exact caught
    rw [effect_increment listed]
    refine ⟨held_counted_late (fun same => missed (.inl same)) (fun reads => missed (.inr reads)), ?_⟩
    refine ⟨mark.field, mark.bucket, ?_⟩
    rw [Action.counts, Option.mem_def.mp listed]
    exact if_pos ⟨rfl, rfl⟩

end Actions

/-! ### Every run -/

variable {s : State}

theorem observed_start (f : Field) (bucket : Bucket) : start.observed f bucket = 0 := rfl

theorem held_start (f : Field) (bucket : Bucket) : start.held f bucket = 0 := by
  have read : ¬ start.Unread f bucket := by
    intro unread
    cases unread.2
  rw [State.held, if_neg read]
  rfl

theorem held_idle (idle : s.todo = []) (f : Field) (bucket : Bucket) :
    s.held f bucket = s.reported f bucket + s.counters f (s.current f) bucket := by
  have read : ¬ s.Unread f bucket := by
    rw [State.Unread, idle]
    intro unread
    cases unread.2
  rw [State.held, if_neg read, Nat.add_zero]

theorem sum_countP {α β : Type} [Fintype β] [DecidableEq β] (p : α → Bool) (f : α → β) (xs : List α) :
    ∑ b, xs.countP (fun x => p x && decide (f x = b)) = xs.countP p := by
  induction xs with
  | nil => simp only [List.countP_nil, Finset.sum_const_zero]
  | cons x rest ih =>
    simp only [List.countP_cons, Finset.sum_add_distrib, ih]
    congr 1
    cases p x with
    | false => simp
    | true => simp

theorem sum_observed (s : State) (f : Field) : ∑ bucket, s.observed f bucket = s.calls f := by
  rw [State.calls, ← sum_countP _ fun mark => f.mark mark.value]
  refine Finset.sum_congr rfl fun bucket _ => ?_
  refine congrArg (s.marks.countP ·) (funext fun mark => ?_)
  simp only [mark_eq_iff, Bool.decide_and, Bool.and_assoc]

structure Sound (s : State) : Prop where
  placed : Placed s
  known : Known s
  atMost : ∀ f bucket, s.held f bucket ≤ s.observed f bucket

theorem sound_effect {a : Action} (sound : Sound s) (enabled : producerMetrics.guard s a) :
    Sound (producerMetrics.effect s a) := by
  refine ⟨placed_effect sound.placed sound.known enabled, known_effect sound.placed sound.known enabled, ?_⟩
  intro f bucket
  rw [observed_effect enabled]
  by_cases inTime : InTime s a
  · rw [held_effect sound.placed enabled inTime]
    exact Nat.add_le_add_right (sound.atMost f bucket) _
  · rw [(held_effect_late enabled inTime).1]
    exact (sound.atMost f bucket).trans (Nat.le_add_right ..)

theorem sound_of_reachable (reached : producerMetrics.Reachable s) : Sound s := by
  refine reached.invariant Sound ?_ fun _ _ sound enabled => sound_effect sound enabled
  rintro s rfl
  refine ⟨placed_start, ?_, fun f bucket => (held_start f bucket).le⟩
  intro mark member
  cases member

theorem held_eq_observed (reached : (producerMetrics.restrict InTime).Reachable s) (f : Field) (bucket : Bucket) :
    s.held f bucket = s.observed f bucket := by
  induction reached with
  | start initial =>
    cases initial
    exact held_start f bucket
  | step before enabled ih =>
    have sound := sound_of_reachable before.of_restrict
    exact (held_effect sound.placed enabled.1 enabled.2 f bucket).trans
      ((congrArg (· + _) ih).trans (observed_effect enabled.1 f bucket).symm)

/-- What is missing once is missing for good. -/
theorem inTime_or_missing (reached : producerMetrics.Reachable s) :
    (producerMetrics.restrict InTime).Reachable s ∨ ∃ f bucket, s.held f bucket < s.observed f bucket := by
  induction reached with
  | start initial => exact .inl (.start initial)
  | @step s a before enabled ih =>
    have sound := sound_of_reachable before
    by_cases inTime : InTime s a
    · rcases ih with before | ⟨f, bucket, missing⟩
      · exact .inl (.step before ⟨enabled, inTime⟩)
      · refine .inr ⟨f, bucket, ?_⟩
        rw [held_effect sound.placed enabled inTime, observed_effect enabled]
        exact Nat.add_lt_add_right missing _
    · obtain ⟨same, f, bucket, counts⟩ := held_effect_late enabled inTime
      refine .inr ⟨f, bucket, ?_⟩
      rw [same, observed_effect enabled, counts]
      exact Nat.lt_succ_of_le (sound.atMost f bucket)

/-- Between two reports the accounts are right exactly if so far every sender has counted before the
report that replaced its distribution had read the bucket. -/
theorem accounts_iff (reached : producerMetrics.Reachable s) (idle : s.todo = []) :
    (producerMetrics.restrict InTime).Reachable s ↔ Accounts s := by
  constructor
  · intro inTime
    have buckets : ∀ f bucket, s.reported f bucket + s.counters f (s.current f) bucket = s.observed f bucket := by
      intro f bucket
      rw [← held_idle idle, held_eq_observed inTime]
    refine ⟨buckets, fun f => ?_⟩
    simp only [buckets]
    exact sum_observed s f
  · intro accounts
    refine (inTime_or_missing reached).resolve_right ?_
    rintro ⟨f, bucket, missing⟩
    rw [held_idle idle] at missing
    exact absurd (accounts.buckets f bucket) missing.ne

def wholeReport : List Action := .report .message :: List.replicate reportMessageStatistics.length .instr

theorem accounts_iff_after_report : ∃ s, producerMetrics.Reachable s ∧ s.observed .distribution .lessThan5Ms = 1 ∧
    ((producerMetrics.restrict InTime).Reachable s ↔ Accounts s) := by
  have reports : ∃ s, producerMetrics.Reachable s ∧ s.todo = [] ∧ s.observed .distribution .lessThan5Ms = 1 :=
    Guarded.exists_reachable (s := start) ([.fetch .distribution 3, .increment 0] ++ wholeReport) rfl (by decide)
  obtain ⟨s, reached, idle, counted⟩ := reports
  exact ⟨s, reached, counted, accounts_iff reached idle⟩

/-- A sender that reads the field, lets a whole report pass and then counts, counts for nobody. -/
theorem not_accounts : ¬ ∀ s, producerMetrics.Reachable s → s.todo = [] → Accounts s := by
  intro claim
  have late : ∃ s, producerMetrics.Reachable s ∧ s.todo = [] ∧ s.reported .distribution .lessThan5Ms +
      s.counters .distribution (s.current .distribution) .lessThan5Ms ≠ s.observed .distribution .lessThan5Ms :=
    Guarded.exists_reachable (s := start) (.fetch .distribution 3 :: wholeReport ++ [.increment 0]) rfl (by decide)
  obtain ⟨s, reached, idle, missing⟩ := late
  exact missing ((claim s reached idle).buckets .distribution .lessThan5Ms)

end Zms.Client.Metrics
