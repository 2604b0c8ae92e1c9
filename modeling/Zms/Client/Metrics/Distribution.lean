import Mathlib

/-! The counters of a producer's times and sizes. -/

set_option autoImplicit false

namespace Zms.Client.Metrics

/-- The eight counters of a `Distribution`. -/
inductive Bucket where
  | lessThan1Ms
  | lessThan5Ms
  | lessThan10Ms
  | lessThan50Ms
  | lessThan100Ms
  | lessThan500Ms
  | lessThan1000Ms
  | moreThan1000Ms
deriving DecidableEq, Repr

instance Bucket.fintype : Fintype Bucket :=
  .ofList [.lessThan1Ms, .lessThan5Ms, .lessThan10Ms, .lessThan50Ms, .lessThan100Ms, .lessThan500Ms, .lessThan1000Ms,
    .moreThan1000Ms] fun bucket => by cases bucket <;> decide

/-- The counter that `markTime` increments. -/
def markTime (costInMs : Int) : Bucket :=
  if costInMs < 1 then .lessThan1Ms
  else if costInMs < 5 then .lessThan5Ms
  else if costInMs < 10 then .lessThan10Ms
  else if costInMs < 50 then .lessThan50Ms
  else if costInMs < 100 then .lessThan100Ms
  else if costInMs < 500 then .lessThan500Ms
  else if costInMs < 1000 then .lessThan1000Ms
  else .moreThan1000Ms

/-- The counter that `markSize` increments. -/
def markSize (costInMs : Int) : Bucket :=
  if costInMs < 1024 then .lessThan1Ms
  else if costInMs < 5 * 1024 then .lessThan5Ms
  else if costInMs < 10 * 1024 then .lessThan10Ms
  else if costInMs < 50 * 1024 then .lessThan50Ms
  else if costInMs < 100 * 1024 then .lessThan100Ms
  else if costInMs < 500 * 1024 then .lessThan500Ms
  else if costInMs < 1024 * 1024 then .lessThan1000Ms
  else .moreThan1000Ms

/-- The two fields of `ZmsProducerMetrics`, the first marked with times and the second with sizes. -/
inductive Field where
  | distribution
  | msgBody
deriving DecidableEq, Repr

instance Field.fintype : Fintype Field :=
  .ofList [.distribution, .msgBody] fun field => by cases field <;> decide

def Field.mark : Field → Int → Bucket
  | .distribution => markTime
  | .msgBody => markSize

/-! ### The bounds of the buckets -/

/-- Milliseconds, or kilobytes with the last bound at a megabyte. -/
def Field.unit : Field → Int
  | .distribution => 1
  | .msgBody => 1024

def Field.last : Field → Int
  | .distribution => 1000
  | .msgBody => 1024 * 1024

def Field.lower (field : Field) : Bucket → Option Int
  | .lessThan1Ms => none
  | .lessThan5Ms => some field.unit
  | .lessThan10Ms => some (5 * field.unit)
  | .lessThan50Ms => some (10 * field.unit)
  | .lessThan100Ms => some (50 * field.unit)
  | .lessThan500Ms => some (100 * field.unit)
  | .lessThan1000Ms => some (500 * field.unit)
  | .moreThan1000Ms => some field.last

/-- The bound below which the values of a bucket lie. -/
def Field.upper (field : Field) : Bucket → Option Int
  | .lessThan1Ms => some field.unit
  | .lessThan5Ms => some (5 * field.unit)
  | .lessThan10Ms => some (10 * field.unit)
  | .lessThan50Ms => some (50 * field.unit)
  | .lessThan100Ms => some (100 * field.unit)
  | .lessThan500Ms => some (500 * field.unit)
  | .lessThan1000Ms => some field.last
  | .moreThan1000Ms => none

def Field.Contains (field : Field) (bucket : Bucket) (value : Int) : Prop :=
  (∀ bound ∈ field.lower bucket, bound ≤ value) ∧ ∀ bound ∈ field.upper bucket, value < bound

instance Field.decidableContains (field : Field) (bucket : Bucket) (value : Int) :
    Decidable (field.Contains bucket value) := inferInstanceAs (Decidable (_ ∧ _))

theorem markTime_eq_iff (value : Int) (bucket : Bucket) :
    markTime value = bucket ↔ Field.distribution.Contains bucket value := by
  unfold markTime
  cases bucket <;>
    simp only [Field.Contains, Field.lower, Field.upper, Field.unit, Field.last, Option.mem_def, reduceCtorEq,
      Option.some.injEq, forall_eq', false_implies, implies_true] <;>
    grind

theorem markSize_eq_iff (value : Int) (bucket : Bucket) :
    markSize value = bucket ↔ Field.msgBody.Contains bucket value := by
  unfold markSize
  cases bucket <;>
    simp only [Field.Contains, Field.lower, Field.upper, Field.unit, Field.last, Option.mem_def, reduceCtorEq,
      Option.some.injEq, forall_eq', false_implies, implies_true] <;>
    grind

theorem mark_eq_iff (field : Field) (value : Int) (bucket : Bucket) :
    field.mark value = bucket ↔ field.Contains bucket value := by
  cases field with
  | distribution => exact markTime_eq_iff value bucket
  | msgBody => exact markSize_eq_iff value bucket

theorem contains_mark (field : Field) (value : Int) : field.Contains (field.mark value) value :=
  (mark_eq_iff field value _).mp rfl

end Zms.Client.Metrics
