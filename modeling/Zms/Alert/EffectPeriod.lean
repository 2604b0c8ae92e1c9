import Mathlib

/-! The daily period in which an alert rule takes effect. -/

set_option autoImplicit false

namespace Zms.Alert

/-- `java.time.LocalTime`. -/
structure LocalTime where
  hour : Fin 24
  minute : Fin 60
  second : Fin 60
  nano : Fin 1000000000
  deriving DecidableEq, Repr

namespace LocalTime

/-- `Integer.compare`. -/
def compareInt (x y : Nat) : Int := if x < y then -1 else if x = y then 0 else 1

def compareTo (time other : LocalTime) : Int :=
  if compareInt time.hour other.hour ≠ 0 then compareInt time.hour other.hour
  else if compareInt time.minute other.minute ≠ 0 then compareInt time.minute other.minute
  else if compareInt time.second other.second ≠ 0 then compareInt time.second other.second
  else compareInt time.nano other.nano

def toNanoOfDay (time : LocalTime) : Nat :=
  ((time.hour * 60 + time.minute) * 60 + time.second) * 1000000000 + time.nano

/-- Earlier on the same day, or the same time. -/
instance : LE LocalTime := ⟨fun time other => time.toNanoOfDay ≤ other.toNanoOfDay⟩

instance (time other : LocalTime) : Decidable (time ≤ other) :=
  inferInstanceAs (Decidable (time.toNanoOfDay ≤ other.toNanoOfDay))

theorem le_def {time other : LocalTime} : time ≤ other ↔ time.toNanoOfDay ≤ other.toNanoOfDay := Iff.rfl

/-- The result of a comparison has the sign that it should have. -/
structure Compares (result : Int) (x y : Nat) : Prop where
  nonneg : 0 ≤ result ↔ y ≤ x
  nonpos : result ≤ 0 ↔ x ≤ y

theorem compares_compareInt (x y : Nat) : Compares (compareInt x y) x y := by
  unfold compareInt
  constructor
  · split_ifs <;> omega
  · split_ifs <;> omega

theorem Compares.after {rest : Int} {r r' : Nat} (weight : Nat) (compares : Compares rest r r') (below : r < weight)
    (below' : r' < weight) (x y : Nat) :
    Compares (if compareInt x y ≠ 0 then compareInt x y else rest) (x * weight + r) (y * weight + r') := by
  obtain ⟨nonneg, nonpos⟩ := compares
  have less : x < y → x * weight + weight ≤ y * weight := fun lt => Nat.succ_mul x weight ▸ Nat.mul_le_mul_right _ lt
  have more : y < x → y * weight + weight ≤ x * weight := fun lt => Nat.succ_mul y weight ▸ Nat.mul_le_mul_right _ lt
  unfold compareInt
  obtain lt | rfl | gt := Nat.lt_trichotomy x y
  · rw [if_pos lt]
    constructor <;> simp <;> omega
  · simp only [lt_irrefl, if_false, if_true, ne_eq, not_true]
    constructor <;> omega
  · rw [if_neg (Nat.lt_asymm gt), if_neg (Nat.ne_of_gt gt)]
    constructor <;> simp <;> omega

theorem compares_compareTo (time other : LocalTime) :
    Compares (time.compareTo other) time.toNanoOfDay other.toNanoOfDay := by
  have seconds := Compares.after _ (compares_compareInt time.nano other.nano) time.nano.isLt other.nano.isLt
    time.second other.second
  have minutes := Compares.after (60 * 1000000000) seconds (by omega) (by omega) time.minute other.minute
  have hours := Compares.after (60 * 60 * 1000000000) minutes (by omega) (by omega) time.hour other.hour
  have sum : ∀ t : LocalTime, t.hour.val * (60 * 60 * 1000000000) + (t.minute.val * (60 * 1000000000) +
      (t.second.val * 1000000000 + t.nano.val)) = t.toNanoOfDay := by
    intro t
    rw [toNanoOfDay]
    omega
  rwa [sum, sum] at hours

theorem le_compareTo {time other : LocalTime} : 0 ≤ time.compareTo other ↔ other ≤ time :=
  (compares_compareTo time other).nonneg

theorem compareTo_le {time other : LocalTime} : time.compareTo other ≤ 0 ↔ time ≤ other :=
  (compares_compareTo time other).nonpos

theorem le_of_hour_lt {time other : LocalTime} (earlier : time.hour < other.hour) : time ≤ other := by
  have := time.minute.isLt
  have := time.second.isLt
  have := time.nano.isLt
  rw [le_def, toNanoOfDay, toNanoOfDay]
  omega

end LocalTime

namespace AlertRuleConfig

def check (now fromTime toTime : LocalTime) : Bool :=
  if fromTime.hour < toTime.hour then
    if 0 ≤ now.compareTo fromTime ∧ now.compareTo toTime ≤ 0 then true else false
  else
    if 0 ≤ now.compareTo fromTime ∨ now.compareTo toTime ≤ 0 then true else false

/-- `parse` is `LocalTime.parse`, which throws on what is no time; then the rule is in effect. -/
def isInEffectTimePeriod (parse : String → Option LocalTime) (now : LocalTime) (effectFrom effectTo : String) : Bool :=
  match parse effectFrom, parse effectTo with
  | some fromTime, some toTime => check now fromTime toTime
  | _, _ => true

/-- The period between the two times, over midnight if it ends before it starts. -/
def InPeriod (now fromTime toTime : LocalTime) : Prop :=
  (fromTime ≤ toTime ∧ fromTime ≤ now ∧ now ≤ toTime) ∨ (¬ fromTime ≤ toTime ∧ (fromTime ≤ now ∨ now ≤ toTime))

theorem check_eq_true_iff (now fromTime toTime : LocalTime) : check now fromTime toTime = true ↔
    if fromTime.hour < toTime.hour then fromTime ≤ now ∧ now ≤ toTime else fromTime ≤ now ∨ now ≤ toTime := by
  unfold check
  simp only [LocalTime.le_compareTo, LocalTime.compareTo_le]
  split <;> simp

/-- The check is right unless the window starts and ends in order within one hour and
the time is outside of it. -/
theorem check_iff (now fromTime toTime : LocalTime) :
    (check now fromTime toTime = true ↔ InPeriod now fromTime toTime) ↔
      ¬ (fromTime.hour = toTime.hour ∧ fromTime ≤ toTime ∧ ¬ (fromTime ≤ now ∧ now ≤ toTime)) := by
  rw [check_eq_true_iff, InPeriod]
  by_cases earlier : fromTime.hour < toTime.hour
  · have ordered := LocalTime.le_of_hour_lt earlier
    simp only [earlier, ordered, earlier.ne, if_true, true_and, not_true, false_and, or_false, iff_self,
      not_false_eq_true]
  · rw [if_neg earlier]
    by_cases ordered : fromTime ≤ toTime
    · -- the hours are equal, for a later hour would be a later time
      have same : fromTime.hour = toTime.hour := by
        refine le_antisymm ?_ (not_lt.mp earlier)
        by_contra later
        have after := LocalTime.le_of_hour_lt (not_le.mp later)
        have := fromTime.minute.isLt
        have := fromTime.second.isLt
        have := fromTime.nano.isLt
        have := toTime.minute.isLt
        have := toTime.second.isLt
        have := toTime.nano.isLt
        rw [LocalTime.le_def, LocalTime.toNanoOfDay, LocalTime.toNanoOfDay] at ordered after
        omega
      have either : fromTime ≤ now ∨ now ≤ toTime := by
        rw [LocalTime.le_def] at ordered
        rw [LocalTime.le_def, LocalTime.le_def]
        omega
      simp only [same, ordered, either, true_and, not_true, false_and, or_false, true_iff, not_not]
    · simp only [ordered, false_and, and_false, false_or, not_false_eq_true, true_and, iff_self]

/-- A window of half an hour, and a time in the afternoon. -/
theorem not_check : ¬ ∀ now fromTime toTime, check now fromTime toTime = true ↔ InPeriod now fromTime toTime := by
  intro always
  have claimed := always ⟨15, 0, 0, 0⟩ ⟨9, 0, 0, 0⟩ ⟨9, 30, 0, 0⟩
  have outside : ¬ InPeriod ⟨15, 0, 0, 0⟩ ⟨9, 0, 0, 0⟩ ⟨9, 30, 0, 0⟩ := by
    unfold InPeriod
    decide
  exact outside (claimed.mp (by decide))

end AlertRuleConfig

end Zms.Alert
