import Zms.Arithmetic.HalfDown

/-! The statistics of a timer: `ZmsMetrics.transfer` of the client and `getTimerMetrics` of the
collector.

A snapshot has decimals that are not negative. `transfer` rounds each at its own number of
decimals, and the collector divides what is above its threshold once more.
-/

set_option autoImplicit false

namespace Zms.Client.Metrics.TimerStatistics

open Arithmetic

inductive Statistic where
  | mean | min | max | median | stddev
  | percent75 | percent90 | percent95 | percent98 | percent99 | percent999
  deriving DecidableEq

/-- In nanoseconds. -/
structure Snapshot where
  mean : Decimal
  min : Nat
  max : Nat
  median : Decimal
  stdDev : Decimal
  _75thPercentile : Decimal
  /-- `getValue(0.9)`. -/
  value90 : Decimal
  _95thPercentile : Decimal
  _98thPercentile : Decimal
  _99thPercentile : Decimal
  _999thPercentile : Decimal

structure TimerInfo where
  mean : ℚ
  min : ℚ
  max : ℚ
  median : ℚ
  stddev : ℚ
  percent75 : ℚ
  percent90 : ℚ
  percent95 : ℚ
  percent98 : ℚ
  percent99 : ℚ
  percent999 : ℚ

/-- `BigDecimal.divide` keeps the scale of the dividend. -/
def transferToMilliseconds (costTime : Decimal) : ℚ := costTime.divide 1000000

def transfer (snapshot : Snapshot) : TimerInfo where
  mean := transferToMilliseconds snapshot.mean
  min := transferToMilliseconds (.whole snapshot.min)
  max := transferToMilliseconds (.whole snapshot.max)
  median := transferToMilliseconds snapshot.median
  stddev := transferToMilliseconds snapshot.stdDev
  percent75 := transferToMilliseconds snapshot._75thPercentile
  percent90 := transferToMilliseconds snapshot.value90
  percent95 := transferToMilliseconds snapshot._95thPercentile
  percent98 := transferToMilliseconds snapshot._98thPercentile
  percent99 := transferToMilliseconds snapshot._99thPercentile
  percent999 := transferToMilliseconds snapshot._999thPercentile

def below (value : ℚ) : ℚ := if value < 1000000 then value else value / 1000000

/-- The segment map. -/
def getTimerMetrics (timer : TimerInfo) : List (String × ℚ) :=
  [("median", below timer.median), ("mean", below timer.mean), ("max", below timer.max), ("min", below timer.min),
    ("percent75", below timer.percent75), ("percent90", below timer.percent90), ("percent95", below timer.percent95),
    ("percent98", below timer.percent98), ("percent99", below timer.percent99),
    ("percent999", below timer.percent999)]

/-! ### Order and unit -/

def Snapshot.get (snapshot : Snapshot) : Statistic → Decimal
  | .mean => snapshot.mean
  | .min => .whole snapshot.min
  | .max => .whole snapshot.max
  | .median => snapshot.median
  | .stddev => snapshot.stdDev
  | .percent75 => snapshot._75thPercentile
  | .percent90 => snapshot.value90
  | .percent95 => snapshot._95thPercentile
  | .percent98 => snapshot._98thPercentile
  | .percent99 => snapshot._99thPercentile
  | .percent999 => snapshot._999thPercentile

def TimerInfo.get (timer : TimerInfo) : Statistic → ℚ
  | .mean => timer.mean
  | .min => timer.min
  | .max => timer.max
  | .median => timer.median
  | .stddev => timer.stddev
  | .percent75 => timer.percent75
  | .percent90 => timer.percent90
  | .percent95 => timer.percent95
  | .percent98 => timer.percent98
  | .percent99 => timer.percent99
  | .percent999 => timer.percent999

/-- The statistics that the collector writes, with their names. -/
def segments : List (String × Statistic) :=
  [("median", .median), ("mean", .mean), ("max", .max), ("min", .min), ("percent75", .percent75),
    ("percent90", .percent90), ("percent95", .percent95), ("percent98", .percent98), ("percent99", .percent99),
    ("percent999", .percent999)]

def neighbours : List (Statistic × Statistic) :=
  [(.min, .median), (.median, .percent75), (.percent75, .percent90), (.percent90, .percent95),
    (.percent95, .percent98), (.percent98, .percent99), (.percent99, .percent999), (.percent999, .max),
    (.min, .mean), (.mean, .max)]

def Ordered (values : Statistic → ℚ) : Prop := ∀ pair ∈ neighbours, values pair.1 ≤ values pair.2

instance (values : Statistic → ℚ) : Decidable (Ordered values) := List.decidableBAll _ neighbours

/-- Milliseconds for nanoseconds, up to half a millisecond. -/
def Close (nanoseconds milliseconds : ℚ) : Prop := |milliseconds - nanoseconds / 1000000| ≤ 1 / 2

/-- The statistics of a snapshot keep their order and unit on both ways. -/
structure Keeps (snapshot : Snapshot) : Prop where
  transferred : Ordered (transfer snapshot).get ∧ ∀ s, Close (snapshot.get s).value ((transfer snapshot).get s)
  written : ∃ values : Statistic → ℚ,
    getTimerMetrics (transfer snapshot) = segments.map (fun segment => (segment.1, values segment.2)) ∧
      Ordered values ∧ ∀ segment ∈ segments, Close (snapshot.get segment.2).value (values segment.2)

/-- No neighbours are rounded past each other, and the greatest is below the threshold. -/
structure Steady (snapshot : Snapshot) : Prop where
  short : snapshot.max + 500000 ≤ 1000000000000
  apart : ∀ pair ∈ neighbours, ¬ Decimal.Straddles 1000000 (snapshot.get pair.1) (snapshot.get pair.2)

section Results
variable {snapshot : Snapshot}

theorem get_transfer (snapshot : Snapshot) (s : Statistic) :
    (transfer snapshot).get s = (snapshot.get s).divide 1000000 := by
  cases s <;> rfl

theorem getTimerMetrics_eq (timer : TimerInfo) :
    getTimerMetrics timer = segments.map fun segment => (segment.1, below (timer.get segment.2)) := by
  rfl

theorem close_transfer (s : Statistic) : Close (snapshot.get s).value ((transfer snapshot).get s) := by
  have close := Decimal.divide_close (x := snapshot.get s) (n := 1000000) (by norm_num)
  have unit := (snapshot.get s).unit_le_one
  rw [get_transfer]
  unfold Close
  push_cast at close
  linarith

theorem ordered_transfer_iff (sorted : Ordered fun s => (snapshot.get s).value) :
    Ordered (transfer snapshot).get ↔
      ∀ pair ∈ neighbours, ¬ Decimal.Straddles 1000000 (snapshot.get pair.1) (snapshot.get pair.2) := by
  refine forall₂_congr fun pair member => ?_
  rw [get_transfer, get_transfer]
  exact Decimal.divide_le_divide_iff (by norm_num) (sorted pair member)

/-- What comes to the threshold is divided twice. -/
theorem not_close_below {nanoseconds milliseconds : ℚ} (close : Close nanoseconds milliseconds)
    (long : 1000000 ≤ milliseconds) : ¬ Close nanoseconds (below milliseconds) := by
  unfold Close below at *
  rw [if_neg (not_lt.mpr long)]
  intro both
  have first := abs_le.mp close
  have second := abs_le.mp both
  linarith [first.2, second.1]

theorem below_of_lt {value : ℚ} (less : value < 1000000) : below value = value := if_pos less

theorem value_whole (n : Nat) : (Decimal.whole n).value = n := by
  simp [Decimal.value, Decimal.unit, Decimal.whole]

theorem max_transfer_lt_iff : (transfer snapshot).get .max < 1000000 ↔ snapshot.max + 500000 ≤ 1000000000000 := by
  have less := Decimal.divide_lt_iff (x := .whole snapshot.max) (n := 1000000) (by norm_num) 1000000
  have unit : (Decimal.whole snapshot.max).unit = 1 := by simp [Decimal.unit, Decimal.whole]
  rw [unit, value_whole] at less
  rw [get_transfer]
  norm_num at less
  refine less.trans ?_
  rw [div_le_iff₀ (by norm_num)]
  constructor
  · intro le
    have cast : (snapshot.max : ℚ) + 500000 ≤ 1000000000000 := by linarith
    exact_mod_cast cast
  · intro le
    have cast : (snapshot.max : ℚ) + 500000 ≤ 1000000000000 := by exact_mod_cast le
    linarith

theorem le_max {values : Statistic → ℚ} (ordered : Ordered values) {segment : String × Statistic}
    (member : segment ∈ segments) : values segment.2 ≤ values .max := by
  have p999 : values .percent999 ≤ values .max := ordered (.percent999, .max) (by decide)
  have p99 := (ordered (.percent99, .percent999) (by decide)).trans p999
  have p98 := (ordered (.percent98, .percent99) (by decide)).trans p99
  have p95 := (ordered (.percent95, .percent98) (by decide)).trans p98
  have p90 := (ordered (.percent90, .percent95) (by decide)).trans p95
  have p75 := (ordered (.percent75, .percent90) (by decide)).trans p90
  have median := (ordered (.median, .percent75) (by decide)).trans p75
  have min := (ordered (.min, .median) (by decide)).trans median
  have mean : values .mean ≤ values .max := ordered (.mean, .max) (by decide)
  simp only [segments, List.mem_cons, List.not_mem_nil, or_false] at member
  rcases member with rfl | rfl | rfl | rfl | rfl | rfl | rfl | rfl | rfl | rfl
  · exact median
  · exact mean
  · exact le_rfl
  · exact min
  · exact p75
  · exact p90
  · exact p95
  · exact p98
  · exact p99
  · exact p999

/-- Order and unit are kept exactly where no neighbours straddle a multiple and the maximum is
below the collector's threshold. -/
theorem keeps_iff (sorted : Ordered fun s => (snapshot.get s).value) : Keeps snapshot ↔ Steady snapshot := by
  constructor
  · rintro ⟨⟨ordered, -⟩, values, written, -, close⟩
    refine ⟨?_, (ordered_transfer_iff sorted).mp ordered⟩
    rw [getTimerMetrics_eq, List.map_inj_left] at written
    have max : ("max", Statistic.max) ∈ segments := by decide
    have same : below ((transfer snapshot).get .max) = values .max := congrArg Prod.snd (written ("max", .max) max)
    by_contra long
    rw [← max_transfer_lt_iff, not_lt] at long
    apply not_close_below (close_transfer .max) long
    rw [same]
    exact close ("max", .max) max
  · rintro ⟨short, apart⟩
    have ordered := (ordered_transfer_iff sorted).mpr apart
    refine ⟨⟨ordered, close_transfer⟩, (transfer snapshot).get, ?_, ordered, fun segment _ => close_transfer segment.2⟩
    rw [getTimerMetrics_eq, List.map_inj_left]
    intro segment member
    have less : (transfer snapshot).get segment.2 < 1000000 :=
      (le_max ordered member).trans_lt (max_transfer_lt_iff.mpr short)
    exact congrArg (Prod.mk segment.1) (below_of_lt less)

end Results

/-- Sends that took two milliseconds each. -/
def even : Snapshot where
  mean := .whole 2000000
  min := 2000000
  max := 2000000
  median := .whole 2000000
  stdDev := .whole 0
  _75thPercentile := .whole 2000000
  value90 := .whole 2000000
  _95thPercentile := .whole 2000000
  _98thPercentile := .whole 2000000
  _99thPercentile := .whole 2000000
  _999thPercentile := .whole 2000000

theorem keeps_even : Keeps even := by
  have same (s : Statistic) : (even.get s).scale = 0 := by cases s <;> rfl
  refine (keeps_iff (by decide +kernel)).mpr ⟨by decide, fun pair _ => ?_⟩
  rintro (⟨less, -⟩ | ⟨less, -⟩) <;> simp [same] at less

def uneven : Snapshot :=
  let half : Decimal := ⟨6000005, 1, .inr (by decide)⟩
  { mean := half, min := 600000, max := 600001, median := half, stdDev := ⟨5, 1, .inr (by decide)⟩,
    _75thPercentile := .whole 600001, value90 := .whole 600001, _95thPercentile := .whole 600001,
    _98thPercentile := .whole 600001, _99thPercentile := .whole 600001, _999thPercentile := .whole 600001 }

theorem not_keeps : ¬ ∀ snapshot : Snapshot, (Ordered fun s => (snapshot.get s).value) → Keeps snapshot := by
  intro always
  have kept := always uneven (by decide +kernel)
  have median : (transfer uneven).min ≤ (transfer uneven).median := kept.transferred.1 (.min, .median) (by decide)
  exact absurd median (by decide +kernel)

end Zms.Client.Metrics.TimerStatistics
