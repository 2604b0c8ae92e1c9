import Zms.Time.Offsets

/-! When the daily record of the offsets runs.

`recordMaxOffset` takes the date of the system's zone, reads 05:00 of it as a
time at +08:00, and adds a day when that is over.
-/

set_option autoImplicit false

namespace Zms.Collector.DailyRecord

open Zms.Time

/-- `ZoneOffset.of("+8")`. -/
def plusEight : ZoneOffset := ⟨28800, by decide, by decide⟩

def oneDay : Int := 24 * 60 * 60 * 1000

/-- `now` is what `LocalDateTime.now` reads in the system's zone. -/
def initDelay (systemZone : ZoneOffset) (now : Instant) (currentTimeMillis : Int) : Int :=
  let currentTime := (((LocalDateTime.ofInstant now systemZone).withHour 5).withMinute 0).withSecond 0
  let initDelay := (currentTime.toInstant plusEight).toEpochMilli - currentTimeMillis
  if 0 < initDelay then initDelay else oneDay + initDelay

/-- The time of the n-th run that `scheduleAtFixedRate` arranges; a delay that is
not positive has passed already. -/
def runTime (currentTimeMillis initialDelay period : Int) (n : Nat) : Int :=
  currentTimeMillis + max 0 initialDelay + n * period

def AtFive (epochMilli : Int) : Prop :=
  let time := LocalDateTime.ofInstant (.ofEpochMilli epochMilli) plusEight
  time.hour = 5 ∧ time.minute = 0 ∧ time.second = 0

/-- The first run is within a day, at five, and the others follow every day. -/
structure DailyAtFive (currentTimeMillis initialDelay : Int) : Prop where
  positive : 0 < initialDelay
  dayAtMost : initialDelay ≤ oneDay
  first : AtFive (currentTimeMillis + initialDelay)
  repeats : ∀ n, runTime currentTimeMillis initialDelay oneDay n =
    currentTimeMillis + initialDelay + n * oneDay

theorem atFive_of_days {time : LocalDateTime} (five : time.hour = 5 ∧ time.minute = 0 ∧ time.second = 0)
    (days : Int) : AtFive ((time.toInstant plusEight).toEpochMilli + days * oneDay) := by
  obtain ⟨nano, shown⟩ := LocalDateTime.ofInstant_add_days time plusEight days
  have day : oneDay = millisPerDay := rfl
  rw [AtFive, day, shown]
  exact five

/-- Whatever the zone, the delay ends at five o'clock of some day. -/
theorem atFive_initDelay (systemZone : ZoneOffset) (now : Instant) (currentTimeMillis : Int) :
    AtFive (currentTimeMillis + initDelay systemZone now currentTimeMillis) := by
  let currentTime := (((LocalDateTime.ofInstant now systemZone).withHour 5).withMinute 0).withSecond 0
  have five : currentTime.hour = 5 ∧ currentTime.minute = 0 ∧ currentTime.second = 0 := ⟨rfl, rfl, rfl⟩
  have cases : currentTimeMillis + initDelay systemZone now currentTimeMillis =
      (currentTime.toInstant plusEight).toEpochMilli + 0 * oneDay ∨
      currentTimeMillis + initDelay systemZone now currentTimeMillis =
        (currentTime.toInstant plusEight).toEpochMilli + 1 * oneDay := by
    simp only [initDelay, currentTime]
    split <;> omega
  rcases cases with today | tomorrow
  · rw [today]
    exact atFive_of_days five 0
  · rw [tomorrow]
    exact atFive_of_days five 1

theorem five_sub_now (systemZone : ZoneOffset) (now : Instant) :
    (((((LocalDateTime.ofInstant now systemZone).withHour 5).withMinute 0).withSecond 0).toInstant
        plusEight).toEpochMilli - now.toEpochMilli =
      1000 * (systemZone.totalSeconds - 10800 - (LocalDateTime.ofInstant now systemZone).toSecondOfDay) := by
  have shown := LocalDateTime.shown_ofInstant now systemZone
  have five : ((((LocalDateTime.ofInstant now systemZone).withHour 5).withMinute 0).withSecond 0).toSecondOfDay =
      18000 := by
    simp only [LocalDateTime.toSecondOfDay, LocalDateTime.withHour, LocalDateTime.withMinute,
      LocalDateTime.withSecond]
    decide
  have eight : plusEight.totalSeconds = 28800 := rfl
  simp only [Instant.toEpochMilli, LocalDateTime.toInstant, five, eight]
  simp only [LocalDateTime.withHour, LocalDateTime.withMinute, LocalDateTime.withSecond]
  simp only [LocalDateTime.ofInstant] at shown ⊢
  omega

/-- The record runs daily at five unless the zone's day is so far gone that five
o'clock of the next one, read at +08:00, is over as well. -/
theorem daily_at_five_iff (systemZone : ZoneOffset) (now : Instant) (elapsed : Nat) :
    DailyAtFive (now.toEpochMilli + elapsed) (initDelay systemZone now (now.toEpochMilli + elapsed)) ↔
      1000 * (LocalDateTime.ofInstant now systemZone).toSecondOfDay + elapsed <
        1000 * (systemZone.totalSeconds + 75600) := by
  have distance := five_sub_now systemZone now
  have upper := systemZone.upper
  have day : oneDay = 86400000 := rfl
  constructor
  · intro daily
    have positive := daily.positive
    simp only [initDelay] at positive
    split at positive <;> omega
  · intro early
    have positive : 0 < initDelay systemZone now (now.toEpochMilli + elapsed) := by
      simp only [initDelay]
      split <;> omega
    refine ⟨positive, ?_, atFive_initDelay systemZone now _, fun n => ?_⟩
    · simp only [initDelay]
      split <;> omega
    · rw [runTime, max_eq_right positive.le]

/-- At 22:00 in Greenwich five o'clock is an hour ago, also that of the next date. -/
theorem not_daily_at_five : ¬ ∀ (systemZone : ZoneOffset) (now : Instant),
    DailyAtFive now.toEpochMilli (initDelay systemZone now now.toEpochMilli) := by
  intro always
  have positive := (always ⟨0, by decide, by decide⟩ ⟨1609452000, 0⟩).positive
  have delay : initDelay ⟨0, by decide, by decide⟩ ⟨1609452000, 0⟩
      (Instant.toEpochMilli ⟨1609452000, 0⟩) = -3600000 := by decide
  rw [delay] at positive
  exact absurd positive (by decide)

end Zms.Collector.DailyRecord
