import Mathlib

/-! Instants and the dates and times that zones with fixed offsets show for them. -/

set_option autoImplicit false

namespace Zms.Time

def secondsPerDay : Int := 86400

def millisPerDay : Int := 86400000

/-- Seconds of the time-line and nanoseconds within the second. -/
structure Instant where
  epochSecond : Int
  nano : Fin 1000000000
  deriving DecidableEq, Repr

namespace Instant

def toEpochMilli (instant : Instant) : Int := instant.epochSecond * 1000 + instant.nano / 1000000

def ofEpochMilli (epochMilli : Int) : Instant where
  epochSecond := epochMilli / 1000
  nano := ⟨(epochMilli % 1000).toNat * 1000000, by omega⟩

end Instant

/-- From -18:00 to +18:00. -/
structure ZoneOffset where
  totalSeconds : Int
  lower : -64800 ≤ totalSeconds
  upper : totalSeconds ≤ 64800

/-- A date, by its distance from the epoch, and a time of day. -/
structure LocalDateTime where
  epochDay : Int
  hour : Fin 24
  minute : Fin 60
  second : Fin 60
  nano : Fin 1000000000
  deriving DecidableEq, Repr

namespace LocalDateTime

def toSecondOfDay (time : LocalDateTime) : Nat := time.hour * 3600 + time.minute * 60 + time.second

def ofInstant (instant : Instant) (offset : ZoneOffset) : LocalDateTime where
  epochDay := (instant.epochSecond + offset.totalSeconds) / secondsPerDay
  hour := ⟨((instant.epochSecond + offset.totalSeconds) % secondsPerDay).toNat / 3600, by
    unfold secondsPerDay
    omega⟩
  minute := ⟨((instant.epochSecond + offset.totalSeconds) % secondsPerDay).toNat / 60 % 60, by omega⟩
  second := ⟨((instant.epochSecond + offset.totalSeconds) % secondsPerDay).toNat % 60, by omega⟩
  nano := instant.nano

def toInstant (time : LocalDateTime) (offset : ZoneOffset) : Instant where
  epochSecond := time.epochDay * secondsPerDay + time.toSecondOfDay - offset.totalSeconds
  nano := time.nano

def withHour (time : LocalDateTime) (hour : Fin 24) : LocalDateTime := { time with hour := hour }

def withMinute (time : LocalDateTime) (minute : Fin 60) : LocalDateTime := { time with minute := minute }

def withSecond (time : LocalDateTime) (second : Fin 60) : LocalDateTime := { time with second := second }

theorem shown_ofInstant (instant : Instant) (offset : ZoneOffset) :
    (ofInstant instant offset).epochDay * secondsPerDay + (ofInstant instant offset).toSecondOfDay =
      instant.epochSecond + offset.totalSeconds := by
  simp only [ofInstant, toSecondOfDay, secondsPerDay]
  omega

theorem ofInstant_eq {instant : Instant} {offset : ZoneOffset} {time : LocalDateTime}
    (seconds : instant.epochSecond + offset.totalSeconds = time.epochDay * secondsPerDay + time.toSecondOfDay)
    (nano : instant.nano = time.nano) : ofInstant instant offset = time := by
  obtain ⟨epochDay, hour, minute, second, fraction⟩ := time
  have hours := hour.isLt
  have minutes := minute.isLt
  have below := second.isLt
  simp only [toSecondOfDay, secondsPerDay] at seconds
  simp only [ofInstant, secondsPerDay, mk.injEq, Fin.ext_iff]
  refine ⟨?_, ?_, ?_, ?_, congrArg Fin.val nano⟩ <;> omega

theorem ofInstant_add_days (time : LocalDateTime) (offset : ZoneOffset) (days : Int) :
    ∃ nano, ofInstant (.ofEpochMilli ((time.toInstant offset).toEpochMilli + days * millisPerDay)) offset =
      { time with epochDay := time.epochDay + days, nano := nano } := by
  refine ⟨_, ofInstant_eq ?_ rfl⟩
  have nano := time.nano.isLt
  simp only [Instant.ofEpochMilli, Instant.toEpochMilli, toInstant, millisPerDay, secondsPerDay, toSecondOfDay]
  omega

end LocalDateTime

end Zms.Time
