import LoraBridge.Instant.Basic

/-! # Instants as counts of seconds

  An instant as the number of seconds since 1970 began, and back. Days are counted in eras of
  400 years, which all have the same number of days, from the first of March of the year zero.
-/

namespace LoraBridge.Instant

/-- Days from 1970-01-01 to a date. -/
def unixDay (year : Int) (month day : Nat) : Int :=
  let y := if month ≤ 2 then year - 1 else year
  let era := y.fdiv 400
  let yearOfEra := y - era * 400
  let monthFromMarch : Int := ((month : Int) + 9) % 12
  let dayOfYear := (153 * monthFromMarch + 2) / 5 + day - 1
  let dayOfEra := yearOfEra * 365 + yearOfEra / 4 - yearOfEra / 100 + dayOfYear
  era * 146097 + dayOfEra - 719468

/-- The date that lies so many days after 1970-01-01. -/
def dateOfUnixDay (days : Int) : Int × Nat × Nat :=
  let z := days + 719468
  let era := z.fdiv 146097
  let dayOfEra := z - era * 146097
  let yearOfEra :=
    (dayOfEra - dayOfEra / 1460 + dayOfEra / 36524 - dayOfEra / 146096) / 365
  let dayOfYear := dayOfEra - (365 * yearOfEra + yearOfEra / 4 - yearOfEra / 100)
  let monthFromMarch := (5 * dayOfYear + 2) / 153
  let day := dayOfYear - (153 * monthFromMarch + 2) / 5 + 1
  let month := if monthFromMarch < 10 then monthFromMarch + 3 else monthFromMarch - 9
  let year := yearOfEra + era * 400
  (if month ≤ 2 then year + 1 else year, month.toNat, day.toNat)

/-- Seconds since 1970 began; a leap second counts with the second before it. -/
def unixSeconds (t : Instant) : Int :=
  unixDay t.year t.month t.day * 86400 + (t.hour * 3600 + t.minute * 60 + t.second : Nat)

/-- The instant so many seconds and nanoseconds after 1970 began, if it is one. A thousand million
    nanoseconds or more are taken for a leap second, so only the last second of a minute may have
    them. -/
def ofUnix? (seconds : Int) (nanos : Nat) : Option Instant :=
  let (year, month, day) := dateOfUnixDay (seconds.fdiv 86400)
  let s := (seconds.fmod 86400).toNat
  if nanos < 1000000000 ∨ s % 60 = 59 then
    ofFields? year month day (s / 3600) (s / 60 % 60) (s % 60) nanos
  else none

end LoraBridge.Instant
