/-! # Instants

  When a gateway received a frame: a date and a time of day in UTC, down to the nanosecond. The
  calendar is the Gregorian one, continued in both directions, with a year zero.

  Every minute has sixty numbered seconds. A leap second has no number of its own: it is second 59
  with a thousand million nanoseconds or more, so that its instants come after all others of their
  minute. Other seconds may have such a fraction too.

  - `Instant.Valid` says which fields form an instant; an `Instant` carries the proof.
  - `Instant.shift?` moves an instant by whole minutes, as reading a local time needs.
-/

namespace LoraBridge

namespace Calendar

/-- Every fourth year has a leap day, save those that end a century not divisible by four. -/
def isLeap (year : Int) : Bool := year % 4 = 0 && (year % 100 ≠ 0 || year % 400 = 0)

/-- The number of days of a month, counted from 1. -/
def daysIn (year : Int) (month : Nat) : Nat :=
  if month = 2 then (if isLeap year then 29 else 28)
  else if month = 4 ∨ month = 6 ∨ month = 9 ∨ month = 11 then 30
  else 31

end Calendar

/-- Fields that form an instant. Years are limited so that every instant lies within about
    a quarter of a million years of the year zero. In every second the fraction is less than two
    thousand million nanoseconds. -/
def Instant.Valid (year : Int) (month day hour minute second nanos : Nat) : Prop :=
  (-262143 ≤ year ∧ year ≤ 262142) ∧ (1 ≤ month ∧ month ≤ 12) ∧
  (1 ≤ day ∧ day ≤ Calendar.daysIn year month) ∧ hour < 24 ∧ minute < 60 ∧ second < 60 ∧
  nanos < 2000000000

instance (year : Int) (month day hour minute second nanos : Nat) :
    Decidable (Instant.Valid year month day hour minute second nanos) := by
  unfold Instant.Valid
  infer_instance

/-- A point in time, in UTC. -/
structure Instant where
  year : Int
  month : Nat
  day : Nat
  hour : Nat
  minute : Nat
  second : Nat
  /-- Nanoseconds since the second began; a thousand million or more in a leap second. -/
  nanos : Nat
  valid : Instant.Valid year month day hour minute second nanos
deriving DecidableEq

namespace Instant

/-- The instant with these fields, if they form one. -/
def ofFields? (year : Int) (month day hour minute second nanos : Nat) : Option Instant :=
  if h : Valid year month day hour minute second nanos then
    some ⟨year, month, day, hour, minute, second, nanos, h⟩
  else none

/-- The day after a date. -/
def nextDay (year : Int) (month day : Nat) : Int × Nat × Nat :=
  if day < Calendar.daysIn year month then (year, month, day + 1)
  else if month < 12 then (year, month + 1, 1)
  else (year + 1, 1, 1)

/-- The day before a date. -/
def previousDay (year : Int) (month day : Nat) : Int × Nat × Nat :=
  if 1 < day then (year, month, day - 1)
  else if 1 < month then (year, month - 1, Calendar.daysIn year (month - 1))
  else (year - 1, 12, 31)

/-- The instant that lies `minutes` later, if that is one; `minutes` is less than a day either
    way. -/
def shift? (t : Instant) (minutes : Int) : Option Instant :=
  let total := (t.hour * 60 + t.minute : Int) + minutes
  let ofDay := total % 1440
  let (year, month, day) :=
    if total < 0 then previousDay t.year t.month t.day
    else if 1440 ≤ total then nextDay t.year t.month t.day
    else (t.year, t.month, t.day)
  ofFields? year month day (ofDay / 60).toNat (ofDay % 60).toNat t.second t.nanos

end Instant

end LoraBridge
