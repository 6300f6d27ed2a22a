import LoraBridge.Instant.Basic

/-! # Writing instants

  An instant is written as `2024-05-01T12:30:00.5Z`: date, time of day and the mark of UTC. Years
  that do not have four digits take a sign. The fraction has no digits, three, six or nine, the
  fewest that are exact. A fraction of a thousand million nanoseconds or more is written with the
  number of the next second, so a leap second is written as second 60.
-/

namespace LoraBridge.Instant

/-- A number with zeros before it, so that it has at least `width` digits. -/
def padded (width n : Nat) : List Char :=
  let digits := Nat.toDigits 10 n
  List.replicate (width - digits.length) '0' ++ digits

/-- The year: four digits, or a sign and at least four. -/
def renderYear (year : Int) : List Char :=
  if 0 ≤ year ∧ year ≤ 9999 then padded 4 year.toNat
  else (if year < 0 then '-' else '+') :: padded 4 year.natAbs

/-- The fraction of a second. -/
def renderFraction (nanos : Nat) : List Char :=
  if nanos = 0 then []
  else if nanos % 1000000 = 0 then '.' :: padded 3 (nanos / 1000000)
  else if nanos % 1000 = 0 then '.' :: padded 6 (nanos / 1000)
  else '.' :: padded 9 nanos

/-- The written form of an instant. -/
def render (t : Instant) : List Char :=
  let second := if t.nanos < 1000000000 then t.second else t.second + 1
  renderYear t.year ++ '-' :: padded 2 t.month ++ '-' :: padded 2 t.day ++
    'T' :: padded 2 t.hour ++ ':' :: padded 2 t.minute ++ ':' :: padded 2 second ++
    renderFraction (t.nanos % 1000000000) ++ ['Z']

end LoraBridge.Instant
