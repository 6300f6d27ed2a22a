import LoraBridge.Instant.Basic
import LoraBridge.Text.Blank

/-! # Reading instants

  The reader takes what `render` writes and more: fields need not be padded, blanks may stand
  before a field and before a separator, the letter between date and time may be small or a
  space, the fraction may have any number of digits, of which nine count, and the zone may be
  `Z`, `UTC` or an offset such as `+02:00`. An instant given with an offset is moved to UTC.

  What is refused is refused for one of the reasons in `Fault`. Fields are checked from left to
  right, each for its own range; only then whether together they form a local time, and last
  whether that time is still an instant in UTC.
-/

namespace LoraBridge.Instant

/-- Why a text is no instant. -/
inductive Fault where
  /-- The text ends before the instant is complete. -/
  | tooShort
  /-- Another character is needed here. -/
  | invalid
  /-- A number is out of its range, or the fields form no local time. -/
  | outOfRange
  /-- In UTC the local time lies before the first instant or after the last one. -/
  | unreachable
  /-- Something follows the instant. -/
  | tooLong
deriving Repr, DecidableEq

/-- What is reported of a fault. -/
def Fault.message : Fault → String
  | .tooShort => "premature end of input"
  | .invalid => "input contains invalid characters"
  | .outOfRange => "input is out of range"
  | .unreachable => "no possible date and time matching input"
  | .tooLong => "trailing input"

/-! ### Numbers and separators -/

/-- The number that some digits write. -/
def numberOf (digits : List Char) : Nat :=
  digits.foldl (fun n c => n * 10 + (c.toNat - 48)) 0

/-- The digits a text begins with, at most `width` of them, and the rest. -/
def splitDigits : Nat → List Char → List Char × List Char
  | 0, s => ([], s)
  | _, [] => ([], [])
  | n + 1, c :: s =>
    if c.isDigit then
      let (ds, rest) := splitDigits n s
      (c :: ds, rest)
    else ([], c :: s)

/-- Reads a number of at most `width` digits. -/
def readNumber (width : Nat) (s : List Char) : Except Fault (Nat × List Char) :=
  match s, splitDigits width s with
  | [], _ => .error .tooShort
  | _, ([], _) => .error .invalid
  | _, (ds, rest) => .ok (numberOf ds, rest)

/-- Reads a number of at most two digits that lies between `lo` and `hi`, after blanks. -/
def readField (lo hi : Nat) (s : List Char) : Except Fault (Nat × List Char) := do
  let (n, rest) ← readNumber 2 (Text.trimLeft s)
  if lo ≤ n ∧ n ≤ hi then .ok (n, rest) else .error .outOfRange

/-- Reads a separator, after blanks. -/
def readSeparator (c : Char) (s : List Char) : Except Fault (List Char) :=
  match Text.trimLeft s with
  | [] => .error .tooShort
  | d :: rest => if d = c then .ok rest else .error .invalid

/-- Reads a year, after blanks: at most four digits, or a sign and any number of digits. -/
def readYear (s : List Char) : Except Fault (Int × List Char) := do
  let s := Text.trimLeft s
  let (year, rest) ← match s with
    | '-' :: s => do
      let (n, rest) ← readNumber s.length s
      pure (-(n : Int), rest)
    | '+' :: s => do
      let (n, rest) ← readNumber s.length s
      pure ((n : Int), rest)
    | s => do
      let (n, rest) ← readNumber 4 s
      pure ((n : Int), rest)
  if -2147483648 ≤ year ∧ year ≤ 2147483647 then .ok (year, rest) else .error .outOfRange

/-- Reads the fraction of a second, if there is one. Digits after the ninth do not count. -/
def readFraction (s : List Char) : Except Fault (Nat × List Char) :=
  match s with
  | '.' :: s => do
    let (_, _) ← readNumber 9 s
    let (ds, rest) := splitDigits 9 s
    .ok (numberOf ds * Nat.pow 10 (9 - ds.length), rest.dropWhile Char.isDigit)
  | s => .ok (0, s)

/-! ### The zone -/

/-- Two digits, the first of them at most `top`. -/
def readPair (top : Char) (s : List Char) : Except Fault (Nat × List Char) :=
  match s with
  | a :: b :: rest =>
    if a.isDigit && b.isDigit then
      if a ≤ top then .ok (numberOf [a, b], rest) else .error .outOfRange
    else .error .invalid
  | [a] => if a.utf8Size < 2 then .error .tooShort else .error .invalid
  | [] => .error .tooShort

/-- Reads an offset from UTC in minutes: hours, any colons and blanks, minutes. -/
def readOffset (s : List Char) : Except Fault (Int × List Char) := do
  let (sign, s) ← match s with
    | '+' :: s => .ok ((1 : Int), s)
    | '-' :: s => .ok (-1, s)
    | '\u2212' :: s => .ok (-1, s)
    | _ :: _ => .error .invalid
    | [] => .error .tooShort
  let (hours, s) ← readPair '9' s
  let s := s.dropWhile fun c => c = ':' || Text.isBlank c
  let (minutes, s) ← readPair '5' s
  .ok (sign * (hours * 60 + minutes : Nat), s)

/-- Reads the zone: the mark of UTC or an offset. -/
def readZone (s : List Char) : Except Fault (Int × List Char) :=
  match s with
  | 'Z' :: rest => .ok (0, rest)
  | 'z' :: rest => .ok (0, rest)
  | u :: t :: c :: rest =>
    if u.toUpper = 'U' ∧ t.toUpper = 'T' ∧ c.toUpper = 'C' then .ok (0, rest)
    else readOffset s
  | _ => readOffset s

/-! ### Instants -/

/-- Reads the letter between date and time. -/
def readMiddle (s : List Char) : Except Fault (List Char) :=
  match s with
  | 'T' :: rest => .ok rest
  | 't' :: rest => .ok rest
  | ' ' :: rest => .ok rest
  | _ :: _ => .error .invalid
  | [] => .error .tooShort

/-- The local time with these fields. Second 60 is a leap second. -/
def localTime? (year : Int) (month day hour minute second nanos : Nat) : Option Instant :=
  if second = 60 then ofFields? year month day hour minute 59 (nanos + 1000000000)
  else ofFields? year month day hour minute second nanos

/-- Moves a local time to UTC. An offset is less than a day either way. -/
def ofLocal (localTime : Instant) (offset : Int) : Except Fault Instant :=
  if -1440 < offset ∧ offset < 1440 then
    match localTime.shift? (-offset) with
    | some t => .ok t
    | none => .error .unreachable
  else .error .outOfRange

/-- The instant that a text writes. -/
def parse (s : List Char) : Except Fault Instant := do
  let (year, s) ← readYear s
  let s ← readSeparator '-' s
  let (month, s) ← readField 1 12 s
  let s ← readSeparator '-' s
  let (day, s) ← readField 1 31 s
  let s ← readMiddle s
  let (hour, s) ← readField 0 23 s
  let s ← readSeparator ':' s
  let (minute, s) ← readField 0 59 s
  let s ← readSeparator ':' s
  let (second, s) ← readField 0 60 s
  let (nanos, s) ← readFraction s
  let (offset, s) ← readZone (Text.trimLeft s)
  if Text.trimLeft s ≠ [] then .error .tooLong
  else match localTime? year month day hour minute second nanos with
    | some t => ofLocal t offset
    | none => .error .outOfRange

end LoraBridge.Instant
