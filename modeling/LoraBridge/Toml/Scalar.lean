import LoraBridge.Decimal.Unsigned
import LoraBridge.Instant.Basic
import LoraBridge.Instant.Printer
import LoraBridge.Toml.Text

/-! # TOML numbers, dates and times

  A scalar without quotes is a word: a run of letters, digits, signs, underscores, points and
  colons. What it means depends on its form alone. Underscores may stand between two digits.
-/

namespace LoraBridge.Toml

/-- A character of a word. -/
def isWordChar (c : Char) : Bool := c.isAlphanum || "+-_.:".toList.contains c

/-! ### Digits -/

/-- The digits of a run in which single underscores may stand between two of them. -/
def digitsOf? (isDigit : Char → Bool) (s : List Char) : Option (List Char) :=
  let parts := s.splitOn '_'
  if parts.all fun part => !part.isEmpty && part.all isDigit then some parts.flatten else none

/-- Takes a sign off a word; says whether it is a minus. -/
def splitSign : List Char → Bool × List Char
  | '-' :: rest => (true, rest)
  | '+' :: rest => (false, rest)
  | s => (false, s)

/-- Whether digits do not begin with a zero that could be left out. -/
def isMinimal (digits : List Char) : Bool := digits.length = 1 || digits.head? ≠ some '0'

/-! ### Integers -/

/-- The value of digits in a base. -/
def valueIn (base : Nat) (digits : List Char) : Nat :=
  digits.foldl (fun n c => n * base + (hexDigit? c).getD 0) 0

/-- A number that fits 64 bits. -/
def fits (n : Int) : Option Int :=
  if -(Nat.pow 2 63 : Int) ≤ n ∧ n < Nat.pow 2 63 then some n else none

/-- The number that a word with a base writes. -/
def basedInteger? (base : Nat) (isDigit : Char → Bool) (s : List Char) : Option Int := do
  let digits ← digitsOf? isDigit s
  fits (valueIn base digits)

/-- The number that a word writes. -/
def integer? (s : List Char) : Option Int :=
  match s with
  | '0' :: 'x' :: digits => basedInteger? 16 (fun c => (hexDigit? c).isSome) digits
  | '0' :: 'o' :: digits => basedInteger? 8 (fun c => '0' ≤ c && c ≤ '7') digits
  | '0' :: 'b' :: digits => basedInteger? 2 (fun c => c = '0' || c = '1') digits
  | s => do
    let (negative, s) := splitSign s
    let digits ← digitsOf? Char.isDigit s
    if isMinimal digits then
      let n : Int := Decimal.ofDigits digits
      fits (if negative then -n else n)
    else none

/-! ### Doubles -/

/-- Splits a text before the first character that `p` accepts. -/
def splitAt (p : Char → Bool) (s : List Char) : List Char × List Char :=
  (s.takeWhile fun c => !p c, s.dropWhile fun c => !p c)

/-- The exponent after its letter. -/
def exponent? (s : List Char) : Option Int := do
  let (negative, s) := splitSign s
  let n : Int := Decimal.ofDigits (← digitsOf? Char.isDigit s)
  some (if negative then -n else n)

/-- The double nearest to `n * 10 ^ e`. -/
def nearest (n : Nat) (e : Int) : Float := Float.ofScientific n (e < 0) e.natAbs

/-- An exponent at which every number is zero or too large anyway. -/
def farExponent : Int := 100000

/-- The double that a word writes which has a point or an exponent. -/
def decimal? (s : List Char) : Option Float := do
  let (negative, s) := splitSign s
  let (mantissa, tail) := splitAt (fun c => c = 'e' || c = 'E') s
  let (whole, fraction) := splitAt (· = '.') mantissa
  let wholeDigits ← digitsOf? Char.isDigit whole
  let fractionDigits ← match fraction with
    | [] => some []
    | _ :: digits => digitsOf? Char.isDigit digits
  let e ← match tail with
    | [] => some 0
    | _ :: e => exponent? e
  if !isMinimal wholeDigits || (fraction.isEmpty && tail.isEmpty) then none
  else
    let e := max (-farExponent) (min e farExponent) - fractionDigits.length
    let x := nearest (Decimal.ofDigits (wholeDigits ++ fractionDigits)) e
    if x.isInf then none else some (if negative then -x else x)

/-- The double that a word writes. -/
def real? (s : List Char) : Option Float :=
  let (negative, rest) := splitSign s
  if rest = "inf".toList then some (if negative then -1.0 / 0.0 else 1.0 / 0.0)
  else if rest = "nan".toList then some (0.0 / 0.0)
  else decimal? s

/-! ### Dates and times -/

/-- The number that exactly `n` digits write. -/
def field? (n : Nat) (s : List Char) : Option Nat :=
  if s.length = n then Decimal.natOfDigits? s else none

/-- A date, as it is written. -/
def date? (s : List Char) : Option (List Char) :=
  match s.splitOn '-' with
  | [year, month, day] => do
    let y ← field? 4 year
    let m ← field? 2 month
    let d ← field? 2 day
    if 1 ≤ m ∧ m ≤ 12 ∧ 1 ≤ d ∧ d ≤ Calendar.daysIn y m then some s else none
  | _ => none

/-- A fraction of a second, cut to nanoseconds and then without the zeros at its end, save for
    one if there is nothing else. -/
def fraction? (s : List Char) : Option (List Char) :=
  match s with
  | [] => some []
  | '.' :: digits =>
    if digits.isEmpty || !digits.all Char.isDigit then none
    else
      let kept := ((digits.take 9).reverse.dropWhile (· = '0')).reverse
      some (if kept.isEmpty then ".0".toList else '.' :: kept)
  | _ => none

/-- A time of day in its shortest form. The seconds may be left out. -/
def time? (s : List Char) : Option (List Char) :=
  let (clock, fraction) := splitAt (· = '.') s
  match clock.splitOn ':' with
  | [hour, minute] => do
    let h ← field? 2 hour
    let m ← field? 2 minute
    if h < 24 ∧ m < 60 ∧ fraction.isEmpty then some clock else none
  | [hour, minute, second] => do
    let h ← field? 2 hour
    let m ← field? 2 minute
    let s ← field? 2 second
    let fraction ← fraction? fraction
    if h < 24 ∧ m < 60 ∧ s ≤ 60 then some (clock ++ fraction) else none
  | _ => none

/-- An offset from UTC. One of zero is written with a plus. -/
def offset? (s : List Char) : Option (List Char) :=
  match s with
  | ['Z'] | ['z'] => some ['Z']
  | sign :: rest =>
    match rest.splitOn ':' with
    | [hour, minute] => do
      let h ← field? 2 hour
      let m ← field? 2 minute
      if (sign = '+' ∨ sign = '-') ∧ h < 24 ∧ m < 60 then
        some ((if h = 0 ∧ m = 0 then '+' else sign) :: rest)
      else none
    | _ => none
  | [] => none

/-- A time of day that an offset may follow. -/
def timeWithOffset? (s : List Char) : Option (List Char) :=
  let (time, offset) := splitAt (fun c => c = 'Z' || c = 'z' || c = '+' || c = '-') s
  if offset.isEmpty then time? time
  else do
    let time ← time? time
    let offset ← offset? offset
    some (time ++ offset)

/-- A date, a time or both, in its normal form. -/
def instant? (s : List Char) : Option (List Char) :=
  match date? (s.take 10), s.drop 10 with
  | some date, [] => some date
  | some date, mark :: time =>
    if mark = 'T' ∨ mark = 't' ∨ mark = ' ' then
      (timeWithOffset? time).map fun time => date ++ 'T' :: time
    else none
  | none, _ => time? s

/-! ### Words -/

/-- The word that a text begins with. A date and a time may be two words. -/
def splitWord (s : List Char) : List Char × List Char :=
  let word := s.takeWhile isWordChar
  match date? word, s.drop word.length with
  | some _, ' ' :: c :: rest =>
    if c.isDigit then
      let time := (c :: rest).takeWhile isWordChar
      (word ++ ' ' :: time, (c :: rest).drop time.length)
    else (word, ' ' :: c :: rest)
  | _, rest => (word, rest)

/-- The value of a word. -/
def valueOfWord? (word : List Char) : Option Value :=
  if word = "true".toList then some (.boolean true)
  else if word = "false".toList then some (.boolean false)
  else ((integer? word).map Value.integer).or <| ((real? word).map Value.real).or <|
    (instant? word).map fun s => .instant (String.ofList s)

/-- Reads a scalar without quotes. -/
def readWord (s : List Char) : Option (Value × List Char) :=
  let (word, rest) := splitWord s
  (valueOfWord? word).map fun value => (value, rest)

end LoraBridge.Toml
