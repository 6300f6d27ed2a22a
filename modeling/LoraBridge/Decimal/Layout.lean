import LoraBridge.Decimal.Shortest

/-! # Decimals as text

  How the digits of a number are laid out. Three layouts occur: the one of documents, the one of
  settings, and the one of messages about settings.
-/

namespace LoraBridge.Decimal

/-- How a finite number is written. -/
structure Layout where
  /-- The number is positional if its leading digit has an exponent in this range, and has one
      digit before the point and an exponent otherwise. -/
  isPositional : Int → Bool
  /-- What follows a whole number. -/
  wholeEnd : List Char

/-- Documents: positional from `10 ^ -5` to below `10 ^ 16`, and always with a point there. -/
def Layout.document : Layout where
  isPositional e := -5 ≤ e && e < 16
  wholeEnd := ['.', '0']

/-- Settings: always positional, and no point in a whole number. -/
def Layout.setting : Layout where
  isPositional _ := true
  wholeEnd := []

/-- Messages about settings: always positional, with a point. -/
def Layout.settingMessage : Layout where
  isPositional _ := true
  wholeEnd := ['.', '0']

/-- An exponent with its sign. -/
def exponentText (e : Int) : List Char :=
  'e' :: (if e < 0 then '-' else '+') :: (Nat.toDigits 10 e.natAbs)

/-- The number `d * 10 ^ k`, with `d > 0`. -/
def Layout.positive (l : Layout) (d : Nat) (k : Int) : List Char :=
  let digits := Nat.toDigits 10 d
  let e := k + digits.length - 1
  if l.isPositional e then
    if 0 ≤ k then digits ++ List.replicate k.toNat '0' ++ l.wholeEnd
    else if 0 ≤ e then digits.take (e + 1).toNat ++ '.' :: digits.drop (e + 1).toNat
    else '0' :: '.' :: List.replicate (-e - 1).toNat '0' ++ digits
  else
    match digits with
    | [] => []
    | [c] => c :: exponentText e
    | c :: rest => c :: '.' :: rest ++ exponentText e

/-- The text of a finite number, if the double is one. -/
def Layout.render? (l : Layout) (x : Float) : Option (List Char) :=
  let sign (negative : Bool) (t : List Char) := if negative then '-' :: t else t
  match Double.ofFloat x with
  | .finite negative m q =>
    let (d, k) := shortest m q
    some (sign negative (l.positive d k))
  | .zero negative => some (sign negative ('0' :: l.wholeEnd))
  | .infinite _ | .notANumber => none

/-- The text of a double where there is one for every double. -/
def Layout.render (l : Layout) (x : Float) : List Char :=
  match l.render? x, Double.ofFloat x with
  | some t, _ => t
  | none, .infinite negative => if negative then "-inf".toList else "inf".toList
  | none, _ => "NaN".toList

end LoraBridge.Decimal
