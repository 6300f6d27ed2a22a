import LoraBridge.Json.Fault

/-! # Numbers

  A number without fraction and exponent is whole if it fits 64 bits, signed or unsigned; every
  other number is a double, `-0` too. The double is computed from at most as many digits as fit
  64 bits: their value, rounded to a double, is multiplied or divided by a power of ten. So the
  double nearest to the number is not always the one that is read.
-/

namespace LoraBridge.Json

/-- A number as it is read. -/
inductive Number where
  | whole (n : Int)
  | real (x : Float)
deriving Repr

/-- A byte that is a decimal digit. -/
def isDigit (b : UInt8) : Bool := 48 ≤ b && b ≤ 57

/-- The value of a decimal digit. -/
def digitValue (b : UInt8) : Nat := b.toNat - 48

/-- The largest number that fits 64 bits. -/
def wordMax : Nat := Nat.pow 2 64 - 1

/-! ### Digits -/

/-- Goes on from `n` with the values of some digits as long as the result fits 64 bits. Gives the
    result and the digits that are left. -/
def accumulate (n : Nat) : Bytes → Nat × Bytes
  | [] => (n, [])
  | d :: ds =>
    let m := n * 10 + digitValue d
    if m ≤ wordMax then accumulate m ds else (n, d :: ds)

/-- Splits a text after the digits it begins with. -/
def spanDigits (s : Bytes) : Bytes × Bytes := (s.takeWhile isDigit, s.dropWhile isDigit)

/-! ### Doubles from digits -/

/-- The power `10 ^ n` as a double. -/
def power (n : Nat) : Float := Float.ofScientific 1 false n

/-- Moves the point of `x` by `e` places, if the result is not too large. Far to the left it goes
    in strides of 308 places. -/
def scale? (x : Float) (e : Int) : Option Float :=
  if e.natAbs ≤ 308 then
    if 0 ≤ e then
      let r := x * power e.natAbs
      if r.isInf then none else some r
    else some (x / power e.natAbs)
  else if x == 0 then some x
  else if 0 ≤ e then none
  else scale? (x / power 308) (e + 308)
termination_by e.natAbs
decreasing_by omega

/-- The double of a sign, some digits and an exponent. -/
def toReal (negative : Bool) (significand : Nat) (e : Int) : Except Fault Number :=
  match scale? significand.toUInt64.toFloat e with
  | none => .error .numberOutOfRange
  | some x => .ok (.real (if negative then -x else x))

/-- The value of a number without fraction and exponent, all of whose digits fit 64 bits. -/
def toWhole (negative : Bool) (significand : Nat) : Number :=
  if negative then
    if 1 ≤ significand ∧ significand ≤ Nat.pow 2 63 then .whole (-(significand : Int))
    else .real (-significand.toUInt64.toFloat)
  else .whole significand

/-! ### Reading -/

/-- Reads the exponent after its letter. -/
def readExponent (s : Bytes) : Except Fault (Int × Bytes) :=
  let (negative, s) : Bool × Bytes := match s with
    | 43 :: s => (false, s)
    | 45 :: s => (true, s)
    | s => (false, s)
  match s with
  | [] => .error .endInValue
  | d :: _ =>
    if isDigit d then
      let (ds, rest) := spanDigits s
      let n : Nat := ds.foldl (fun n d => n * 10 + digitValue d) 0
      .ok (if negative then -(n : Int) else n, rest)
    else .error .invalidNumber

/-- Whether a text goes on with an exponent. -/
def atExponent : Bytes → Bool
  | b :: _ => b = 101 || b = 69
  | [] => false

/-- Ends a number that is a double, reading its exponent if it has one. -/
def finishReal (negative : Bool) (significand : Nat) (e : Int) : Reader Number := fun s =>
  if atExponent s then do
    let (exponent, rest) ← readExponent s.tail
    let x ← toReal negative significand (e + exponent)
    .ok (x, rest)
  else do
    let x ← toReal negative significand e
    .ok (x, s)

/-- Reads the digits after the point. -/
def readFraction (negative : Bool) (significand : Nat) (e : Int) : Reader Number := fun s =>
  let (ds, rest) := spanDigits s
  match ds, rest with
  | [], [] => .error .endInValue
  | [], _ :: _ => .error .invalidNumber
  | ds, rest =>
    let (m, left) := accumulate significand ds
    finishReal negative m (e - (ds.length - left.length : Nat)) rest

/-- Reads a number after its sign. -/
def readUnsigned (negative : Bool) : Reader Number := fun s =>
  let (ds, rest) := spanDigits s
  match ds, s with
  | [], [] => .error .endInValue
  | [], _ :: _ => .error .invalidNumber
  | 48 :: _ :: _, _ => .error .invalidNumber
  | ds, _ =>
    let (m, left) := accumulate 0 ds
    match rest with
    | 46 :: rest => readFraction negative m left.length rest
    | rest =>
      if left.isEmpty && !atExponent rest then .ok (toWhole negative m, rest)
      else finishReal negative m left.length rest

/-- Reads a number. -/
def readNumber : Reader Number
  | 45 :: s => readUnsigned true s
  | s => readUnsigned false s

end LoraBridge.Json
