/-! # Reading natural numbers

  A natural number in a setting or an address is written with decimal digits, perhaps after a
  plus sign, and may begin with zeros.
-/

namespace LoraBridge.Decimal

/-- The number that some digits write. -/
def ofDigits (digits : List Char) : Nat :=
  digits.foldl (fun n c => n * 10 + (c.toNat - '0'.toNat)) 0

/-- The number that at least one digit writes. -/
def natOfDigits? (digits : List Char) : Option Nat :=
  if !digits.isEmpty && digits.all Char.isDigit then some (ofDigits digits) else none

/-- The number that a text writes, if it is at most `max`. -/
def readUnsigned? (max : Nat) (s : List Char) : Option Nat :=
  let digits := match s with
    | '+' :: rest => rest
    | s => s
  (natOfDigits? digits).filter (· ≤ max)

end LoraBridge.Decimal
