/-! # Shortest decimals

  A double stands for one real number, and every real near enough to it is read back as the same
  double. Of the decimals in that interval this module finds the one with the fewest digits, and
  of several with that few the nearest one.

  - `Double.ofFloat` takes a double apart: `m * 2 ^ q`, with its sign.
  - `Interval` holds the reals that round to it, as exact fractions.
  - `shortest` walks over the grids of multiples of a power of ten, from coarse to fine. The first
    grid with a point in the interval gives the decimal: a coarser grid has no point in it, so no
    decimal with fewer digits is read back.
-/

namespace LoraBridge.Decimal

/-! ### Doubles taken apart -/

/-- A double by its meaning. -/
inductive Double where
  /-- The number `± m * 2 ^ q` with `m > 0`. -/
  | finite (negative : Bool) (m : Nat) (q : Int)
  | zero (negative : Bool)
  | infinite (negative : Bool)
  | notANumber
deriving Repr, DecidableEq

/-- The meaning of the 64 bits of a double. -/
def Double.ofBits (bits : Nat) : Double :=
  let negative : Bool := bits / Nat.pow 2 63 % 2 = 1
  let exponent : Nat := bits / Nat.pow 2 52 % Nat.pow 2 11
  let fraction : Nat := bits % Nat.pow 2 52
  if exponent = Nat.pow 2 11 - 1 then
    if fraction = 0 then .infinite negative else .notANumber
  else if exponent = 0 then
    if fraction = 0 then .zero negative else .finite negative fraction (-1074)
  else .finite negative (Nat.pow 2 52 + fraction) ((exponent : Int) - 1075)

/-- The meaning of a double. -/
def Double.ofFloat (x : Float) : Double := Double.ofBits x.toBits.toNat

/-! ### What rounds to a double -/

/-- The reals that round to a double, as fractions over one denominator: `low` and `high` are
    halfway to its neighbours. -/
structure Interval where
  low : Nat
  value : Nat
  high : Nat
  denominator : Nat
  /-- Whether the ends themselves round to the double. -/
  closed : Bool
deriving Repr

/-- The reals that round to `m * 2 ^ q`. The neighbour below is only half as far away where `m`
    is the least with its number of digits, unless there is no smaller power. Halfway points
    round to the even neighbour. -/
def Interval.of (m : Nat) (q : Int) : Interval :=
  let up := Nat.pow 2 (q - 2).toNat
  let below := if m = Nat.pow 2 52 ∧ q > -1074 then 1 else 2
  { low := (4 * m - below) * up
    value := 4 * m * up
    high := (4 * m + 2) * up
    denominator := Nat.pow 2 (2 - q).toNat
    closed := m % 2 = 0 }

/-- The interval in units of `10 ^ k`. -/
def Interval.inUnits (i : Interval) (k : Int) : Interval :=
  let up := Nat.pow 10 (-k).toNat
  { i with
    low := i.low * up
    value := i.value * up
    high := i.high * up
    denominator := i.denominator * Nat.pow 10 k.toNat }

/-- Whether the interval holds the whole number `d`. -/
def Interval.holds (i : Interval) (d : Nat) : Bool :=
  let p := d * i.denominator
  if i.closed then i.low ≤ p && p ≤ i.high else i.low < p && p < i.high

/-- The whole number in the interval that is nearest to its value, if there is one. It is one of
    the value's two neighbours; of two that are equally near the even one is taken. -/
def Interval.nearest? (i : Interval) : Option Nat :=
  let d := i.value / i.denominator
  match i.holds d, i.holds (d + 1) with
  | false, false => none
  | true, false => some d
  | false, true => some (d + 1)
  | true, true =>
    let twice := 2 * (i.value - d * i.denominator)
    if twice < i.denominator then some d
    else if i.denominator < twice then some (d + 1)
    else if d % 2 = 0 then some d else some (d + 1)

/-! ### The search -/

/-- A power of ten whose multiples are all at least `m * 2 ^ q`, save zero. -/
def coarsest (m : Nat) (q : Int) : Int :=
  (((m.log2 : Int) + 1 + q) * 30103).fdiv 100000 + 1

/-- The first hit on the grids from `10 ^ k` on, each ten times as fine as the one before. -/
def search (i : Interval) : Nat → Int → Option (Nat × Int)
  | 0, _ => none
  | n + 1, k =>
    match (i.inUnits k).nearest? with
    | some d => some (d, k)
    | none => search i n (k - 1)

/-- The decimal `d * 10 ^ k` with the fewest digits that is read back as `m * 2 ^ q`. No double
    needs more than seventeen digits, so the search ends with a hit. -/
def shortest (m : Nat) (q : Int) : Nat × Int :=
  (search (Interval.of m q) 24 (coarsest m q)).getD (m, 0)

end LoraBridge.Decimal
