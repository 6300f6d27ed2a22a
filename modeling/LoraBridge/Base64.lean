import LoraBridge.Text.Utf8

/-! # Base64

  Frame data travels as text in the standard alphabet with padding. Three bytes are four symbols;
  a last group of one or two bytes is two or three symbols and is filled up with `=`.

  Reading is strict: it accepts what `encode` writes and nothing else. `Fault` says what is
  wrong with a refused text, and the first fault in this order is the one reported:

  1. a last byte outside the alphabet, if it stands alone after complete groups of four;
  2. the groups before the last one, from left to right;
  3. the last group from left to right;
  4. a last group with fewer than two symbols;
  5. padding that does not complete the last group;
  6. bits of the last symbol that no byte uses.
-/

namespace LoraBridge.Base64

/-! ### The alphabet -/

/-- The byte that fills up the last group. -/
def pad : UInt8 := 61

/-- The symbol of a value below 64. -/
def symbol (n : Nat) : UInt8 :=
  if n < 26 then (65 + n).toUInt8
  else if n < 52 then (71 + n).toUInt8
  else if n < 62 then (n - 4).toUInt8
  else if n = 62 then 43
  else 47

/-- The value of a symbol. -/
def value? (b : UInt8) : Option Nat :=
  let n := b.toNat
  if 65 ≤ n ∧ n ≤ 90 then some (n - 65)
  else if 97 ≤ n ∧ n ≤ 122 then some (n - 71)
  else if 48 ≤ n ∧ n ≤ 57 then some (n + 4)
  else if n = 43 then some 62
  else if n = 47 then some 63
  else none

/-! ### Writing -/

/-- The symbols of some bytes, group by group. -/
def encode : Bytes → Bytes
  | [] => []
  | [a] =>
    let n := a.toNat * 16
    [symbol (n / 64), symbol (n % 64), pad, pad]
  | [a, b] =>
    let n := (a.toNat * 256 + b.toNat) * 4
    [symbol (n / 4096), symbol (n / 64 % 64), symbol (n % 64), pad]
  | a :: b :: c :: rest =>
    let n := (a.toNat * 256 + b.toNat) * 256 + c.toNat
    symbol (n / 262144) :: symbol (n / 4096 % 64) :: symbol (n / 64 % 64) :: symbol (n % 64) ::
      encode rest

/-- The symbols of some bytes as a text. -/
def encodeText (b : Bytes) : String :=
  String.ofList ((encode b).map fun s => Char.ofNat s.toNat)

/-! ### Reading -/

/-- Why a text is no Base64. -/
inductive Fault where
  /-- A byte that must not stand at this offset. -/
  | badSymbol (byte : UInt8) (offset : Nat)
  /-- The last group ends after this many bytes, too early to hold a byte. -/
  | badLength (length : Nat)
  /-- The last group is not filled up to four. -/
  | badPadding
  /-- The last symbol has bits set that no byte uses. -/
  | badLastSymbol (byte : UInt8) (offset : Nat)
deriving Repr, DecidableEq

/-- What is reported of a fault. -/
def Fault.message : Fault → String
  | .badSymbol b n => s!"Invalid symbol {b.toNat}, offset {n}."
  | .badLength n => s!"Invalid input length: {n}"
  | .badPadding => "Invalid padding"
  | .badLastSymbol b n => s!"Invalid last symbol {b.toNat}, offset {n}."

/-- The values of some symbols that stand from `offset` on. -/
def values (offset : Nat) : Bytes → Except Fault (List Nat)
  | [] => .ok []
  | s :: rest =>
    match value? s with
    | none => .error (.badSymbol s offset)
    | some v => (values (offset + 1) rest).map (v :: ·)

/-- The three bytes of four values. -/
def unpack (p q r s : Nat) : Bytes :=
  let n := ((p * 64 + q) * 64 + r) * 64 + s
  [(n / 65536).toUInt8, (n / 256 % 256).toUInt8, (n % 256).toUInt8]

/-- Reads the last group, which stands at `offset`. -/
def decodeLast (offset : Nat) (group : Bytes) : Except Fault Bytes :=
  let symbols := group.takeWhile (· ≠ pad)
  let filling := group.drop symbols.length
  match values offset symbols with
  | .error e => .error e
  | .ok vs =>
    if filling ≠ [] ∧ (symbols.length < 2 ∨ filling.any (· ≠ pad)) then
      .error (.badSymbol pad (offset + symbols.length))
    else match vs with
      | [p, q] =>
        if group.length ≠ 4 then .error .badPadding
        else if q % 16 ≠ 0 then .error (.badLastSymbol (symbol q) (offset + 1))
        else .ok ((unpack p q 0 0).take 1)
      | [p, q, r] =>
        if group.length ≠ 4 then .error .badPadding
        else if r % 4 ≠ 0 then .error (.badLastSymbol (symbol r) (offset + 2))
        else .ok ((unpack p q r 0).take 2)
      | [p, q, r, s] => .ok (unpack p q r s)
      | [] => .ok []
      | _ => .error (.badLength (offset + symbols.length))

/-- Reads the groups that stand from `offset` on. -/
def decodeFrom (offset : Nat) : Bytes → Except Fault Bytes
  | a :: b :: c :: d :: e :: rest =>
    match values offset [a, b, c, d] with
    | .ok [p, q, r, s] =>
      match decodeFrom (offset + 4) (e :: rest) with
      | .error f => .error f
      | .ok bytes => .ok (unpack p q r s ++ bytes)
    | .ok _ => .error (.badLength offset)
    | .error f => .error f
  | group => decodeLast offset group

/-- The byte after complete groups of four that is neither a symbol nor padding, if it is the
    last one and stands alone. -/
def strayEnd? (text : Bytes) : Option UInt8 :=
  if text.length % 4 = 1 then
    text.getLast?.filter fun b => b ≠ pad && (value? b).isNone
  else none

/-- The bytes that a text in Base64 stands for. -/
def decode (text : Bytes) : Except Fault Bytes :=
  match strayEnd? text with
  | some b => .error (.badSymbol b (text.length - 1))
  | none => decodeFrom 0 text

end LoraBridge.Base64
