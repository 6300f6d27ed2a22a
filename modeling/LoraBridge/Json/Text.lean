import LoraBridge.Json.Fault

/-! # Texts in JSON

  - `escape` writes a text: quotes, backslashes and control characters are escaped, every other
    character stands as it is.
  - `readText` reads one after its opening quote. Escapes may stand for any character, those
    beyond the first plane as two halves. The bytes of the whole text have to be UTF-8, which is
    checked once its closing quote is found.
-/

namespace LoraBridge.Json

/-! ### Writing -/

/-- The two digits, in base sixteen, of a number below 256. -/
def twoHexDigits (n : Nat) : List Char := [Nat.digitChar (n / 16), Nat.digitChar (n % 16)]

/-- How one character is written inside a text. -/
def escapeChar (c : Char) : List Char :=
  if c = '"' then ['\\', '"']
  else if c = '\\' then ['\\', '\\']
  else if c = '\x08' then ['\\', 'b']
  else if c = '\x0c' then ['\\', 'f']
  else if c = '\n' then ['\\', 'n']
  else if c = '\r' then ['\\', 'r']
  else if c = '\t' then ['\\', 't']
  else if c.toNat < 32 then '\\' :: 'u' :: '0' :: '0' :: twoHexDigits c.toNat
  else [c]

/-- A text with its quotes. -/
def escape (s : String) : List Char := '"' :: s.toList.flatMap escapeChar ++ ['"']

/-! ### Escapes -/

/-- The value of a digit in base sixteen, of either case. -/
def hexValue? (b : UInt8) : Option Nat :=
  let n := b.toNat
  if 48 ≤ n ∧ n ≤ 57 then some (n - 48)
  else if 65 ≤ n ∧ n ≤ 70 then some (n - 55)
  else if 97 ≤ n ∧ n ≤ 102 then some (n - 87)
  else none

/-- The number that four digits in base sixteen write. -/
def hexWord? (a b c d : UInt8) : Option Nat := do
  let a ← hexValue? a
  let b ← hexValue? b
  let c ← hexValue? c
  let d ← hexValue? d
  some (((a * 16 + b) * 16 + c) * 16 + d)

/-- The character that a letter after a backslash stands for. -/
def shortEscape? (b : UInt8) : Option UInt8 :=
  if b = 34 then some 34
  else if b = 92 then some 92
  else if b = 47 then some 47
  else if b = 98 then some 8
  else if b = 102 then some 12
  else if b = 110 then some 10
  else if b = 114 then some 13
  else if b = 116 then some 9
  else none

/-- The first half of a character beyond the first plane. -/
def isHighHalf (n : Nat) : Bool := 0xD800 ≤ n && n ≤ 0xDBFF

/-- The second half of a character beyond the first plane. -/
def isLowHalf (n : Nat) : Bool := 0xDC00 ≤ n && n ≤ 0xDFFF

/-- The bytes of a character given by its number, in reverse. -/
def reversedBytes (n : Nat) : Bytes := (String.utf8EncodeChar (Char.ofNat n)).reverse

/-! ### Reading -/

/-- Reads the bytes of a text up to its closing quote; `read` holds those before, in reverse. -/
def readTextBytes (read : Bytes) : Bytes → Except Fault (Bytes × Bytes)
  | [] => .error .endInText
  | 34 :: rest => .ok (read.reverse, rest)
  | 92 :: [] => .error .endInText
  | 92 :: 117 :: a :: b :: c :: d :: rest =>
    match hexWord? a b c d with
    | none => .error .invalidEscape
    | some n =>
      if isLowHalf n then .error .loneSurrogate
      else if isHighHalf n then
        match rest with
        | [] => .error .endInText
        | 92 :: [] => .error .endInText
        | 92 :: 117 :: e :: f :: g :: h :: rest =>
          match hexWord? e f g h with
          | none => .error .invalidEscape
          | some m =>
            if isLowHalf m then
              readTextBytes
                (reversedBytes ((n - 0xD800) * 1024 + (m - 0xDC00) + 0x10000) ++ read) rest
            else .error .loneSurrogate
        | 92 :: 117 :: _ => .error .endInText
        | _ :: _ => .error .unpairedSurrogate
      else readTextBytes (reversedBytes n ++ read) rest
  | 92 :: 117 :: _ => .error .endInText
  | 92 :: e :: rest =>
    match shortEscape? e with
    | none => .error .invalidEscape
    | some b => readTextBytes (b :: read) rest
  | b :: rest =>
    if b < 32 then .error .controlCharacter else readTextBytes (b :: read) rest

/-- Reads a text after its opening quote. -/
def readText : Reader String := fun s => do
  let (b, rest) ← readTextBytes [] s
  match Text.ofBytes? b with
  | some t => .ok (t, rest)
  | none => .error .invalidCodePoint

end LoraBridge.Json
