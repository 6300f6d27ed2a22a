/-! # Text and its bytes

  Everything that crosses the broker is a list of bytes. This module fixes how text is written
  as bytes (UTF-8) and when bytes are the writing of a text.

  - `Text.bytes` writes a text.
  - `Text.ofBytes?` reads one back and refuses bytes that are no writing of a text.
  - `Text.ofBytesLossy` reads any bytes, putting U+FFFD where they are no text.

  Main statement: `Text.ofBytes?_bytes`, what was written is read back.
-/

namespace LoraBridge

/-- A payload: what is sent, received or stored. -/
abbrev Bytes := List UInt8

namespace Text

/-! ### Writing and reading -/

/-- The UTF-8 writing of a text. -/
def bytes (s : String) : Bytes := s.toList.flatMap String.utf8EncodeChar

/-- The text that the bytes write, if they are well-formed UTF-8. -/
def ofBytes? (b : Bytes) : Option String := String.fromUTF8? b.toByteArray

theorem toByteArray_bytes (s : String) : (bytes s).toByteArray = s.toByteArray :=
  String.utf8Encode_toList

theorem ofBytes?_bytes (s : String) : ofBytes? (bytes s) = some s := by
  simp only [ofBytes?, String.fromUTF8?, toByteArray_bytes, dif_pos s.isValidUTF8]
  rfl

/-- The mark that a file may begin with, to say that it is UTF-8. -/
def byteOrderMark : Bytes := [0xEF, 0xBB, 0xBF]

/-- The bytes of a file after the mark. -/
def withoutMark (b : Bytes) : Bytes :=
  if byteOrderMark.isPrefixOf b then b.drop byteOrderMark.length else b

/-! ### Reading what may be damaged -/

/-- How a character may begin: the number of bytes that follow its first byte, and the range
    that the first of them must lie in. -/
def lead? (b : UInt8) : Option (Nat × UInt8 × UInt8) :=
  if 0xC2 ≤ b && b ≤ 0xDF then some (1, 0x80, 0xBF)
  else if b = 0xE0 then some (2, 0xA0, 0xBF)
  else if b = 0xED then some (2, 0x80, 0x9F)
  else if 0xE1 ≤ b && b ≤ 0xEF then some (2, 0x80, 0xBF)
  else if b = 0xF0 then some (3, 0x90, 0xBF)
  else if b = 0xF4 then some (3, 0x80, 0x8F)
  else if 0xF1 ≤ b && b ≤ 0xF3 then some (3, 0x80, 0xBF)
  else none

/-- The number of bytes after a first byte that go on with its character, at most `n`. -/
def continued (n : Nat) (lo hi : UInt8) : Bytes → Nat
  | [] => 0
  | b :: bs => match n with
    | 0 => 0
    | n + 1 => if lo ≤ b && b ≤ hi then continued n 0x80 0xBF bs + 1 else 0

/-- Reads any bytes as text: each longest beginning of a character that is not completed, and
    each byte that begins none, becomes one U+FFFD. -/
def lossyChars : Nat → Bytes → List Char
  | 0, _ => []
  | _, [] => []
  | n + 1, b :: bs =>
    if b < 0x80 then Char.ofNat b.toNat :: lossyChars n bs
    else match lead? b with
      | none => '\uFFFD' :: lossyChars n bs
      | some (len, lo, hi) =>
        let got := continued len lo hi bs
        let c := if got = len then
            ((ofBytes? (b :: bs.take got)).bind (·.toList.head?)).getD '\uFFFD'
          else '\uFFFD'
        c :: lossyChars n (bs.drop got)

/-- Reads any bytes as text, with U+FFFD where they are none. -/
def ofBytesLossy (b : Bytes) : String := String.ofList (lossyChars b.length b)

end Text

end LoraBridge
