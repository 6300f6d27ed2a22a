/-! # Blank characters

  The characters that count as white space in Unicode. Times and store addresses may be
  surrounded by them.
-/

namespace LoraBridge.Text

/-- A character with the property White_Space. -/
def isBlank (c : Char) : Bool :=
  let n := c.toNat
  (0x09 ≤ n && n ≤ 0x0D) || n = 0x20 || n = 0x85 || n = 0xA0 || n = 0x1680 ||
    (0x2000 ≤ n && n ≤ 0x200A) || n = 0x2028 || n = 0x2029 || n = 0x202F || n = 0x205F ||
    n = 0x3000

/-- The text without the blanks it begins with. -/
def trimLeft (s : List Char) : List Char := s.dropWhile isBlank

end LoraBridge.Text
