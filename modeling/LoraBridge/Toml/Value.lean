import LoraBridge.Text.Utf8

/-! # TOML values

  What stands behind a key in a TOML file. A date or time is kept as its text.
-/

namespace LoraBridge.Toml

/-- A TOML value. -/
inductive Value where
  | text (s : String)
  | integer (n : Int)
  | real (x : Float)
  | boolean (b : Bool)
  | instant (s : String)
  | list (items : List Value)
  | table (members : List (String × Value))

/-- A reader takes something off the front of a text; the text may be none. -/
abbrev Reader (α : Type) := List Char → Option (α × List Char)

/-- A character that a text on one line may contain. -/
def isPlain (c : Char) : Bool :=
  let n := c.toNat
  n = 9 || (32 ≤ n && n ≠ 127)

/-- A character that may stand between tokens of a line. -/
def isBlank (c : Char) : Bool := c = ' ' || c = '\t'

/-- The text without the blanks it begins with. -/
def skipBlanks (s : List Char) : List Char := s.dropWhile isBlank

/-- The text after the end of a line, if it begins with one. -/
def lineEnd? : List Char → Option (List Char)
  | '\n' :: rest => some rest
  | '\r' :: '\n' :: rest => some rest
  | _ => none

end LoraBridge.Toml
