/-! # Lower case

  Names of settings and log levels may be given in either case. All of them consist of ASCII
  letters, so of the characters beyond ASCII only the one matters whose lower case is such a
  letter.
-/

namespace LoraBridge.Text

/-- The sign of the unit kelvin, whose lower case is `k`. -/
def kelvinSign : Char := Char.ofNat 0x212A

/-- The lower case of a letter of ASCII or of the kelvin sign; other characters stay. -/
def lowerChar (c : Char) : Char := if c = kelvinSign then 'k' else c.toLower

/-- A text in lower case. -/
def lower (s : List Char) : List Char := s.map lowerChar

end LoraBridge.Text
