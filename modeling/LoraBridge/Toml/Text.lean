import LoraBridge.Toml.Value

/-! # TOML texts

  A text stands in quotes: in double ones it may contain escapes, in single ones everything
  stands for itself. Tripled quotes allow several lines; the line end right after them does not
  count, and every other one stays as it is written.
-/

namespace LoraBridge.Toml

/-! ### Escapes -/

/-- The value of a digit in base sixteen. -/
def hexDigit? (c : Char) : Option Nat :=
  if c.isDigit then some (c.toNat - 48)
  else if 'a' ≤ c ∧ c ≤ 'f' then some (c.toNat - 87)
  else if 'A' ≤ c ∧ c ≤ 'F' then some (c.toNat - 55)
  else none

/-- The number that digits in base sixteen write. -/
def hexNumber? (digits : List Char) : Option Nat :=
  digits.foldlM (fun n c => (hexDigit? c).map (n * 16 + ·)) 0

/-- The character with a number, if there is one. -/
def charOf? (n : Nat) : Option Char := if n.isValidChar then some (Char.ofNat n) else none

/-- Reads the character that `n` digits stand for. -/
def readNumbered (n : Nat) : Reader Char := fun s => do
  let digits := s.take n
  if digits.length < n then none
  else
    let c ← charOf? (← hexNumber? digits)
    some (c, s.drop n)

/-- Reads an escape after its backslash. -/
def readEscape : Reader Char
  | 'b' :: rest => some ('\x08', rest)
  | 't' :: rest => some ('\t', rest)
  | 'n' :: rest => some ('\n', rest)
  | 'f' :: rest => some ('\x0c', rest)
  | 'r' :: rest => some ('\r', rest)
  | 'e' :: rest => some ('\x1b', rest)
  | '"' :: rest => some ('"', rest)
  | '\\' :: rest => some ('\\', rest)
  | 'x' :: rest => readNumbered 2 rest
  | 'u' :: rest => readNumbered 4 rest
  | 'U' :: rest => readNumbered 8 rest
  | _ => none

/-- The text after the blanks and line ends it begins with. -/
def skipLines : Nat → List Char → List Char
  | 0, s => s
  | rounds + 1, s =>
    match lineEnd? (skipBlanks s) with
    | some rest => skipLines rounds rest
    | none => skipBlanks s

/-! ### Texts on one line -/

/-- Reads the rest of a text in double quotes. As many rounds as there are characters are
    enough. -/
def readQuoted : Nat → Reader (List Char)
  | 0, _ => none
  | rounds + 1, s => do
    match s with
    | '"' :: rest => some ([], rest)
    | '\\' :: rest =>
      let (c, rest) ← readEscape rest
      let (cs, rest) ← readQuoted rounds rest
      some (c :: cs, rest)
    | c :: rest =>
      if isPlain c then
        let (cs, rest) ← readQuoted rounds rest
        some (c :: cs, rest)
      else none
    | [] => none

/-- Reads the rest of a text in single quotes. -/
def readLiteral (s : List Char) : Option (List Char × List Char) :=
  let cs := s.takeWhile (· ≠ '\x27')
  match s.drop cs.length with
  | _ :: rest => if cs.all isPlain then some (cs, rest) else none
  | [] => none

/-! ### Texts on several lines -/

/-- The quotes that a run of them leaves to a text that it ends, if it is long enough. Up to two
    quotes may stand before the closing ones. -/
def closing? (quote : Char) (s : List Char) : Option (List Char × List Char) :=
  let run := (s.takeWhile (· = quote)).length
  if 3 ≤ run then
    let inner := min (run - 3) 2
    some (List.replicate inner quote, s.drop (inner + 3))
  else none

/-- Reads the rest of a text in tripled quotes. -/
def readLines (quote : Char) (escapes : Bool) : Nat → Reader (List Char)
  | 0, _ => none
  | rounds + 1, s => do
    match closing? quote s with
    | some found => some found
    | none =>
      match lineEnd? s with
      | some rest =>
        let lineEnd := s.take (s.length - rest.length)
        let (cs, rest) ← readLines quote escapes rounds rest
        some (lineEnd ++ cs, rest)
      | none =>
        match s with
        | [] => none
        | c :: rest =>
          if escapes && c = '\\' then
            match lineEnd? (skipBlanks rest) with
            | some rest => readLines quote escapes rounds (skipLines rest.length rest)
            | none =>
              let (c, rest) ← readEscape rest
              let (cs, rest) ← readLines quote escapes rounds rest
              some (c :: cs, rest)
          else if isPlain c then
            let (cs, rest) ← readLines quote escapes rounds rest
            some (c :: cs, rest)
          else none

/-! ### All texts -/

/-- Reads a text on one line. -/
def readLineText : Reader String
  | '"' :: rest =>
    (readQuoted (rest.length + 1) rest).map fun (cs, rest) => (String.ofList cs, rest)
  | '\x27' :: rest => (readLiteral rest).map fun (cs, rest) => (String.ofList cs, rest)
  | _ => none

/-- Reads a text. -/
def readText (s : List Char) : Option (String × List Char) :=
  let lines (quote : Char) (escapes : Bool) (rest : List Char) : Option (String × List Char) :=
    let rest := (lineEnd? rest).getD rest
    (readLines quote escapes (rest.length + 1) rest).map fun (cs, rest) =>
      (String.ofList cs, rest)
  match s with
  | '"' :: '"' :: '"' :: rest => lines '"' true rest
  | '\x27' :: '\x27' :: '\x27' :: rest => lines '\x27' false rest
  | s => readLineText s

end LoraBridge.Toml
