import LoraBridge.Toml.Scalar
import LoraBridge.Toml.Table

/-! # Reading TOML

  A TOML file consists of lines: headers, definitions of keys, comments and blank lines. `parse?`
  gives the table that they build up, if they are all well-formed. A value in brackets or braces
  may go on over several lines. Neither values nor keys go deeper than `maxDepth`.
-/

namespace LoraBridge.Toml

/-- How many lists and tables may lie within each other, and how many parts a key may have. -/
def maxDepth : Nat := 80

/-! ### Keys -/

/-- A character of a key without quotes. -/
def isKeyChar (c : Char) : Bool := c.isAlphanum || c = '_' || c = '-'

/-- Reads one part of a key. -/
def readSimpleKey : Reader String := fun s =>
  match s with
  | '"' :: _ | '\x27' :: _ => readLineText s
  | s =>
    let key := s.takeWhile isKeyChar
    if key.isEmpty then none else some (String.ofList key, s.drop key.length)

/-- Reads a key of at most so many parts. -/
def readParts : Nat → Reader (List String)
  | 0, _ => none
  | parts + 1, s => do
    let (key, s) ← readSimpleKey (skipBlanks s)
    match skipBlanks s with
    | '.' :: rest =>
      let (keys, rest) ← readParts parts rest
      some (key :: keys, rest)
    | rest => some ([key], rest)

/-- Reads a key, which may have several parts with dots between them, and blanks around it. -/
def readKey : Reader (List String) := readParts maxDepth

/-! ### Comments -/

/-- The text after a comment, if it begins with one that is well-formed. -/
def skipComment? (s : List Char) : Option (List Char) :=
  match s with
  | '#' :: rest =>
    let comment := rest.takeWhile fun c => c ≠ '\n' && c ≠ '\r'
    if comment.all isPlain then some (rest.drop comment.length) else none
  | s => some s

/-- The text after the blanks, comments and line ends it begins with. -/
def skipFiller? : Nat → List Char → Option (List Char)
  | 0, s => some s
  | rounds + 1, s => do
    let s ← skipComment? (skipBlanks s)
    match lineEnd? s with
    | some rest => skipFiller? rounds rest
    | none => some s

/-- The text after the end of the present line, which may have a comment before it. -/
def endLine? (s : List Char) : Option (List Char) := do
  let s ← skipComment? (skipBlanks s)
  match s with
  | [] => some []
  | s => lineEnd? s

/-! ### Values -/

mutual

/-- Reads a value in which so many lists and tables may lie within each other. Every call takes a
    character or is the last of its kind, so twice as many rounds as there are characters are
    enough. -/
def readValue (depth : Nat) : Nat → Reader Value
  | 0, _ => none
  | rounds + 1, s =>
    match s, depth with
    | '"' :: _, _ | '\x27' :: _, _ => (readText s).map fun (t, rest) => (.text t, rest)
    | '[' :: rest, depth + 1 =>
      (readItems depth rounds rest).map fun (items, rest) => (.list items, rest)
    | '{' :: rest, depth + 1 =>
      (readMembers depth rounds [] rest).map fun (members, rest) =>
        (.table (membersValue members), rest)
    | s, _ => readWord s

/-- Reads the elements that are left of a list. -/
def readItems (depth : Nat) : Nat → Reader (List Value)
  | 0, _ => none
  | rounds + 1, s => do
    match ← skipFiller? s.length s with
    | ']' :: rest => some ([], rest)
    | s =>
      let (item, s) ← readValue depth rounds s
      match ← skipFiller? s.length s with
      | ']' :: rest => some ([item], rest)
      | ',' :: rest =>
        let (items, rest) ← readItems depth rounds rest
        some (item :: items, rest)
      | _ => none

/-- Reads the members that are left of a table in braces. -/
def readMembers (depth : Nat) : Nat → Members → Reader Members
  | 0, _, _ => none
  | rounds + 1, members, s => do
    match ← skipFiller? s.length s with
    | '}' :: rest => some (members, rest)
    | s =>
      let (keys, s) ← readKey s
      let '=' :: s ← skipFiller? s.length s | none
      let (value, s) ← readValue depth rounds (← skipFiller? s.length s)
      let members ← assign? keys value members
      match ← skipFiller? s.length s with
      | '}' :: rest => some (members, rest)
      | ',' :: rest => readMembers depth rounds members rest
      | _ => none

end

/-! ### Lines -/

/-- Reads a header after its first bracket; gives what it opens. -/
def readHeader (s : List Char) : Option ((List String × Bool) × List Char) :=
  match s with
  | '[' :: rest => do
    let (keys, rest) ← readKey rest
    let ']' :: ']' :: rest := rest | none
    some ((keys, true), rest)
  | s => do
    let (keys, rest) ← readKey s
    let ']' :: rest := rest | none
    some ((keys, false), rest)

/-- Opens the table that a header names. -/
def openHeader? (keys : List String) (isItem : Bool) (root : Members) : Option Members := do
  let key ← keys.getLast?
  descend? (if isItem then openItem? key else openTable? key) keys.dropLast root

/-- Reads the lines that are left; `path` is the table that is open. Every line takes a
    character, so as many rounds as there are characters are enough. -/
def readLinesFrom : Nat → List String → Members → List Char → Option Members
  | 0, _, root, _ => some root
  | rounds + 1, path, root, s => do
    match ← skipFiller? s.length s with
    | [] => some root
    | '[' :: rest =>
      let ((keys, isItem), rest) ← readHeader rest
      let root ← openHeader? keys isItem root
      readLinesFrom rounds keys root (← endLine? rest)
    | s =>
      let (keys, rest) ← readKey s
      let '=' :: rest := rest | none
      let (value, rest) ← readValue maxDepth (2 * rest.length + 2) (skipBlanks rest)
      let root ← descend? (assign? keys value) path root
      readLinesFrom rounds path root (← endLine? rest)

/-- The mark that a text may begin with. -/
def byteOrderMark : Char := '\ufeff'

/-- The table that a TOML file writes. -/
def parse? (text : String) : Option (List (String × Value)) :=
  let s := match text.toList with
    | c :: s => if c = byteOrderMark then s else c :: s
    | [] => []
  (readLinesFrom (s.length + 1) [] [] s).map membersValue

end LoraBridge.Toml
