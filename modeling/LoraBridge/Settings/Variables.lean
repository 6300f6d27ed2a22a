import LoraBridge.Text.Alphanumeric
import LoraBridge.Text.Blank
import LoraBridge.Text.Utf8

/-! # Files of variables

  A file named `.env` in the working directory gives variables to the environment, one on each
  line: a name, `=` and a value. Variables that the environment has already stay as they are.

  - A value may be quoted. Within single quotes everything stands for itself; elsewhere a backslash
    escapes, and `$NAME` or `${NAME}` stands for a variable.
  - A quoted value may go on over several lines.
  - A comment begins with `#`, at the beginning of a line or after a blank.
  - After `$`, the name of a variable goes on as long as there are letters and digits, of any
    script.

  Reading stops at the first line that is not well-formed; what was given before counts.
-/

namespace LoraBridge.Settings.Variables

/-! ### Lines -/

/-- Where a character stands within a line, as far as this matters for where the line ends. -/
inductive Position where
  | bare
  /-- After a blank. -/
  | blank
  /-- After a backslash. -/
  | escaped
  /-- Within double quotes. -/
  | double
  | doubleEscaped
  /-- Within single quotes. -/
  | single
  | singleEscaped
deriving DecidableEq, Repr

/-- The position after a character that stands outside of quotes. -/
def Position.afterBare (c : Char) : Position :=
  if c = '\\' then .escaped else if c = '"' then .double else if c = '\'' then .single else .bare

/-- The position after a character. -/
def Position.next (p : Position) (c : Char) : Position :=
  match p with
  | .bare => if Text.isBlank c && c ≠ '\n' && c ≠ '\r' then .blank else .afterBare c
  | .blank => .afterBare c
  | .escaped => .bare
  | .double => if c = '\\' then .doubleEscaped else if c = '"' then .bare else .double
  | .doubleEscaped => .double
  | .single => if c = '\\' then .singleEscaped else if c = '\'' then .bare else .single
  | .singleEscaped => .single

/-- Reads a line from a position. Gives the position at its end, or what is in front of the
    comment that ends it. -/
def scan (p : Position) : List Char → List Char ⊕ Position
  | [] => .inr p
  | c :: rest =>
    if p = .blank ∧ c = '#' then .inl []
    else match scan (p.next c) rest with
      | .inl front => .inl (c :: front)
      | .inr p => .inr p

/-- A line without the line break at its end. -/
def withoutBreak (line : List Char) : List Char :=
  match line.reverse with
  | '\n' :: '\r' :: rest => rest.reverse
  | '\n' :: rest => rest.reverse
  | _ => line

/-- Whether a line is a comment. -/
def isComment (line : List Char) : Bool := (Text.trimLeft line).head? = some '#'

/-- Puts lines together that belong to one quoted value, where `begun` has been read and ends at
    `p`. There is nothing in place of a line that is not well-formed. -/
def joinLines (begun : List Char) (p : Position) :
    List (Option (List Char)) → List (Option (List Char))
  | [] => if p = .bare then [] else [none]
  | none :: _ => [none]
  | some line :: rest =>
    if isComment (begun ++ line) then joinLines [] .bare rest
    else match scan p line with
      | .inl front => some (begun ++ front) :: joinLines [] .bare rest
      | .inr .bare => some (withoutBreak (begun ++ line)) :: joinLines [] .bare rest
      | .inr p => joinLines (begun ++ line) p rest

/-- Cuts bytes after each line break. -/
def cutLines : Bytes → List Bytes
  | [] => []
  | b :: rest =>
    if b = 0x0A then [b] :: cutLines rest
    else match cutLines rest with
      | line :: lines => (b :: line) :: lines
      | [] => [[b]]

/-! ### Values -/

/-- How a variable is referred to. -/
inductive Reference where
  /-- After `$`. -/
  | open
  /-- Within braces. -/
  | braced
deriving DecidableEq, Repr

/-- What has been read of a value. -/
structure Reading where
  /-- The value so far, backwards. -/
  value : List Char := []
  single : Bool := false
  double : Bool := false
  escaped : Bool := false
  /-- Whether only a comment may follow. -/
  ending : Bool := false
  reference? : Option Reference := none
  /-- The name of the variable that is referred to, backwards. -/
  name : List Char := []

/-- The value of a variable; one that is not there is empty. -/
def valueOf (environment : List (String × String)) (name : String) : List Char :=
  ((environment.lookup name).getD "").toList

/-- The reading with the value of the variable that was referred to. -/
def Reading.substitute (r : Reading) (environment : List (String × String)) : Reading :=
  let value := valueOf environment (String.ofList r.name.reverse)
  { r with value := value.reverse ++ r.value, name := [], reference? := none }

/-- The reading with another character. -/
def Reading.push (r : Reading) (c : Char) : Reading := { r with value := c :: r.value }

/-- The character that a backslash and this one stand for. -/
def unescape? (c : Char) : Option Char :=
  if c = 'n' then some '\n' else if ['\\', '\'', '"', '$', ' '].contains c then some c else none

/-- The reading after a character of a reference. -/
def Reading.refer (r : Reading) (environment : List (String × String)) (c : Char) :
    Reference → Reading
  | .open =>
    if Text.isAlphanumeric c then { r with name := c :: r.name }
    else if c = '{' ∧ r.name = [] then { r with reference? := some .braced }
    else
      let r := r.substitute environment
      if c = '$' then { r with reference? := some .open } else r.push c
  | .braced =>
    if Text.isAlphanumeric c then { r with name := c :: r.name }
    else if c = '}' then r.substitute environment
    else { r with name := c :: r.name }

/-- The reading after a character, if that may stand there. -/
def Reading.next? (r : Reading) (environment : List (String × String)) (c : Char) :
    Option Reading :=
  if r.ending then if c = ' ' ∨ c = '\t' then some r else none
  else if r.escaped then (unescape? c).map fun c => { r.push c with escaped := false }
  else if r.single then if c = '\'' then some { r with single := false } else some (r.push c)
  else match r.reference? with
    | some reference => some (r.refer environment c reference)
    | none =>
      if c = '$' then some { r with reference? := some .open }
      else if c = '\\' then some { r with escaped := true }
      else if c = '"' then some { r with double := !r.double }
      else if r.double then some (r.push c)
      else if c = '\'' then some { r with single := true }
      else if c = ' ' ∨ c = '\t' then some { r with ending := true }
      else some (r.push c)

/-- Reads a value to its end. -/
def readValue? (environment : List (String × String)) (r : Reading) : List Char → Option String
  | [] =>
    if r.reference? = some .braced ∨ r.single ∨ r.double then none
    else some (String.ofList (r.substitute environment).value.reverse)
  | c :: rest =>
    if r.ending ∧ c = '#' then readValue? environment r []
    else match r.next? environment c with
      | some r => readValue? environment r rest
      | none => none

/-! ### Variables -/

/-- A character that a name may go on with. -/
def isKeyChar (c : Char) : Bool := c.isAlphanum || c = '_' || c = '.'

/-- The name that a text begins with, and the rest after blanks. -/
def readName? (s : List Char) : Option (String × List Char) :=
  match s with
  | [] => none
  | c :: _ =>
    if c.isAlpha || c = '_' then
      let name := s.takeWhile isKeyChar
      some (String.ofList name, Text.trimLeft (s.drop name.length))
    else none

/-- The name on a line and the rest after `=`. The word `export` in front of it does not count. -/
def splitLine? (line : List Char) : Option (String × List Char) := do
  let (name, rest) ← readName? line
  match rest with
  | '=' :: rest => some (name, rest)
  | _ =>
    if name = "export" then
      let (name, rest) ← readName? rest
      let '=' :: rest := rest | none
      some (name, rest)
    else none

/-- The text without the blanks at its end. -/
def trimRight (s : List Char) : List Char := (s.reverse.dropWhile Text.isBlank).reverse

/-- The environment after a line has given a variable, unless there is one of that name. -/
def addLine? (environment : List (String × String)) (line : List Char) :
    Option (List (String × String)) :=
  let line := Text.trimLeft (trimRight line)
  if line = [] ∨ isComment line then some environment
  else do
    let (name, rest) ← splitLine? line
    let rest := Text.trimLeft rest
    let value ← if isComment rest then some "" else readValue? environment {} rest
    if (environment.lookup name).isSome then some environment
    else some (environment ++ [(name, value)])

/-- The environment after some lines, up to the first one that is not well-formed. -/
def addLines (environment : List (String × String)) :
    List (Option (List Char)) → List (String × String)
  | [] => environment
  | line? :: rest =>
    match line?.bind (addLine? environment) with
    | some environment => addLines environment rest
    | none => environment

/-- The environment after a file has given variables. -/
def addFile (environment : List (String × String)) (content : Bytes) : List (String × String) :=
  addLines environment <| joinLines [] .bare <|
    (cutLines (Text.withoutMark content)).map fun line => (Text.ofBytes? line).map String.toList

/-- Whether an environment can hold its values. No value may have the character NUL. -/
def isHoldable (environment : List (String × String)) : Bool :=
  environment.all fun (_, value) => !value.contains (Char.ofNat 0)

/-- The name of the file. -/
def fileName : String := ".env"

end LoraBridge.Settings.Variables
