import LoraBridge.Decimal.Unsigned
import LoraBridge.Settings.Value

/-! # Paths to settings

  A source names its settings by paths such as `mqtt.server` or `list[0].name`: a key, followed by
  keys after a point and by indices in brackets. Indices below zero count from the end. Whatever
  is no path is a single key as it stands.

  Putting a value at a path makes the tables and lists on the way to it, in place of anything
  else that is there.
-/

namespace LoraBridge.Settings

/-- One step further from a value to one of its parts. -/
inductive Path.Step where
  | key (key : String)
  | index (i : Int)
deriving DecidableEq, Repr

/-- A way from the root to a value. -/
structure Path where
  root : String
  steps : List Path.Step
deriving DecidableEq, Repr

namespace Path

/-! ### Reading -/

/-- A character of a key. -/
def isKeyChar (c : Char) : Bool := c.isAlphanum || c = '_' || c = '-'

/-- Splits a text after the key that it begins with. -/
def readKey? (s : List Char) : Option (String × List Char) :=
  let key := s.takeWhile isKeyChar
  if key.isEmpty then none else some (String.ofList key, s.drop key.length)

/-- A character that may stand around an index. -/
def isBlank (c : Char) : Bool := c = ' ' || c = '\t'

/-- The index that a text writes, between blanks. -/
def index? (s : List Char) : Option Int :=
  match ((s.dropWhile isBlank).reverse.dropWhile isBlank).reverse with
  | '-' :: digits => do
    let n ← Decimal.natOfDigits? digits
    if n ≤ Nat.pow 2 63 then some (-(n : Int)) else none
  | digits => do
    let n ← Decimal.natOfDigits? digits
    if n < Nat.pow 2 63 then some (n : Int) else none

/-- Reads the steps of a path. Every step takes a character, so as many rounds as there are
    characters are enough. -/
def readSteps? : Nat → List Char → Option (List Step)
  | _, [] => some []
  | 0, _ => none
  | rounds + 1, '.' :: rest => do
    let (key, rest) ← readKey? rest
    let steps ← readSteps? rounds rest
    some (.key key :: steps)
  | rounds + 1, '[' :: rest => do
    let digits := rest.takeWhile (· ≠ ']')
    let i ← index? digits
    let ']' :: rest := rest.drop digits.length | none
    let steps ← readSteps? rounds rest
    some (.index i :: steps)
  | _ + 1, _ => none

/-- The path that a text writes. -/
def parse? (s : String) : Option Path := do
  let (root, rest) ← readKey? s.toList
  let steps ← readSteps? rest.length rest
  some ⟨root, steps⟩

/-- The path that a source means by a name. -/
def ofName (s : String) : Path := (parse? s).getD ⟨s, []⟩

/-! ### Putting values -/

/-- The list with an element at an index, where `change` makes the element from the one that is
    there. Missing elements are added: at the end, or at the beginning if the index is below
    zero. -/
def changeItem (change : Value → Value) (i : Int) (items : List Value) : List Value :=
  let place := if i < 0 then items.length + i else i
  let items :=
    if place < 0 then List.replicate (-place).toNat Value.nothing ++ items
    else items ++ List.replicate (place.toNat + 1 - items.length) Value.nothing
  items.modify place.toNat change

/-- What comes of putting a value some steps away from another one. -/
def put (added : Value) : List Step → Value → Value
  | [], old => old.join added
  | .key key :: steps, old =>
    let member := put added steps ((old.member? key).getD Value.nothing)
    .table old.tableOrigin? (Json.setMember key member old.members)
  | .index i :: steps, old =>
    .list old.listOrigin? (changeItem (put added steps) i old.items)

end Path

/-- The tree after a source has given a value for a name. -/
def Value.set (tree : Value) (name : String) (v : Value) : Value :=
  let path := Path.ofName name
  Path.put v (.key path.root :: path.steps) tree

end LoraBridge.Settings
