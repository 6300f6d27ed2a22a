import LoraBridge.Json.Record

/-! # Sources

  There are many ways to write one value in JSON: space may stand between tokens, a character may
  be escaped in several ways, and the members of an object may come in any order. A source is one
  of these ways. Every text that the grammar of JSON allows is the `bytes` of a source.

  - A `Numeral` is the written form of a number.
  - `Piece`s are what texts are made of. `text?` is what they write, if that is a text: half of a
    character beyond the first plane may stand where no other half follows, and then it is none.
  - A `Value` is a value with everything that is free about it.
  - An `Object` is an object all of whose keys are texts, with the space around it.
-/

namespace LoraBridge.Json

/-- Space that may stand between two tokens. -/
structure Space where
  bytes : Bytes := []
  isSpace : bytes.all Skip.isSpace = true := by decide

namespace Space

/-- No space. -/
def empty : Space := {}

@[simp] theorem bytes_empty : empty.bytes = [] := rfl

theorem isSpace_of_mem (space : Space) : ∀ b ∈ space.bytes, Skip.isSpace b = true :=
  List.all_eq_true.mp space.isSpace

end Space

/-! ### Numerals -/

/-- At least one digit. -/
structure Digits where
  bytes : Bytes
  ne_nil : bytes ≠ []
  isDigit : ∀ b ∈ bytes, Json.isDigit b = true

/-- The number that digits write. -/
def Digits.value (ds : Digits) : Nat := ds.bytes.foldl (fun n d => n * 10 + digitValue d) 0

/-- A letter of either case, perhaps a sign, and digits. -/
structure Exponent where
  letter : UInt8
  isLetter : letter = 101 ∨ letter = 69
  sign? : Option UInt8 := none
  isSign : ∀ b ∈ sign?, b = 43 ∨ b = 45 := by simp
  digits : Digits

/-- The written form of a number. Only the number zero begins with a zero before the point. -/
structure Numeral where
  negative : Bool := false
  whole : Digits
  noLeadingZero : ∀ b rest, whole.bytes ≠ 48 :: b :: rest
  fraction? : Option Digits := none
  exponent? : Option Exponent := none

/-- An exponent as it stands in a text. -/
def Exponent.bytes (e : Exponent) : Bytes := e.letter :: (e.sign?.toList ++ e.digits.bytes)

namespace Numeral

variable (n : Numeral)

/-- What stands before the digits. -/
def signBytes : Bytes := if n.negative then [45] else []

/-- The point and what follows it. -/
def fractionBytes : Bytes := n.fraction?.elim [] fun ds => 46 :: ds.bytes

/-- The exponent, if there is one. -/
def exponentBytes : Bytes := n.exponent?.elim [] Exponent.bytes

/-- A number as it stands in a text. -/
def bytes : Bytes := n.signBytes ++ n.whole.bytes ++ n.fractionBytes ++ n.exponentBytes

end Numeral

/-! ### Texts -/

/-- What texts are made of. -/
inductive Piece where
  /-- A character that stands for itself. -/
  | plain (c : Char) (isPlain : c ≠ '"' ∧ c ≠ '\\' ∧ 32 ≤ c.toNat)
  /-- A backslash and a letter for a character. -/
  | short (letter code : UInt8) (isShort : shortEscape? letter = some code)
  /-- Four digits in base sixteen for a character or half of one. -/
  | word (a b c d : UInt8) (n : Nat) (isWord : hexWord? a b c d = some n)

/-- A piece as it stands in a text. -/
def Piece.bytes : Piece → Bytes
  | .plain c _ => String.utf8EncodeChar c
  | .short letter _ _ => [92, letter]
  | .word a b c d _ _ => [92, 117, a, b, c, d]

/-- Pieces one after the other. -/
def piecesBytes (pieces : List Piece) : Bytes := pieces.flatMap Piece.bytes

/-- The character that two halves make. -/
def joinHalves (n m : Nat) : Char :=
  Char.ofNat ((n - 0xD800) * 1024 + (m - 0xDC00) + 0x10000)

/-- The characters that pieces stand for, if there are no lone halves among them. -/
def chars? : List Piece → Option (List Char)
  | [] => some []
  | .plain c _ :: rest => (chars? rest).map (c :: ·)
  | .short _ code _ :: rest => (chars? rest).map (Char.ofNat code.toNat :: ·)
  | .word _ _ _ _ n _ :: rest =>
    if isLowHalf n then none
    else if isHighHalf n then
      match rest with
      | .word _ _ _ _ m _ :: rest =>
        if isLowHalf m then (chars? rest).map (joinHalves n m :: ·) else none
      | _ => none
    else (chars? rest).map (Char.ofNat n :: ·)

/-- The text that pieces write. -/
def text? (pieces : List Piece) : Option String := (chars? pieces).map String.ofList

/-! ### Values -/

/-- An element of a list, with the space around it. -/
structure Element (α : Type) where
  before : Space := .empty
  value : α
  after : Space := .empty

/-- A member of an object, with all its space. -/
structure Member (α : Type) where
  before : Space := .empty
  key : List Piece
  /-- The space before the colon. -/
  between : Space := .empty
  /-- The space after the colon. -/
  gap : Space := .empty
  value : α
  after : Space := .empty

/-- A value as it may be written. -/
inductive Value where
  | null
  | boolean (b : Bool)
  | number (n : Numeral)
  | text (pieces : List Piece)
  | list (inner : Space) (elements : List (Element Value))
  | object (inner : Space) (members : List (Member Value))

/-- An element as it stands in a text. -/
def Element.bytes (e : Element Bytes) : Bytes := e.before.bytes ++ e.value ++ e.after.bytes

/-- A member as it stands in a text. -/
def Member.bytes (m : Member Bytes) : Bytes :=
  m.before.bytes ++ 34 :: piecesBytes m.key ++ 34 :: m.between.bytes ++ 58 :: m.gap.bytes ++
    m.value ++ m.after.bytes

/-- Parts with commas between them. -/
def separated (parts : List Bytes) : Bytes := List.intercalate [44] parts

theorem intercalate_cons {α : Type} (a : α) (part : List α) (parts : List (List α)) :
    List.intercalate [a] (part :: parts) = part ++ parts.flatMap (a :: ·) := by
  induction parts generalizing part with
  | nil => simp
  | cons next parts ih =>
    have hstep : List.intercalate [a] (part :: next :: parts) =
        part ++ a :: List.intercalate [a] (next :: parts) := by
      simp [List.intercalate]
    rw [hstep, ih, List.flatMap_cons, List.cons_append]

theorem separated_cons (part : Bytes) (parts : List Bytes) :
    separated (part :: parts) = part ++ parts.flatMap (44 :: ·) :=
  intercalate_cons 44 part parts

/-- A list of such elements. -/
def listBytes (inner : Space) (elements : List (Element Bytes)) : Bytes :=
  91 :: inner.bytes ++ separated (elements.map Element.bytes) ++ [93]

/-- An object with such members. -/
def objectBytes (inner : Space) (members : List (Member Bytes)) : Bytes :=
  123 :: inner.bytes ++ separated (members.map Member.bytes) ++ [125]

mutual

/-- A value as it stands in a text. -/
def Value.bytes : Value → Bytes
  | .null => 110 :: nullTail
  | .boolean true => 116 :: trueTail
  | .boolean false => 102 :: falseTail
  | .number n => n.bytes
  | .text pieces => 34 :: piecesBytes pieces ++ [34]
  | .list inner elements => listBytes inner (elementsBytes elements)
  | .object inner members => objectBytes inner (membersBytes members)
termination_by structural v => v

/-- Elements whose values stand as they stand in a text. -/
def elementsBytes : List (Element Value) → List (Element Bytes)
  | [] => []
  | ⟨before, value, after⟩ :: elements =>
    ⟨before, value.bytes, after⟩ :: elementsBytes elements
termination_by structural elements => elements

/-- Members whose values stand as they stand in a text. -/
def membersBytes : List (Member Value) → List (Member Bytes)
  | [] => []
  | ⟨before, key, between, gap, value, after⟩ :: members =>
    ⟨before, key, between, gap, value.bytes, after⟩ :: membersBytes members
termination_by structural members => members

end

/-- The key of a member, if it is a text. -/
def Member.name? {α : Type} (m : Member α) : Option String := text? m.key

/-- An object that is all of a document. -/
structure Object where
  before : Space := .empty
  inner : Space := .empty
  members : List (Member Value)
  /-- Keys are texts. -/
  named : ∀ m ∈ members, m.name?.isSome = true
  after : Space := .empty

/-- An object as it stands in a document. -/
def Object.bytes (o : Object) : Bytes :=
  o.before.bytes ++ objectBytes o.inner (membersBytes o.members) ++ o.after.bytes

end LoraBridge.Json
