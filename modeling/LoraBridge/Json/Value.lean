import LoraBridge.Instant.Printer
import LoraBridge.Json.Number
import LoraBridge.Json.Skip

/-! # Values of a known type

  One reader and one writer for each type of value that documents contain. A reader reports a
  value of another type as soon as it is seen: a list or an object at its first character, any
  other value after it has been read.
-/

namespace LoraBridge.Json

/-- The text without the space it begins with. -/
def skipSpace (s : Bytes) : Bytes := s.dropWhile Skip.isSpace

/-- Reads the rest of a literal. -/
def readIdent : Bytes → Bytes → Except Fault Bytes
  | [], s => .ok s
  | _ :: _, [] => .error .endInValue
  | c :: cs, b :: s => if b = c then readIdent cs s else .error .expectedIdent

/-- The literal `null` after its first letter. -/
def nullTail : Bytes := [117, 108, 108]

/-- The literal `true` after its first letter. -/
def trueTail : Bytes := [114, 117, 101]

/-- The literal `false` after its first letter. -/
def falseTail : Bytes := [97, 108, 115, 101]

/-! ### Values of another type -/

/-- The fault of a value that is not of the type that is wanted. -/
def wrongType (expected : String) (s : Bytes) : Fault :=
  let literal (tail : Bytes) (found : Found) (s : Bytes) : Fault :=
    match readIdent tail s with
    | .error f => f
    | .ok _ => .wrongType found expected
  match s with
  | [] => .endInValue
  | b :: rest =>
    if b = 110 then literal nullTail .null rest
    else if b = 116 then literal trueTail (.boolean true) rest
    else if b = 102 then literal falseTail (.boolean false) rest
    else if b = 45 || isDigit b then
      match readNumber s with
      | .error f => f
      | .ok (.whole n, _) => .wrongType (.whole n) expected
      | .ok (.real x, _) => .wrongType (.real x) expected
    else if b = 34 then
      match readText rest with
      | .error f => f
      | .ok (t, _) => .wrongType (.text t) expected
    else if b = 91 then .wrongType .sequence expected
    else if b = 123 then .wrongType .map expected
    else .expectedValue

/-! ### Readers -/

/-- Reads a text; `expected` is what is reported to be wanted. -/
def readTextAs (expected : String) : Reader String := fun s =>
  match skipSpace s with
  | 34 :: rest => readText rest
  | s => .error (wrongType expected s)

/-- Reads a text. -/
def readString : Reader String := readTextAs "a string"

/-- Reads a truth value. -/
def readBool : Reader Bool := fun s =>
  match skipSpace s with
  | 116 :: rest => do
    let rest ← readIdent trueTail rest
    .ok (true, rest)
  | 102 :: rest => do
    let rest ← readIdent falseTail rest
    .ok (false, rest)
  | s => .error (wrongType "a boolean" s)

/-- Whether a number begins here. -/
def atNumber : Bytes → Bool
  | b :: _ => b = 45 || isDigit b
  | [] => false

/-- Reads a whole number between `lo` and `hi`; `expected` names their type. -/
def readWhole (lo hi : Int) (expected : String) : Reader Int := fun s => do
  let s := skipSpace s
  if atNumber s then
    let (n, rest) ← readNumber s
    match n with
    | .real x => .error (.wrongType (.real x) expected)
    | .whole n => if lo ≤ n ∧ n ≤ hi then .ok (n, rest) else .error (.wrongRange n expected)
  else .error (wrongType expected s)

/-- Reads a number of eight bits. -/
def readUInt8 : Reader UInt8 := fun s =>
  (readWhole 0 (Nat.pow 2 8 - 1) "u8" s).map fun (n, rest) => (UInt8.ofNat n.toNat, rest)

/-- Reads a number of 32 bits. -/
def readUInt32 : Reader UInt32 := fun s =>
  (readWhole 0 (Nat.pow 2 32 - 1) "u32" s).map fun (n, rest) => (UInt32.ofNat n.toNat, rest)

/-- Reads a signed number of 32 bits. -/
def readInt32 : Reader Int32 := fun s =>
  (readWhole (-(Nat.pow 2 31 : Int)) (Nat.pow 2 31 - 1) "i32" s).map fun (n, rest) =>
    (Int32.ofInt n, rest)

/-- Reads a signed number of 64 bits. -/
def readInt64 : Reader Int64 := fun s =>
  (readWhole (-(Nat.pow 2 63 : Int)) (Nat.pow 2 63 - 1) "i64" s).map fun (n, rest) =>
    (Int64.ofInt n, rest)

/-- A whole number as a double. -/
def wholeToReal (n : Int) : Float :=
  if n < 0 then -n.natAbs.toUInt64.toFloat else n.toNat.toUInt64.toFloat

/-- Reads a double; whole numbers are taken too. -/
def readReal : Reader Float := fun s => do
  let s := skipSpace s
  if atNumber s then
    let (n, rest) ← readNumber s
    match n with
    | .real x => .ok (x, rest)
    | .whole n => .ok (wholeToReal n, rest)
  else .error (wrongType "f64" s)

/-- Reads `null` as nothing, and everything else as it is. -/
def readOption {α : Type} (read : Reader α) : Reader (Option α) := fun s =>
  match skipSpace s with
  | 110 :: rest => do
    let rest ← readIdent nullTail rest
    .ok (none, rest)
  | s => do
    let (a, rest) ← read s
    .ok (some a, rest)

/-- Reads frame data: a text in Base64, where `null` is no data. -/
def readData : Reader Bytes := fun s => do
  let (t, rest) ← readOption readString s
  match t with
  | none => .ok ([], rest)
  | some t =>
    match Base64.decode (Text.bytes t) with
    | .ok b => .ok (b, rest)
    | .error f => .error (.badBase64 f)

/-- Reads an instant. -/
def readInstant : Reader Instant := fun s => do
  let (t, rest) ← readTextAs "an RFC 3339 formatted date and time string" s
  match Instant.parse t.toList with
  | .ok t => .ok (t, rest)
  | .error f => .error (.badInstant f)

/-! ### Lists -/

/-- Where a list goes on: at its next element or at its end. -/
def nextElement (isFirst : Bool) (s : Bytes) : Except Fault (Option Bytes) :=
  match skipSpace s with
  | [] => .error .endInList
  | b :: rest =>
    if b = 93 then .ok none
    else if isFirst then .ok (some (b :: rest))
    else if b = 44 then
      match skipSpace rest with
      | [] => .error .endInValue
      | c :: rest => if c = 93 then .error .trailingComma else .ok (some (c :: rest))
    else .error .expectedCommaOrBracket

/-- Reads the end of a list all of whose elements have been read. -/
def endList (s : Bytes) : Except Fault Bytes :=
  match skipSpace s with
  | [] => .error .endInList
  | b :: rest =>
    if b = 93 then .ok rest
    else if b = 44 then
      match skipSpace rest with
      | 93 :: _ => .error .trailingComma
      | _ => .error .trailingCharacters
    else .error .trailingCharacters

/-- Reads elements up to the end of their list. Every element takes at least one byte, so as many
    rounds as there are bytes are enough. -/
def readElements {α : Type} (read : Reader α) : Nat → Bool → Reader (List α)
  | 0, _, _ => .error .endInList
  | rounds + 1, isFirst, s => do
    match ← nextElement isFirst s with
    | none =>
      let rest ← endList s
      .ok ([], rest)
    | some s =>
      let (a, s) ← read s
      let (as, rest) ← readElements read rounds false s
      .ok (a :: as, rest)

/-- Reads a list. -/
def readList {α : Type} (read : Reader α) : Reader (List α) := fun s =>
  match skipSpace s with
  | 91 :: rest => readElements read (rest.length + 1) true rest
  | s => .error (wrongType "a sequence" s)

/-! ### Objects -/

/-- Reads the colon after a key. -/
def readColon (s : Bytes) : Except Fault Bytes :=
  match skipSpace s with
  | [] => .error .endInObject
  | b :: rest => if b = 58 then .ok rest else .error .expectedColon

/-- Reads the next key of an object and what follows it, or nothing at the object's end. -/
def nextKey (isFirst : Bool) (s : Bytes) : Except Fault (Option (String × Bytes)) :=
  match skipSpace s with
  | [] => .error .endInObject
  | b :: rest =>
    if b = 125 then .ok none
    else if isFirst then
      if b = 34 then (readText rest).map some else .error .keyNotText
    else if b = 44 then
      match skipSpace rest with
      | [] => .error .endInValue
      | c :: rest =>
        if c = 34 then (readText rest).map some
        else if c = 125 then .error .trailingComma
        else .error .keyNotText
    else .error .expectedCommaOrBrace

/-- Reads the end of an object whose members have been read. -/
def endObject (s : Bytes) : Except Fault Bytes :=
  match skipSpace s with
  | [] => .error .endInObject
  | b :: rest =>
    if b = 125 then .ok rest
    else if b = 44 then .error .trailingComma
    else .error .trailingCharacters

/-! ### Writers -/

/-- Writes a truth value. -/
def writeBool (b : Bool) : List Char := if b then "true".toList else "false".toList

/-- Writes a whole number. -/
def writeInt (n : Int) : List Char :=
  if n < 0 then '-' :: Nat.toDigits 10 n.natAbs else Nat.toDigits 10 n.natAbs

/-- Writes a natural number. -/
def writeNat (n : Nat) : List Char := Nat.toDigits 10 n

/-- Writes a double; what is no finite number is written as `null`. -/
def writeReal (x : Float) : List Char :=
  (Decimal.Layout.document.render? x).getD "null".toList

/-- Writes nothing as `null`. -/
def writeOption {α : Type} (write : α → List Char) : Option α → List Char
  | none => "null".toList
  | some a => write a

/-- Writes frame data. -/
def writeData (b : Bytes) : List Char := escape (Base64.encodeText b)

/-- Writes an instant. -/
def writeInstant (t : Instant) : List Char := escape (String.ofList t.render)

/-- Writes a list. -/
def writeList {α : Type} (write : α → List Char) (as : List α) : List Char :=
  '[' :: List.intercalate [','] (as.map write) ++ [']']

end LoraBridge.Json
