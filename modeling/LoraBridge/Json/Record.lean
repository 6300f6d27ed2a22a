import LoraBridge.Json.Value

/-! # Records

  A document is a record: fields in a fixed order, each with its key. `Fields` lists them with
  their types, and the rules of reading and writing follow from the list.

  - A record is written as an object, its members in the order of the fields.
  - It is read from an object, whose members may stand in any order. Unknown members are skipped,
    a known one must not come twice, and a field without a member takes its default if it has one.
  - It is also read from a list of its fields in order, of which only fields with a default may
    be left out at the end.
-/

namespace LoraBridge.Json

/-- One field of a record. -/
structure RecordField (α : Type) where
  key : String
  read : Reader α
  write : α → List Char
  /-- What the field is if the document does not give it. -/
  default? : Option α := none
  /-- Values for which no member is written. -/
  isOmitted : α → Bool := fun _ => false

/-- The fields of a record, in order. -/
inductive Fields : List Type → Type 1 where
  | nil : Fields []
  | cons {α : Type} {types : List Type} (field : RecordField α) (rest : Fields types) :
      Fields (α :: types)

/-- One value for each field. -/
def Row : List Type → Type
  | [] => Unit
  | α :: types => α × Row types

/-- The values of the fields that have been read so far. -/
def Slots : List Type → Type
  | [] => Unit
  | α :: types => Option α × Slots types

namespace Fields

/-- The number of fields. -/
def count {types : List Type} : Fields types → Nat
  | .nil => 0
  | .cons _ rest => rest.count + 1

/-- No field read. -/
def noSlots {types : List Type} : Fields types → Slots types
  | .nil => ()
  | .cons _ rest => (none, rest.noSlots)

/-! ### Reading from an object -/

/-- Reads the member with this key into its slot. A key that belongs to no field gives nothing,
    and a key whose slot is taken is a fault, even before its value is looked at. -/
def readMember? {types : List Type} (fields : Fields types) (slots : Slots types)
    (key : String) (s : Bytes) : Option (Except Fault (Slots types × Bytes)) :=
  match fields, slots with
  | .nil, _ => none
  | .cons field rest, (slot, slots) =>
    if field.key = key then
      some <| match slot with
        | some _ => .error (.duplicateMember key)
        | none => do
          let s ← readColon s
          let (a, s) ← field.read s
          .ok ((some a, slots), s)
    else
      (rest.readMember? slots key s).map fun r =>
        r.map fun (slots, s) => ((slot, slots), s)

/-- Reads members up to the end of their object. Every member takes at least one byte, so as many
    rounds as there are bytes are enough. -/
def readMembers {types : List Type} (fields : Fields types) :
    Nat → Bool → Slots types → Reader (Slots types)
  | 0, _, _, _ => .error .endInObject
  | rounds + 1, isFirst, slots, s => do
    match ← nextKey isFirst s with
    | none => .ok (slots, s)
    | some (key, s) =>
      match fields.readMember? slots key s with
      | some r =>
        let (slots, s) ← r
        fields.readMembers rounds false slots s
      | none =>
        let s ← readColon s
        let s ← skipValue s
        fields.readMembers rounds false slots s

/-- The values of all fields, where slots that are not taken get the default of their field. -/
def fill {types : List Type} (fields : Fields types) (slots : Slots types) :
    Except Fault (Row types) :=
  match fields, slots with
  | .nil, _ => .ok ()
  | .cons field rest, (slot, slots) =>
    match slot <|> field.default? with
    | none => .error (.missingMember field.key)
    | some a => (rest.fill slots).map fun row => (a, row)

/-! ### Reading from a list -/

/-- Reads the fields from a list, the first of them being the one with number `index` of the
    record. -/
def readRow {types : List Type} (fields : Fields types) (record : String) (total index : Nat) :
    Reader (Row types) := fun s =>
  match fields with
  | .nil => .ok ((), s)
  | .cons field rest => do
    let (a, s) ← match ← nextElement (index = 0) s with
      | some s => field.read s
      | none =>
        match field.default? with
        | some a => .ok (a, s)
        | none => .error (.wrongLength index record total)
    let (row, s) ← rest.readRow record total (index + 1) s
    .ok ((a, row), s)

/-! ### Writing -/

/-- The members that are written for the fields. -/
def members {types : List Type} (fields : Fields types) (row : Row types) : List (List Char) :=
  match fields, row with
  | .nil, _ => []
  | .cons field rest, (a, row) =>
    if field.isOmitted a then rest.members row
    else (escape field.key ++ ':' :: field.write a) :: rest.members row

end Fields

/-! ### Records -/

/-- How values of a type are documents. -/
structure Record (α : Type) where
  /-- The name that reports use. -/
  name : String
  types : List Type
  fields : Fields types
  /-- The value with these fields. -/
  build : Row types → α
  /-- The fields of a value. -/
  parts : α → Row types

namespace Record

variable {α : Type}

/-- Reads a record from an object or a list. -/
def read (record : Record α) : Reader α := fun s =>
  match skipSpace s with
  | 91 :: rest => do
    let (row, rest) ← record.fields.readRow record.name record.fields.count 0 rest
    let rest ← endList rest
    .ok (record.build row, rest)
  | 123 :: rest => do
    let (slots, rest) ←
      record.fields.readMembers (rest.length + 1) true record.fields.noSlots rest
    let row ← record.fields.fill slots
    let rest ← endObject rest
    .ok (record.build row, rest)
  | s => .error (wrongType s!"struct {record.name}" s)

/-- Writes a record as an object. -/
def write (record : Record α) (a : α) : List Char :=
  '\x7b' :: List.intercalate [','] (record.fields.members (record.parts a)) ++ ['\x7d']

/-- Reads a record that is all of a document, save for space after it. -/
def decode (record : Record α) (s : Bytes) : Except Fault α := do
  let (a, rest) ← record.read s
  match skipSpace rest with
  | [] => .ok a
  | _ :: _ => .error .trailingCharacters

end Record

end LoraBridge.Json
