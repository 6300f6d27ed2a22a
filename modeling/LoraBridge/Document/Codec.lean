import LoraBridge.Decimal.Unsigned
import LoraBridge.Document.Form

/-! # Documents as payloads

  - `encode` writes a document, `decode` reads one.
  - `Notice.encode` writes what goes out, `Command.decode` reads what comes in.
  - `rawForLog` shows a payload that could not be read.
  - `withoutPosition` cuts the place off a report of where reading failed; `reasonOf` takes a
    report for what it says, where a position in line zero says nothing.
-/

namespace LoraBridge

/-- Why a document has no payload, or a payload no document. -/
inductive CodecError where
  /-- Writing a document failed; `name` is what reports call it. -/
  | encode (name reason : String)
  | decode (fault : Json.Fault)
deriving Repr

/-- What is reported of an error. -/
def CodecError.message : CodecError → String
  | .encode name reason => s!"{name} payload marshal error: {reason}"
  | .decode fault => s!"payload unmarshal error: {fault.message}"

/-- The text before `ending`, which has to be how it ends. -/
def dropEnd? (ending s : List Char) : Option (List Char) :=
  if ending.isSuffixOf s then some (s.take (s.length - ending.length)) else none

/-- The text before the digits it has to end with. -/
def dropDigits? (s : List Char) : Option (List Char) :=
  let rest := (s.reverse.dropWhile Char.isDigit).reverse
  if rest.length < s.length then some rest else none

/-- The text before the digits it has to end with, and these digits. -/
def splitDigits? (s : List Char) : Option (List Char × List Char) := do
  let rest ← dropDigits? s
  some (rest, s.drop rest.length)

/-- Splits a report before the line and column that it ends with. -/
def splitPosition? (s : List Char) : Option (List Char × List Char × List Char) := do
  let (s, column) ← splitDigits? s
  let s ← dropEnd? " column ".toList s
  let (s, line) ← splitDigits? s
  let s ← dropEnd? " at line ".toList s
  some (s, line, column)

/-- A report without the line and column that it may end with. -/
def CodecError.withoutPosition (report : String) : String :=
  match splitPosition? report.toList with
  | some (rest, _, _) => String.ofList rest
  | none => report

/-- The largest number of a line or column. -/
def maxPosition : Nat := Nat.pow 2 64 - 1

/-- The reason that a report gives. Lines count from one, so a position in line zero is that of
    nothing, and is left out. -/
def CodecError.reasonOf (report : String) : String :=
  match splitPosition? report.toList with
  | some (rest, line, column) =>
    match Decimal.readUnsigned? maxPosition line, Decimal.readUnsigned? maxPosition column with
    | some 0, some _ => String.ofList rest
    | _, _ => report
  | none => report

/-- The payload of a document. -/
def encode {α : Type} (record : Json.Record α) (a : α) : Bytes :=
  Text.bytes (String.ofList (record.write a))

/-- The document of a payload. -/
def decode {α : Type} (record : Json.Record α) (payload : Bytes) : Except CodecError α :=
  (record.decode payload).mapError .decode

/-- The payload of a document that goes out. -/
def Notice.encode : Notice → Bytes
  | .data uplink => LoraBridge.encode uplinkRecord uplink
  | .join notice => LoraBridge.encode joinRecord notice
  | .ack notice => LoraBridge.encode ackRecord notice
  | .error notice => LoraBridge.encode errorRecord notice

/-- The payload of a command. -/
def Command.encode (command : Command) : Bytes := LoraBridge.encode commandRecord command

/-- The command of a payload. -/
def Command.decode (payload : Bytes) : Except CodecError Command :=
  LoraBridge.decode commandRecord payload

/-- A payload in a log line. -/
def rawForLog (payload : Bytes) : String := Base64.encodeText payload

end LoraBridge
