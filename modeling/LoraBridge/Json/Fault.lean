import LoraBridge.Base64
import LoraBridge.Decimal.Layout
import LoraBridge.Instant.Parser
import LoraBridge.Text.Quoted

/-! # Why a document is refused

  A `Fault` is the cause for which reading a document ends, and `Fault.message` its report. There
  are three groups: the text is no JSON, a value has the wrong type or range, or a member is
  missing or given twice.
-/

namespace LoraBridge.Json

/-- What a value was found to be. -/
inductive Found where
  | null
  | boolean (b : Bool)
  | whole (n : Int)
  | real (x : Float)
  | text (s : String)
  | sequence
  | map
deriving Repr

/-- What was found, for a report. -/
def Found.describe : Found → String
  | .null => "null"
  | .boolean true => "boolean `true`"
  | .boolean false => "boolean `false`"
  | .whole n => s!"integer `{n}`"
  | .real x => s!"floating point `{String.ofList (Decimal.Layout.document.render x)}`"
  | .text s => s!"string {Text.quoted s}"
  | .sequence => "sequence"
  | .map => "map"

/-- Why a document is refused. -/
inductive Fault where
  /-- The text ends where a value has to begin or go on. -/
  | endInValue
  | endInList
  | endInObject
  | endInText
  /-- No value begins with this character. -/
  | expectedValue
  /-- A literal goes wrong after its first letter. -/
  | expectedIdent
  | expectedColon
  | expectedCommaOrBrace
  | expectedCommaOrBracket
  | keyNotText
  | trailingComma
  | trailingCharacters
  | invalidNumber
  /-- The number is too large for a double. -/
  | numberOutOfRange
  | invalidEscape
  /-- The first half of a character is not followed by an escape. -/
  | unpairedSurrogate
  /-- A half of a character stands without its other half. -/
  | loneSurrogate
  /-- The bytes of a text are not UTF-8. -/
  | invalidCodePoint
  | controlCharacter
  | nestedTooDeep
  /-- A value of another type is wanted. -/
  | wrongType (found : Found) (expected : String)
  /-- The number does not fit the type that is wanted. -/
  | wrongRange (n : Int) (expected : String)
  /-- A list in place of a record has too few elements. -/
  | wrongLength (length : Nat) (record : String) (fields : Nat)
  | missingMember (key : String)
  | duplicateMember (key : String)
  | badBase64 (fault : Base64.Fault)
  | badInstant (fault : Instant.Fault)
deriving Repr

/-- The report of a fault. -/
def Fault.message : Fault → String
  | .endInValue => "EOF while parsing a value"
  | .endInList => "EOF while parsing a list"
  | .endInObject => "EOF while parsing an object"
  | .endInText => "EOF while parsing a string"
  | .expectedValue => "expected value"
  | .expectedIdent => "expected ident"
  | .expectedColon => "expected `:`"
  | .expectedCommaOrBrace => "expected `,` or `\x7d`"
  | .expectedCommaOrBracket => "expected `,` or `]`"
  | .keyNotText => "key must be a string"
  | .trailingComma => "trailing comma"
  | .trailingCharacters => "trailing characters"
  | .invalidNumber => "invalid number"
  | .numberOutOfRange => "number out of range"
  | .invalidEscape => "invalid escape"
  | .unpairedSurrogate => "unexpected end of hex escape"
  | .loneSurrogate => "lone leading surrogate in hex escape"
  | .invalidCodePoint => "invalid unicode code point"
  | .controlCharacter => "control character (\\u0000-\\u001F) found while parsing a string"
  | .nestedTooDeep => "recursion limit exceeded"
  | .wrongType found expected => s!"invalid type: {found.describe}, expected {expected}"
  | .wrongRange n expected => s!"invalid value: integer `{n}`, expected {expected}"
  | .wrongLength n record fields =>
    s!"invalid length {n}, expected struct {record} with {fields} elements"
  | .missingMember key => s!"missing field `{key}`"
  | .duplicateMember key => s!"duplicate field `{key}`"
  | .badBase64 fault => fault.message
  | .badInstant fault => fault.message

/-- A reader takes a value off the front of some bytes, or finds a fault. -/
abbrev Reader (α : Type) := Bytes → Except Fault (α × Bytes)

end LoraBridge.Json
