import LoraBridge.Json.Fault
import LoraBridge.Json.Text

/-! # Skipping values

  The value of an unknown member is passed over without being read: its grammar, its escapes and
  its control characters are checked, but neither the bytes of its texts nor the size of its
  numbers, and it may be nested to any depth.

  Skipping is a machine that takes one byte at a time. Its state is a `Mode`, which says what may
  come next, and the stack of the lists and objects that are open.
-/

namespace LoraBridge.Json.Skip

/-- What is open around the present place. -/
inductive Frame where
  | list
  | object
deriving Repr, DecidableEq

/-- What may come next. -/
inductive Mode where
  /-- A value. -/
  | value
  /-- The first element of a list, or its end. -/
  | firstElement
  /-- The first member of an object, or its end. -/
  | firstMember
  /-- The key of a further member. -/
  | key
  /-- The colon after a key. -/
  | colon
  /-- A comma or the end of what is open. -/
  | after
  /-- The rest of a literal. -/
  | literal (rest : Bytes)
  /-- The first digit of a number. -/
  | sign
  /-- What follows a leading zero. -/
  | zero
  /-- More digits before the point. -/
  | digits
  /-- The first digit after the point. -/
  | point
  /-- More digits after the point. -/
  | fraction
  /-- The sign or the first digit of an exponent. -/
  | exponentSign
  /-- The first digit of an exponent. -/
  | exponent
  /-- More digits of an exponent. -/
  | exponentDigits
  /-- The inside of a text, which may be a key. -/
  | text (isKey : Bool)
  /-- The letter of an escape. -/
  | escape (isKey : Bool)
  /-- So many more digits of an escape; `good` if all before were digits. -/
  | hex (isKey : Bool) (left : Nat) (good : Bool)
deriving Repr, DecidableEq

/-- What the machine does with a byte. -/
inductive Move where
  /-- Goes on with the next byte. -/
  | next (mode : Mode) (stack : List Frame)
  /-- Ends with this byte. -/
  | done
  /-- Ends before this byte. -/
  | stop
deriving Repr

/-- A byte that may stand between tokens. -/
def isSpace (b : UInt8) : Bool := b = 32 || b = 9 || b = 10 || b = 13

/-- A byte that is a decimal digit. -/
def isDecimal (b : UInt8) : Bool := 48 ≤ b && b ≤ 57

/-! ### Where a value ends -/

/-- Goes on after a value that ended with the present byte. -/
def ended : List Frame → Move
  | [] => .done
  | stack => .next .after stack

/-- Takes a byte after a value. -/
def stepAfter (stack : List Frame) (b : UInt8) : Except Fault Move :=
  match stack with
  | [] => .ok .stop
  | .list :: outer =>
    if isSpace b then .ok (.next .after stack)
    else if b = 44 then .ok (.next .value stack)
    else if b = 93 then .ok (ended outer)
    else .error .expectedCommaOrBracket
  | .object :: outer =>
    if isSpace b then .ok (.next .after stack)
    else if b = 44 then .ok (.next .key stack)
    else if b = 125 then .ok (ended outer)
    else .error .expectedCommaOrBrace

/-- What is wrong if the text ends after a value. -/
def endAfter : List Frame → Except Fault Bytes
  | [] => .ok []
  | .list :: _ => .error .endInList
  | .object :: _ => .error .endInObject

/-! ### Where a value begins -/

/-- Takes the first byte of a value. -/
def stepValue (stack : List Frame) (b : UInt8) : Except Fault Move :=
  if isSpace b then .ok (.next .value stack)
  else if b = 110 then .ok (.next (.literal [117, 108, 108]) stack)
  else if b = 116 then .ok (.next (.literal [114, 117, 101]) stack)
  else if b = 102 then .ok (.next (.literal [97, 108, 115, 101]) stack)
  else if b = 45 then .ok (.next .sign stack)
  else if b = 48 then .ok (.next .zero stack)
  else if isDecimal b then .ok (.next .digits stack)
  else if b = 34 then .ok (.next (.text false) stack)
  else if b = 91 then .ok (.next .firstElement (.list :: stack))
  else if b = 123 then .ok (.next .firstMember (.object :: stack))
  else .error .expectedValue

/-- Takes the first byte of a key. -/
def stepKey (stack : List Frame) (b : UInt8) : Except Fault Move :=
  if isSpace b then .ok (.next .key stack)
  else if b = 34 then .ok (.next (.text true) stack)
  else .error .keyNotText

/-! ### The machine -/

/-- What the machine does with one byte. -/
def step (mode : Mode) (stack : List Frame) (b : UInt8) : Except Fault Move :=
  match mode with
  | .value => stepValue stack b
  | .firstElement =>
    if isSpace b then .ok (.next .firstElement stack)
    else if b = 93 then .ok (ended stack.tail)
    else stepValue stack b
  | .firstMember =>
    if isSpace b then .ok (.next .firstMember stack)
    else if b = 125 then .ok (ended stack.tail)
    else stepKey stack b
  | .key => stepKey stack b
  | .colon =>
    if isSpace b then .ok (.next .colon stack)
    else if b = 58 then .ok (.next .value stack)
    else .error .expectedColon
  | .after => stepAfter stack b
  | .literal [] => .error .expectedIdent
  | .literal (c :: rest) =>
    if b = c then
      .ok (if rest.isEmpty then ended stack else .next (.literal rest) stack)
    else .error .expectedIdent
  | .sign =>
    if b = 48 then .ok (.next .zero stack)
    else if isDecimal b then .ok (.next .digits stack)
    else .error .invalidNumber
  | .zero =>
    if isDecimal b then .error .invalidNumber
    else if b = 46 then .ok (.next .point stack)
    else if b = 101 || b = 69 then .ok (.next .exponentSign stack)
    else stepAfter stack b
  | .digits =>
    if isDecimal b then .ok (.next .digits stack)
    else if b = 46 then .ok (.next .point stack)
    else if b = 101 || b = 69 then .ok (.next .exponentSign stack)
    else stepAfter stack b
  | .point => if isDecimal b then .ok (.next .fraction stack) else .error .invalidNumber
  | .fraction =>
    if isDecimal b then .ok (.next .fraction stack)
    else if b = 101 || b = 69 then .ok (.next .exponentSign stack)
    else stepAfter stack b
  | .exponentSign =>
    if b = 43 || b = 45 then .ok (.next .exponent stack)
    else if isDecimal b then .ok (.next .exponentDigits stack)
    else .error .invalidNumber
  | .exponent =>
    if isDecimal b then .ok (.next .exponentDigits stack) else .error .invalidNumber
  | .exponentDigits =>
    if isDecimal b then .ok (.next .exponentDigits stack) else stepAfter stack b
  | .text isKey =>
    if b = 34 then .ok (if isKey then .next .colon stack else ended stack)
    else if b = 92 then .ok (.next (.escape isKey) stack)
    else if b < 32 then .error .controlCharacter
    else .ok (.next (.text isKey) stack)
  | .escape isKey =>
    if b = 117 then .ok (.next (.hex isKey 4 true) stack)
    else if (shortEscape? b).isSome then .ok (.next (.text isKey) stack)
    else .error .invalidEscape
  | .hex isKey left good =>
    let good := good && (hexValue? b).isSome
    if left ≤ 1 then
      if good then .ok (.next (.text isKey) stack) else .error .invalidEscape
    else .ok (.next (.hex isKey (left - 1) good) stack)

/-- What is wrong if the text ends here. A number may end with the text. -/
def finish (mode : Mode) (stack : List Frame) : Except Fault Bytes :=
  match mode with
  | .value | .literal _ => .error .endInValue
  | .firstElement => .error .endInList
  | .firstMember | .key | .colon => .error .endInObject
  | .sign | .point | .exponentSign | .exponent => .error .invalidNumber
  | .text _ | .escape _ | .hex _ _ _ => .error .endInText
  | .after | .zero | .digits | .fraction | .exponentDigits => endAfter stack

/-- Runs the machine and gives what follows the value. -/
def run (mode : Mode) (stack : List Frame) : Bytes → Except Fault Bytes
  | [] => finish mode stack
  | b :: rest =>
    match step mode stack b with
    | .error f => .error f
    | .ok (.next mode stack) => run mode stack rest
    | .ok .done => .ok rest
    | .ok .stop => .ok (b :: rest)

end LoraBridge.Json.Skip

namespace LoraBridge.Json

/-- Passes over a value and gives what follows it. -/
def skipValue (s : Bytes) : Except Fault Bytes := Skip.run .value [] s

end LoraBridge.Json
