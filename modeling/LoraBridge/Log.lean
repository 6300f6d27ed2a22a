import LoraBridge.Text.Case
import LoraBridge.Text.Quoted

/-! # Log lines

  A log line has a level, a message and named fields. What is logged depends on the most verbose
  level that is enabled.
-/

namespace LoraBridge.Log

/-- How grave a line is. -/
inductive Level where
  | error
  | warn
  | info
  | debug
  | trace
deriving DecidableEq, Inhabited, Repr

namespace Level

/-- The name of a level in settings. -/
def name : Level → String
  | .error => "error"
  | .warn => "warn"
  | .info => "info"
  | .debug => "debug"
  | .trace => "trace"

/-- The name of a level in log lines. -/
def label : Level → String
  | .error => "ERROR"
  | .warn => "WARN"
  | .info => "INFO"
  | .debug => "DEBUG"
  | .trace => "TRACE"

/-- The level of a setting, in either case. Settings that name none mean `info`. -/
def ofSetting (text : String) : Level :=
  let text := Text.lower text.toList
  if text = "error".toList then .error
  else if text = "warn".toList ∨ text = "warning".toList then .warn
  else if text = "debug".toList then .debug
  else if text = "trace".toList then .trace
  else .info

/-- How many levels are at least as grave. -/
def rank : Level → Nat
  | .error => 1
  | .warn => 2
  | .info => 3
  | .debug => 4
  | .trace => 5

/-- Whether lines of this level are logged where `max` is the most verbose level. -/
def isEnabled (level max : Level) : Bool := level.rank ≤ max.rank

end Level

/-- How a character of a message is written. A terminal must not take it for a command, so the
    bell, the backspace, the form feed, the escape and the delete character are written by their
    byte, and the controls beyond ASCII by their number. -/
def disarmedChar (c : Char) : List Char :=
  if [0x07, 0x08, 0x0C, 0x1B, 0x7F].contains c.toNat then
    '\\' :: 'x' :: (if c.toNat < 0x10 then ['0'] else []) ++ Text.hexDigits c.toNat
  else if 0x80 ≤ c.toNat && c.toNat ≤ 0x9F then
    '\\' :: 'u' :: '\x7b' :: Text.hexDigits c.toNat ++ ['\x7d']
  else [c]

/-- A message as it is written. -/
def disarmed (message : String) : String := String.ofList (message.toList.flatMap disarmedChar)

/-- A line of the log. -/
structure Line where
  level : Level
  message : String
  fields : List (String × String) := []
deriving DecidableEq, Repr

/-- A line as it is written: its level, its message and its fields. -/
def Line.text (l : Line) : String :=
  " ".intercalate
    (l.level.label :: disarmed l.message :: l.fields.map fun (k, v) => k ++ "=" ++ v)

/-- The logger of a process: the most verbose level, once that has been chosen. -/
abbrev Logger := Option Level

/-- Chooses the level. Only the first choice counts. -/
def Logger.choose (logger : Logger) (setting : String) : Level :=
  logger.getD (Level.ofSetting setting)

end LoraBridge.Log
