import LoraBridge.Settings.Basic
import LoraBridge.Settings.Source

/-! # Loading settings

  `load` puts the sources together, the environment over the file and both over the defaults,
  setting by setting. A setting that is null counts as not given.

  - Texts may be given as truth values and numbers too.
  - The purge interval may be given as a truth value, a number that is not below zero, or the
    text of one.
  - The backend is given by its name, or as a table with the name as its only key.
  - A section is a table, or a list of its settings in order.
-/

namespace LoraBridge.Settings

/-! ### Faults -/

/-- Why settings are refused. -/
inductive Fault where
  /-- The file at this place is not well-formed. -/
  | malformed (origin : String)
  /-- The setting has another type than is wanted. -/
  | wrongType (found : Json.Found) (expected key : String) (origin? : Option String)
  /-- The setting is a number below zero. -/
  | negative (n : Int) (key : String) (origin? : Option String)
  /-- The section is neither a table nor a list. -/
  | notSection (found : Json.Found) (record key : String)
  /-- The section is a list with too few elements. -/
  | shortSection (length : Nat) (record : String) (fields : Nat) (key : String)
  /-- There is no backend with this name. -/
  | unknownBackend (name key : String)
  /-- The setting does not name a backend. -/
  | notBackend (key : String)
deriving Repr

/-- The kinds of faults. -/
inductive Fault.Kind where
  /-- A file could not be read. -/
  | parse
  /-- A setting has the wrong type. -/
  | type
  /-- Something else is wrong at a key. -/
  | at
deriving DecidableEq, Repr

/-- The kind of a fault. -/
def Fault.kind : Fault → Fault.Kind
  | .malformed _ => .parse
  | .wrongType .. | .negative .. => .type
  | .notSection .. | .shortSection .. | .unknownBackend .. | .notBackend _ => .at

/-- What was found, for a report on settings: doubles are always written out. -/
def describe : Json.Found → String
  | .real x => "floating point `" ++ String.ofList (Decimal.Layout.settingMessage.render x) ++ "`"
  | found => found.describe

/-- Where a setting came from, for a report. -/
def inOrigin : Option String → String
  | some origin => " in " ++ origin
  | none => ""

/-- What so many elements are called in a report. -/
def elements (n : Nat) : String := if n = 1 then "element" else "elements"

/-- The report of a fault. -/
def Fault.message : Fault → String
  | .malformed origin => s!"malformed settings in {origin}"
  | .wrongType found expected key origin? =>
    s!"invalid type: {describe found}, expected {expected} for key `{key}`{inOrigin origin?}"
  | .negative n key origin? =>
    s!"invalid type: 64-bit integer `{n}`, expected an unsigned 64 bit or less integer " ++
      s!"for key `{key}`{inOrigin origin?}"
  | .notSection found record key =>
    s!"invalid type: {describe found}, expected struct {record} for key `{key}`"
  | .shortSection length record fields key =>
    s!"invalid length {length}, expected struct {record} with {fields} {elements fields} " ++
      s!"for key `{key}`"
  | .unknownBackend name key =>
    s!"enum LockBackend does not have variant constructor {name} for key `{key}`"
  | .notBackend key =>
    "value of enum LockBackend should be represented by either string or table with exactly " ++
      s!"one key for key `{key}`"

/-! ### Settings -/

/-- What a scalar is found to be. -/
def Scalar.found : Scalar → Json.Found
  | .null => .null
  | .boolean b => .boolean b
  | .integer n => .whole n
  | .real x => .real x
  | .text s => .text s

/-- The text of a scalar, if there is one. -/
def Scalar.text? : Scalar → Option String
  | .null => none
  | .boolean b => some (toString b)
  | .integer n => some (toString n)
  | .real x => some (String.ofList (Decimal.Layout.setting.render x))
  | .text s => some s

/-- Reads a text. -/
def readText (key : String) : Value → Except Fault (Option String)
  | .scalar _ s => .ok s.text?
  | .list origin? _ => .error (.wrongType .sequence "a string" key origin?)
  | .table origin? _ => .error (.wrongType .map "a string" key origin?)

/-- The largest number that fits 64 bits. -/
def wordMax : Nat := Nat.pow 2 64 - 1

/-- The number that a text writes, where some words stand for one and zero. -/
def countOfText? (s : String) : Option Nat :=
  let word := String.ofList (Text.lower s.toList)
  if ["true", "on", "yes"].contains word then some 1
  else if ["false", "off", "no"].contains word then some 0
  else Decimal.readUnsigned? wordMax s.toList

/-- Reads a number that is not below zero. Doubles are rounded, halves away from zero, and cut to
    64 bits. -/
def readCount (key : String) : Value → Except Fault (Option Nat)
  | .scalar _ .null => .ok none
  | .scalar _ (.boolean b) => .ok (some b.toNat)
  | .scalar origin? (.integer n) =>
    if n < 0 then .error (.negative n key origin?) else .ok (some n.toNat)
  | .scalar _ (.real x) => .ok (some x.round.toUInt64.toNat)
  | .scalar origin? (.text s) =>
    match countOfText? s with
    | some n => .ok (some n)
    | none => .error (.wrongType (.text s) "an integer" key origin?)
  | .list origin? _ => .error (.wrongType .sequence "an integer" key origin?)
  | .table origin? _ => .error (.wrongType .map "an integer" key origin?)

/-- The backend that a name means. -/
def backendOfName (key name : String) : Except Fault (Option Lock.Backend) :=
  match Lock.Backend.ofName? name with
  | some backend => .ok (some backend)
  | none => .error (.unknownBackend name key)

/-- Reads a backend. -/
def readBackend (key : String) : Value → Except Fault (Option Lock.Backend)
  | .scalar _ .null => .ok none
  | .scalar _ (.text s) => backendOfName key s
  | .table _ [(name, _)] => backendOfName key name
  | _ => .error (.notBackend key)

/-! ### Sections -/

/-- A section: its key, the name that reports use, and the keys of its settings in order. -/
structure Section where
  key : String
  record : String
  fields : List String

/-- The section of the broker. -/
def brokerSection : Section :=
  { key := "mqtt", record := "PartialMqttSettings", fields := ["server", "username", "password"] }

/-- The section of the lock store. -/
def lockSection : Section :=
  { key := "lock", record := "PartialLockSettings",
    fields := ["backend", "redis_url", "path", "purge_interval_secs"] }

/-- The section of the log. -/
def logSection : Section :=
  { key := "log", record := "PartialLogSettings", fields := ["level"] }

/-- Reads the setting with number `i` of a section. -/
def Section.readField {α : Type} (sec : Section) (v : Value) (i : Nat)
    (read : String → Value → Except Fault (Option α)) : Except Fault (Option α) :=
  match v with
  | .scalar _ .null => .ok none
  | .scalar _ s => .error (.notSection s.found sec.record sec.key)
  | .table _ _ =>
    let field := sec.fields.getD i ""
    match v.member? field with
    | some v => read (sec.key ++ "." ++ field) v
    | none => .ok none
  | .list _ items =>
    match items[i]? with
    | some v => read (sec.key ++ "[" ++ toString i ++ "]") v
    | none => .error (.shortSection items.length sec.record sec.fields.length sec.key)

/-- What has been given of a section. -/
def Section.of (sec : Section) (tree : Value) : Value :=
  (tree.member? sec.key).getD Value.nothing

/-- The settings of the broker, where missing ones come from `base`. -/
def readBroker (tree : Value) (base : BrokerSettings) : Except Fault BrokerSettings := do
  let v := brokerSection.of tree
  let server ← brokerSection.readField v 0 readText
  let username ← brokerSection.readField v 1 readText
  let password ← brokerSection.readField v 2 readText
  .ok { server := server.getD base.server, username := username.getD base.username,
        password := password.getD base.password }

/-- The settings of the lock store, where missing ones come from `base`. -/
def readLock (tree : Value) (base : LockSettings) : Except Fault LockSettings := do
  let v := lockSection.of tree
  let backend ← lockSection.readField v 0 readBackend
  let url ← lockSection.readField v 1 readText
  let path ← lockSection.readField v 2 readText
  let purgeInterval ← lockSection.readField v 3 readCount
  .ok { backend := backend.getD base.backend, url := url.getD base.url,
        path := path.getD base.path, purgeInterval := purgeInterval.getD base.purgeInterval }

/-- The settings of the log, where missing ones come from `base`. -/
def readLog (tree : Value) (base : LogSettings) : Except Fault LogSettings := do
  let level ← logSection.readField (logSection.of tree) 0 readText
  .ok { level := level.getD base.level }

/-! ### Loading -/

/-- The tree after a source has given some settings. -/
def addSource (tree : Value) (source : List (String × Value)) : Value :=
  source.foldl (fun tree (name, v) => tree.set name v) tree

/-- The settings that a file gives. -/
def fileSource (dir : Directory) (path : String) : Except Fault (List (String × Value)) :=
  match find? dir path with
  | none => .ok []
  | some (path, place, format) =>
    let origin := originOf path
    match format.read? origin (textOf ((dir.file? place).getD [])) with
    | some source => .ok source
    | none => .error (.malformed origin)

/-- The settings that a tree gives. -/
def ofTree (tree : Value) : Except Fault Settings := do
  let base : Settings := {}
  let broker ← readBroker tree base.broker
  let lock ← readLock tree base.lock
  let log ← readLog tree base.log
  .ok { broker, lock, log }

/-- The path of the file if none is given. -/
def defaultPath : String := "config/default"

/-- Loads the settings from the file at a path and from the environment. -/
def load (dir : Directory) (environment : List (String × String)) (path : String) :
    Except Fault Settings := do
  let file ← fileSource dir path
  ofTree (addSource (addSource (.table none []) file) (ofEnvironment environment))

end LoraBridge.Settings
