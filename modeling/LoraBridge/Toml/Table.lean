import LoraBridge.Toml.Value

/-! # TOML tables

  The lines of a TOML file build up a table. A key may be defined only once: a table may have
  one header, a table that dotted keys have made has none, and what stands in braces or brackets
  cannot be added to later.
-/

namespace LoraBridge.Toml

/-- How a table came about. -/
inductive Origin where
  /-- It lies on the way to a table with a header. -/
  | implied
  /-- It has a header. -/
  | header
  /-- Dotted keys have made it. -/
  | dotted
deriving DecidableEq, Repr

/-- What has been defined for a key. -/
inductive Node where
  | value (v : Value)
  | table (origin : Origin) (members : List (String × Node))
  /-- Tables with a header in double brackets, in order. -/
  | tables (items : List (List (String × Node)))

/-- What has been defined for the keys of a table. -/
abbrev Members := List (String × Node)

/-- What has been defined for a key. -/
def lookup? (key : String) (members : Members) : Option Node :=
  (members.find? (·.1 = key)).map (·.2)

/-- Defines a key, or defines it anew. -/
def define (key : String) (node : Node) : Members → Members
  | [] => [(key, node)]
  | (k, old) :: rest =>
    if k = key then (k, node) :: rest else (k, old) :: define key node rest

/-- Gives a value to a key with dots. All tables on the way count as made by dotted keys from
    then on. The way may lead through the last one of some tables with a header each, but the
    value may not be put right there. -/
def assign? : List String → Value → Members → Option Members
  | [], _, _ => none
  | [key], v, members =>
    match lookup? key members with
    | none => some (define key (.value v) members)
    | some _ => none
  | key :: keys, v, members =>
    match lookup? key members with
    | none => (assign? keys v []).map fun m => define key (.table .dotted m) members
    | some (.table .header _) => none
    | some (.table _ m) =>
      (assign? keys v m).map fun m => define key (.table .dotted m) members
    | some (.tables items) =>
      match items.getLast?, keys with
      | some m, _ :: _ :: _ =>
        (assign? keys v m).map fun m =>
          define key (.tables (items.dropLast ++ [m])) members
      | _, _ => none
    | some (.value _) => none

/-- Changes the table that a header names. -/
def descend? (change : Members → Option Members) : List String → Members → Option Members
  | [], members => change members
  | key :: keys, members =>
    match lookup? key members with
    | none => (descend? change keys []).map fun m => define key (.table .implied m) members
    | some (.table origin m) =>
      (descend? change keys m).map fun m => define key (.table origin m) members
    | some (.tables items) =>
      match items.getLast? with
      | some m =>
        (descend? change keys m).map fun m =>
          define key (.tables (items.dropLast ++ [m])) members
      | none => none
    | some (.value _) => none

/-- Opens the table with a header in single brackets. -/
def openTable? (key : String) (members : Members) : Option Members :=
  match lookup? key members with
  | none => some (define key (.table .header []) members)
  | some (.table .implied m) => some (define key (.table .header m) members)
  | some _ => none

/-- Opens one more table with a header in double brackets. -/
def openItem? (key : String) (members : Members) : Option Members :=
  match lookup? key members with
  | none => some (define key (.tables [[]]) members)
  | some (.tables items) => some (define key (.tables (items ++ [[]])) members)
  | some _ => none

mutual

/-- The value of what has been defined. -/
def Node.toValue : Node → Value
  | .value v => v
  | .table _ members => .table (membersValue members)
  | .tables items => .list (itemsValue items)

/-- The values of the keys of a table. -/
def membersValue : List (String × Node) → List (String × Value)
  | [] => []
  | (key, node) :: rest => (key, node.toValue) :: membersValue rest

/-- The values of some tables. -/
def itemsValue : List (List (String × Node)) → List Value
  | [] => []
  | members :: rest => .table (membersValue members) :: itemsValue rest

end

end LoraBridge.Toml
