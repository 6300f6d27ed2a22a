import LoraBridge.Json.Value

/-! # Values of any type

  Settings may come as a JSON file whose shape is not known beforehand. It is read as a `Tree`.
  Of members with one key the last counts, and lists and objects may only be nested so deep.
-/

namespace LoraBridge.Json

/-- A JSON value. -/
inductive Tree where
  | null
  | boolean (b : Bool)
  | number (n : Number)
  | text (s : String)
  | list (items : List Tree)
  | object (members : List (String × Tree))

/-- How deep lists and objects may be nested. -/
def Tree.depthLimit : Nat := 127

/-- Gives a member its value, in place of the one that it may have had. -/
def setMember {α : Type} (key : String) (a : α) : List (String × α) → List (String × α)
  | [] => [(key, a)]
  | (k, b) :: rest => if k = key then (k, a) :: rest else (k, b) :: setMember key a rest

mutual

/-- Reads a value. Every call takes a byte or is the last of its kind, so twice as many rounds as
    there are bytes are enough. -/
def readTree : Nat → Nat → Reader Tree
  | 0, _, _ => .error .endInValue
  | rounds + 1, depth, s =>
    match skipSpace s with
    | 110 :: rest => do
      let rest ← readIdent nullTail rest
      .ok (.null, rest)
    | 116 :: rest => do
      let rest ← readIdent trueTail rest
      .ok (.boolean true, rest)
    | 102 :: rest => do
      let rest ← readIdent falseTail rest
      .ok (.boolean false, rest)
    | 34 :: rest => do
      let (t, rest) ← readText rest
      .ok (.text t, rest)
    | 91 :: rest =>
      match depth with
      | 0 => .error .nestedTooDeep
      | depth + 1 => do
        let (items, rest) ← readItems rounds depth true rest
        .ok (.list items, rest)
    | 123 :: rest =>
      match depth with
      | 0 => .error .nestedTooDeep
      | depth + 1 => do
        let (members, rest) ← readTreeMembers rounds depth true [] rest
        .ok (.object members, rest)
    | s =>
      if atNumber s then do
        let (n, rest) ← readNumber s
        .ok (.number n, rest)
      else .error (wrongType "value" s)

/-- Reads the elements that are left of a list. -/
def readItems : Nat → Nat → Bool → Reader (List Tree)
  | 0, _, _, _ => .error .endInList
  | rounds + 1, depth, isFirst, s => do
    match ← nextElement isFirst s with
    | none =>
      let rest ← endList s
      .ok ([], rest)
    | some s =>
      let (item, s) ← readTree rounds depth s
      let (items, rest) ← readItems rounds depth false s
      .ok (item :: items, rest)

/-- Reads the members that are left of an object. -/
def readTreeMembers : Nat → Nat → Bool → List (String × Tree) → Reader (List (String × Tree))
  | 0, _, _, _, _ => .error .endInObject
  | rounds + 1, depth, isFirst, members, s => do
    match ← nextKey isFirst s with
    | none =>
      let rest ← endObject s
      .ok (members, rest)
    | some (key, s) =>
      let s ← readColon s
      let (value, s) ← readTree rounds depth s
      readTreeMembers rounds depth false (setMember key value members) s

end

/-- Reads a value that is all of a text, save for space around it. -/
def Tree.parse (s : Bytes) : Except Fault Tree := do
  let (tree, rest) ← readTree (2 * s.length + 2) depthLimit s
  match skipSpace rest with
  | [] => .ok tree
  | _ :: _ => .error .trailingCharacters

end LoraBridge.Json
