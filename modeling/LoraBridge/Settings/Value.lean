import LoraBridge.Json.Tree
import LoraBridge.Toml.Reader

/-! # Values of settings

  What the sources of settings give is put together into one tree. Every value knows where it
  came from, save for the tables that were made on the way.

  A table that is put where something is already joins with it, key by key; anything else
  replaces what was there.
-/

namespace LoraBridge.Settings

/-- A value without parts. -/
inductive Scalar where
  | null
  | boolean (b : Bool)
  | integer (n : Int)
  | real (x : Float)
  | text (s : String)
deriving Repr

/-- A value and where it came from. -/
inductive Value where
  | scalar (origin? : Option String) (s : Scalar)
  | list (origin? : Option String) (items : List Value)
  | table (origin? : Option String) (members : List (String × Value))

namespace Value

/-- Nothing. -/
def nothing : Value := .scalar none .null

/-- The members of a table; anything else has none. -/
def members : Value → List (String × Value)
  | .table _ members => members
  | _ => []

/-- The elements of a list; anything else has none. -/
def items : Value → List Value
  | .list _ items => items
  | _ => []

/-- The member with a key. -/
def member? (v : Value) (key : String) : Option Value :=
  (v.members.find? (·.1 = key)).map (·.2)

/-- The origin that a table keeps, or that a new one in its place gets. -/
def tableOrigin? : Value → Option String
  | .table origin? _ => origin?
  | _ => none

/-- The origin that a list keeps, or that a new one in its place gets. -/
def listOrigin? : Value → Option String
  | .list origin? _ => origin?
  | _ => none

/-! ### Joining -/

mutual

/-- What comes of putting a value where another one is. -/
def join (old : Value) : Value → Value
  | .table _ added => .table old.tableOrigin? (joinMembers old.members added)
  | .list origin? items => .list origin? items
  | .scalar origin? s => .scalar origin? s

/-- The members of a table after others have been put into it. -/
def joinMembers (members : List (String × Value)) :
    List (String × Value) → List (String × Value)
  | [] => members
  | (key, v) :: rest =>
    let old := ((members.find? (·.1 = key)).map (·.2)).getD nothing
    joinMembers (Json.setMember key (old.join v) members) rest

end

/-! ### Files -/

mutual

/-- The value of a JSON tree. -/
def ofJson (origin? : Option String) : Json.Tree → Value
  | .null => .scalar origin? .null
  | .boolean b => .scalar origin? (.boolean b)
  | .number (.whole n) => .scalar origin? (.integer n)
  | .number (.real x) => .scalar origin? (.real x)
  | .text s => .scalar origin? (.text s)
  | .list items => .list origin? (itemsOfJson origin? items)
  | .object members => .table origin? (membersOfJson origin? members)

/-- The values of some JSON trees. -/
def itemsOfJson (origin? : Option String) : List Json.Tree → List Value
  | [] => []
  | item :: rest => ofJson origin? item :: itemsOfJson origin? rest

/-- The values of the members of an object. -/
def membersOfJson (origin? : Option String) : List (String × Json.Tree) → List (String × Value)
  | [] => []
  | (key, tree) :: rest => (key, ofJson origin? tree) :: membersOfJson origin? rest

end

mutual

/-- The value of a TOML value; dates and times are texts. -/
def ofToml (origin? : Option String) : Toml.Value → Value
  | .text s => .scalar origin? (.text s)
  | .integer n => .scalar origin? (.integer n)
  | .real x => .scalar origin? (.real x)
  | .boolean b => .scalar origin? (.boolean b)
  | .instant s => .scalar origin? (.text s)
  | .list items => .list origin? (itemsOfToml origin? items)
  | .table members => .table origin? (membersOfToml origin? members)

/-- The values of some TOML values. -/
def itemsOfToml (origin? : Option String) : List Toml.Value → List Value
  | [] => []
  | item :: rest => ofToml origin? item :: itemsOfToml origin? rest

/-- The values of the members of a table. -/
def membersOfToml (origin? : Option String) :
    List (String × Toml.Value) → List (String × Value)
  | [] => []
  | (key, v) :: rest => (key, ofToml origin? v) :: membersOfToml origin? rest

end

end Value

end LoraBridge.Settings
