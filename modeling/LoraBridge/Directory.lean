import LoraBridge.Text.Utf8

/-! # Files below the working directory

  Settings are read from files, and embedded stores lie in directories. A `Directory` is what is
  there when the program starts: files, each with its place.

  A path is followed name by name. Of what lies above the working directory, or anywhere else on
  the machine, nothing is known but that there are directories.
-/

namespace LoraBridge

/-- A place, as the names on the way to it from the working directory. What lies outside begins
    with `..` or with `/`. -/
abbrev Place := List String

/-- The files below a directory and what they hold. -/
abbrev Directory := List (Place × Bytes)

namespace Directory

/-- How long a name may be, in bytes. -/
def nameLimit : Nat := 255

/-- The names on a path. -/
def namesOf (path : String) : List String :=
  (path.toList.splitOn '/').filterMap fun name =>
    if name = [] ∨ name = ['.'] then none else some (String.ofList name)

/-- The paths of the places on the way to a path, and the path itself. -/
def pathsTo (path : String) : List String :=
  let mark := if path.startsWith "/" then "/" else ""
  let names := namesOf path
  (List.range names.length).map fun i => mark ++ "/".intercalate (names.take (i + 1))

/-- A place outside of the working directory, where everything is a directory. -/
def isOutside (place : Place) : Bool := place = ["/"] || place.all (· = "..")

/-- The place one name further. -/
def step (here : Place) (name : String) : Place :=
  if name ≠ ".." then here ++ [name]
  else if here = ["/"] then here
  else if isOutside here then here ++ [".."]
  else here.dropLast

/-- Where a path begins. -/
def start (path : String) : Place := if path.startsWith "/" then ["/"] else []

/-- The places on the way along some names, both ends included. -/
def wayFrom (here : Place) : List String → List Place
  | [] => [here]
  | name :: names => here :: wayFrom (step here name) names

/-- The places on the way that a path takes, both ends included. -/
def way (path : String) : List Place := wayFrom (start path) (namesOf path)

/-- The place that a path leads to. -/
def placeOf (path : String) : Place := (namesOf path).foldl step (start path)

variable (dir : Directory)

/-- What a file holds. -/
def file? (place : Place) : Option Bytes := (dir.find? (·.1 = place)).map (·.2)

/-- Whether a place is a directory. -/
def isDirectory (place : Place) : Bool :=
  isOutside place ||
    dir.any fun f => place.length < f.1.length && f.1.take place.length = place

/-- Whether something may have this name. -/
def isName (name : String) : Bool :=
  !name.contains (Char.ofNat 0) && (Text.bytes name).length ≤ nameLimit

/-- Follows the parts of a path between its slashes to a file. Even an empty part has to be in a
    directory. -/
def findFrom? (here : Place) : List (List Char) → Option Place
  | [] => if (file? dir here).isSome then some here else none
  | part :: parts =>
    if !dir.isDirectory here then none
    else if part = [] ∨ part = ['.'] then findFrom? here parts
    else findFrom? (step here (String.ofList part)) parts

/-- The place of the file at a path, if there is one. -/
def find? (path : String) : Option Place := findFrom? dir (start path) (path.toList.splitOn '/')

/-- The places on the way to a directory that is at a path or can be made there, the last one
    being the directory itself. The way to it must not lead through a file. -/
def make? (path : String) : Option (List Place) :=
  let way := way path
  if way.all (fun place => (file? dir place).isNone) && (namesOf path).all isName then some way
  else none

end Directory

end LoraBridge
