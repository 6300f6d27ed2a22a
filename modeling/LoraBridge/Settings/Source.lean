import LoraBridge.Directory
import LoraBridge.Settings.Path
import LoraBridge.Text.Case

/-! # Sources of settings

  Settings come from a file and from the environment.

  - A file is given by its path. The path may leave out the extension, which is that of TOML or
    JSON files; if its last name has one already, the extension is added to the path as it
    stands. A file that is not there gives nothing.
  - Files of other formats, which are YAML, INI, RON and JSON5, are left out: they are not looked
    for, and nothing is said of a path that means such a file.
  - A variable of the environment gives a setting if its name begins with `NODELINK_`. The rest of
    its name is a path in which `__` stands for a point; all of it may be in either case.
-/

namespace LoraBridge.Settings

/-! ### Files -/

/-- The formats of the files that are read. Others are left out. -/
inductive Format where
  | toml
  | json
deriving DecidableEq, Repr

/-- The extension of files with a format. -/
def Format.extension : Format → String
  | .toml => "toml"
  | .json => "json"

/-- The formats, in the order in which files are looked for. -/
def Format.all : List Format := [.toml, .json]

/-- The extension of a name: what follows its last point, unless that begins the name. -/
def extension? (name : String) : Option String :=
  match name.toList.reverse.span (· ≠ '.') with
  | (_, []) => none
  | (_, ['.']) => none
  | (ext, _) => some (String.ofList ext.reverse)

/-- The format of a file by its name. -/
def Format.ofName? (name : String) : Option Format :=
  (extension? name).bind fun ext => Format.all.find? (·.extension = ext)

/-- What goes between the end of a path and an extension. A path that ends with a slash gets a
    name of its own. -/
def joint (path : String) : String := if path.endsWith "/" then ".placeholder." else "."

/-- The path with an extension: if its last name has none, that gets it, and whatever follows the
    name is dropped; else the path gets it as it stands. -/
def withExtension? (path : String) (extension : String) : Option String := do
  let names := Directory.namesOf path
  let name ← names.getLast?
  if name = ".." then none
  else if (extension? name).isSome then some (path ++ joint path ++ extension)
  else
    let mark := if path.startsWith "/" then "/" else ""
    some (mark ++ "/".intercalate names ++ "." ++ extension)

/-- The file that a path means, with its format: its path and its place. A path that is a file
    itself means that one, which then has to have a known extension. -/
def find? (dir : Directory) (path : String) : Option (String × Place × Format) :=
  match dir.find? path with
  | some place => do
    let name ← place.getLast?
    let format ← Format.ofName? name
    some (path, place, format)
  | none => Format.all.findSome? fun format => do
    let path ← withExtension? path format.extension
    let place ← dir.find? path
    some (path, place, format)

/-- The paths of the files that a path may mean. -/
def candidates (path : String) : List String :=
  path :: Format.all.filterMap fun format => withExtension? path format.extension

/-- The text of a file. -/
def textOf (content : Bytes) : String := Text.ofBytesLossy (Text.withoutMark content)

/-- How the file at a path is named in reports. -/
def originOf (path : String) : String := "/".intercalate (Directory.namesOf path)

/-- The settings that a file gives, if it is well-formed. -/
def Format.read? (format : Format) (origin : String) (text : String) :
    Option (List (String × Value)) :=
  match format with
  | .toml => (Toml.parse? text).map (Value.membersOfToml (some origin))
  | .json =>
    match Json.Tree.parse (Text.bytes text) with
    | .ok (.object members) => some (Value.membersOfJson (some origin) members)
    | _ => none

/-! ### The environment -/

/-- How settings from the environment are named in reports. -/
def environmentOrigin : String := "the environment"

/-- What the names of variables begin with. -/
def variableMark : List Char := "nodelink_".toList

/-- The text with a point for every two underscores, from the left. -/
def pointed : List Char → List Char
  | '_' :: '_' :: rest => '.' :: pointed rest
  | c :: rest => c :: pointed rest
  | [] => []

/-- The setting that a variable gives. -/
def ofVariable? (name value : String) : Option (String × Value) :=
  let name := Text.lower name.toList
  if variableMark.isPrefixOf name then
    some (String.ofList (pointed (name.drop variableMark.length)),
      .scalar (some environmentOrigin) (.text value))
  else none

/-- The settings that the environment gives. -/
def ofEnvironment (environment : List (String × String)) : List (String × Value) :=
  environment.filterMap fun (name, value) => ofVariable? name value

end LoraBridge.Settings
