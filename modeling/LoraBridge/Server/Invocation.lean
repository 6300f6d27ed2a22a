import LoraBridge.Settings.Load

/-! # How the program is called

  The program takes `serve`, which may be followed by `--config` and the path of a file of
  settings, and it takes requests for help. Arguments are read from left to right; the first one
  that asks for help or does not fit decides.
-/

namespace LoraBridge.Server

/-- What the program is called to do. -/
inductive Invocation where
  /-- It serves with the settings of the file at this path. -/
  | serve (path : String)
  | help
  /-- It cannot tell. -/
  | misuse
deriving DecidableEq, Repr

namespace Invocation

/-- Whether an argument asks for help. -/
def asksHelp (argument : String) : Bool := argument = "--help" || argument.startsWith "-h"

/-- Whether an argument can be the value of an option. -/
def isValue (argument : String) : Bool := argument = "-" || !argument.startsWith "-"

/-- The path that an argument such as `--config=path` gives. -/
def attached? (argument : String) : Option String :=
  let mark := "--config=".toList
  if mark.isPrefixOf argument.toList then
    some (String.ofList (argument.toList.drop mark.length))
  else none

/-- What the arguments after `serve` ask for, where a path may have been given already. -/
def ofOptions : Option String → List String → Invocation
  | path?, [] => .serve (path?.getD Settings.defaultPath)
  | path?, ["--"] => .serve (path?.getD Settings.defaultPath)
  | none, "--config" :: path :: rest => if isValue path then ofOptions (some path) rest else .misuse
  | path?, argument :: rest =>
    if asksHelp argument then .help
    else match path?, attached? argument with
      | none, some path => ofOptions (some path) rest
      | _, _ => .misuse

/-- What the arguments ask for. -/
def ofArguments : List String → Invocation
  | "serve" :: rest => ofOptions none rest
  | ["help"] | ["help", "serve"] | ["help", "help"] => .help
  | argument :: _ => if asksHelp argument then .help else .misuse
  | [] => .misuse

end Invocation

end LoraBridge.Server
