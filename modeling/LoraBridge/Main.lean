import LoraBridge.Server.Program

/-! # The command line

  Gives the program its arguments, its environment and the files that it may ask for, writes its
  log and exits with its code. There is no network here: to the program, neither the broker nor
  the lock server can be reached.
-/

namespace LoraBridge.Main

open Server (Invocation)
open Server.Program (World)

/-- What a file holds, if it can be read. -/
def readFile? (path : String) : IO (Option Bytes) := do
  try
    let content ← IO.FS.readBinFile path
    return some content.toList
  catch _ => return none

/-- Those of some paths that are files, as a directory. -/
def readFiles (paths : List String) : IO Directory := do
  let mut files := []
  for path in paths do
    if let some content ← readFile? path then
      files := files ++ [(Directory.placeOf path, content)]
  return files

/-- The environment. -/
def readEnvironment : IO (List (String × String)) := do
  let content := (← readFile? "/proc/self/environ").getD []
  return (content.splitOn 0).filterMap fun entry => do
    let text ← Text.ofBytes? entry
    let (name, rest) := text.toList.span (· ≠ '=')
    if rest.isEmpty then none else some (String.ofList name, String.ofList (rest.drop 1))

/-- Random bytes. -/
def readRandom (n : Nat) : IO Bytes := do
  let mut bytes := []
  for _ in List.range n do
    bytes := (← IO.rand 0 255).toUInt8 :: bytes
  return bytes

/-- The world of a run with some arguments. -/
def readWorld (arguments : List String) : IO World := do
  let unique := Broker.identifier (← readRandom 16)
  let environment ← readEnvironment
  match Invocation.ofArguments arguments with
  | .serve path =>
    let files ← readFiles (Settings.Variables.fileName :: Settings.candidates path)
    let world : World := { directory := files, environment, unique }
    match Settings.load files world.fullEnvironment path with
    | .ok settings =>
      let obstacles ← readFiles (Directory.pathsTo settings.lock.path)
      return { world with directory := files ++ obstacles }
    | .error _ => return world
  | _ => return { environment, unique }

/-- How the program is called. -/
def usage : String :=
  "Usage: nodelink serve [--config <PATH>]\n\n" ++
    "  serve            Connect to the broker and serve downlink commands\n" ++
    "  --config <PATH>  Configuration file, without extension [default: config/default]\n" ++
    "  -h, --help       Print help\n"

/-- Runs the program. -/
def run (arguments : List String) : IO UInt32 := do
  let report := Server.Program.run (← readWorld arguments) arguments
  match Invocation.ofArguments arguments with
  | .help => IO.print usage
  | .misuse => IO.eprint usage
  | .serve _ =>
    for line in report.log do
      IO.println line.text
  return report.exitCode.toUInt32

end LoraBridge.Main

def main (arguments : List String) : IO UInt32 := LoraBridge.Main.run arguments
