import LoraBridge.Directory
import LoraBridge.Lock.Embedded
import LoraBridge.Lock.Scripted
import LoraBridge.Settings.Basic

/-! # Stores of either kind

  The settings say whether locks are kept in the embedded store or in the remote one. Here the
  remote one is a scripted server.
-/

namespace LoraBridge.Lock

/-- A store of locks. -/
inductive Store where
  | embedded (tree : Tree)
  | remote (server : Remote.Script)

namespace Store

/-- The names of the files that an embedded store writes into its directory. -/
def fileNames : List String := ["conf", "db"]

/-- Whether an embedded store can be opened at a path. Its directory is made if need be; the
    places of its files must not be directories, as they may become on the way to it. -/
def canOpen (dir : Directory) (path : String) : Bool :=
  match Directory.make? dir path with
  | none => false
  | some way => fileNames.all fun name =>
    let place := way.getLastD [] ++ [name]
    !dir.isDirectory place && !way.contains place

/-- Opens the store that the settings ask for. -/
def connect (settings : LockSettings) (dir : Directory) (server : Remote.Script) :
    Except StoreError Unit × Store :=
  match settings.backend with
  | .embedded =>
    if canOpen dir settings.path then (.ok (), .embedded .empty)
    else (.error (.embedded "IO error: Not a directory (os error 20)"), .embedded .empty)
  | .remote =>
    let (result, server) := server.connect settings.url
    (result, .remote server)

/-- What comes of opening a store once more while it is open. An embedded one belongs to whoever
    opened it first. -/
def connectAgain : Store → Except StoreError Unit
  | .embedded _ => .error (.embedded "IO error: could not acquire lock (os error 11)")
  | .remote _ => .ok ()

/-- Takes the lock of a key at the time `now`, unless somebody holds it. -/
def setIfAbsent (store : Store) (now : Int) (key : String) (ttl : Duration) :
    Except StoreError Bool × Store :=
  match store with
  | .embedded tree =>
    let (won, tree) := Lock.setIfAbsent tree now (Text.bytes key) ttl
    (.ok won, .embedded tree)
  | .remote server =>
    let (answer, server) := server.setIfAbsent key ttl
    (answer, .remote server)

/-- The commands that a server has received. -/
def received : Store → List Remote.Request
  | .embedded _ => []
  | .remote server => server.received

end Store

end LoraBridge.Lock
