import LoraBridge.Lock.Outcome

/-! # The remote store

  The store that several processes share is a Redis server. A lock is taken with one command,
  `SET key lock PX ttl NX`, which the server refuses with an empty reply while the key exists.
  The server lets keys expire by itself, so there is nothing to purge.
-/

namespace LoraBridge.Lock.Remote

/-- A command as the server receives it. -/
abbrev Request := List String

/-- What comes back from the server. -/
inductive Reply where
  | value
  /-- The empty reply. -/
  | empty
  | error
  /-- The connection was closed instead. -/
  | closed
deriving DecidableEq, Repr

/-- The largest number of milliseconds that a command can name. -/
def maxMillis : Nat := Nat.pow 2 64 - 1

/-- The milliseconds for which a key is to exist: at least one, since zero is refused. -/
def ttlArgument (ttl : Duration) : Nat := max (min ttl.millis maxMillis) 1

/-- The command that takes the lock of a key. -/
def setRequest (key : String) (ttl : Duration) : Request :=
  ["SET", key, "lock", "PX", toString (ttlArgument ttl), "NX"]

/-- The command that asks whether the server answers. -/
def pingRequest : Request := ["PING"]

/-- Whether the lock was taken. -/
def setResult : Reply → Except StoreError Bool
  | .value => .ok true
  | .empty => .ok false
  | .error => .error (.remote "An error was signalled by the server")
  | .closed => .error (.remote "broken pipe")

/-- Takes the lock of a key. The server is given by what it answers to a command. -/
def setIfAbsent {σ : Type} (answer : Request → Reply × σ) (key : String) (ttl : Duration) :
    Except StoreError Bool × σ :=
  let (reply, server) := answer (setRequest key ttl)
  (setResult reply, server)

/-- Whether the server answers; an empty reply is no answer. -/
def pingResult : Reply → Except StoreError Unit
  | .value => .ok ()
  | .empty => .error (.remote "Response was of incompatible type")
  | .error => .error (.remote "An error was signalled by the server")
  | .closed => .error (.remote "broken pipe")

/-- How many keys a purge removes: the server has removed them already. -/
def purged : Nat := 0

/-- The store in a debug line. Its connections are taken one at a time, so it holds one. -/
def debugText (maxSize : String) : String :=
  "RedisLockStore \x7b pool: Status \x7b max_size: " ++ maxSize ++
    ", size: 1, available: 1, waiting: 0 \x7d \x7d"

end LoraBridge.Lock.Remote
