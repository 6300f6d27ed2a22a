/-! # Settings

  How a server is set up: the broker it connects to, the store of its locks and what it logs.
  Every setting has a default.
-/

namespace LoraBridge

/-- Where locks are kept. -/
inductive Lock.Backend where
  /-- On a server that several processes share. -/
  | remote
  /-- In a directory that belongs to this process. -/
  | embedded
deriving DecidableEq, Inhabited, Repr

namespace Lock.Backend

/-- The name of a backend in settings. -/
def name : Backend → String
  | .remote => "redis"
  | .embedded => "sled"

/-- The name of a backend in log lines. -/
def label : Backend → String
  | .remote => "Redis"
  | .embedded => "Sled"

/-- The backend with this name. -/
def ofName? (s : String) : Option Backend :=
  if s = "redis" then some .remote else if s = "sled" then some .embedded else none

end Lock.Backend

/-- The broker. Without a user name no credentials are sent. -/
structure BrokerSettings where
  server : String := "tcp://localhost:1883"
  username : String := ""
  password : String := ""
deriving DecidableEq, Inhabited, Repr

/-- The store of the locks. -/
structure LockSettings where
  backend : Lock.Backend := .remote
  url : String := "redis://localhost:6379"
  path : String := "nodelink_locks"
  /-- How many seconds pass between two purges. -/
  purgeInterval : Nat := 60
deriving DecidableEq, Inhabited, Repr

/-- What is logged. -/
structure LogSettings where
  level : String := "info"
deriving DecidableEq, Inhabited, Repr

/-- All settings. -/
structure Settings where
  broker : BrokerSettings := {}
  lock : LockSettings := {}
  log : LogSettings := {}
deriving DecidableEq, Inhabited, Repr

end LoraBridge
