import LoraBridge.Lock.Remote
import LoraBridge.Lock.RemoteAddress

/-! # Sessions with a scripted server

  A server that answers as it is told to, for rehearsals of the remote store. It listens on one
  port, keeps a list of the answers that are still to be given, remembers keys for ever, and
  writes down the commands that it receives.
-/

namespace LoraBridge.Lock.Remote

/-- A scripted server. -/
structure Script where
  /-- Whether it listens. -/
  listening : Bool := true
  port : Nat := Address.defaultPort
  /-- The next answers to `PING`; when there are none left, it answers as it should. -/
  pings : List Reply := []
  /-- The next answers to `SET`; where there is nothing, it answers as it should. -/
  sets : List (Option Reply) := []
  /-- The keys that it has. -/
  keys : List String := []
  /-- The commands that it has received, in order. -/
  received : List Request := []
deriving Repr

namespace Script

/-- Answers `PING`. -/
def ping (s : Script) : Reply × Script :=
  let s := { s with received := s.received ++ [pingRequest] }
  match s.pings with
  | [] => (.value, s)
  | reply :: pings => (reply, { s with pings })

/-- Answers `SET` as it should: the key is remembered unless it is there already. -/
def setKey (s : Script) (key : String) : Reply × Script :=
  if s.keys.contains key then (.empty, s) else (.value, { s with keys := key :: s.keys })

/-- Answers a command that sets a key. -/
def set (s : Script) (key : String) (request : Request) : Reply × Script :=
  let s := { s with received := s.received ++ [request] }
  match s.sets with
  | [] => s.setKey key
  | none :: sets => { s with sets }.setKey key
  | some reply :: sets => (reply, { s with sets })

/-- Whether a connection to this address reaches the server. -/
def isAt (s : Script) : Address → Bool
  | .network _ port _ => s.listening && port = s.port
  | .socket _ => false

/-! ### What the store does with it -/

/-- Opens the store at this address: it has to be an address, there has to be a server, and that
    has to answer. -/
def connect (s : Script) (url : String) : Except StoreError Unit × Script :=
  match Address.parse? url with
  | none => (.error (.createPool "Redis: Redis URL did not parse- InvalidClientConfig"), s)
  | some address =>
    if s.isAt address then
      let (reply, s) := s.ping
      (pingResult reply, s)
    else (.error (.pool "Error occurred while creating a new object: Connection refused"), s)

/-- Asks whether the server answers. -/
def checkPing (s : Script) : Except StoreError Unit × Script :=
  let (reply, s) := s.ping
  (pingResult reply, s)

/-- Takes the lock of a key. -/
def setIfAbsent (s : Script) (key : String) (ttl : Duration) : Except StoreError Bool × Script :=
  Remote.setIfAbsent (s.set key) key ttl

end Script

end LoraBridge.Lock.Remote
