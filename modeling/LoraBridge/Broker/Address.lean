import LoraBridge.Decimal.Unsigned

/-! # Broker addresses

  A broker is given as `tcp://host:port` or `mqtt://host:port`. The scheme and the port may be
  left out, and slashes at the end do not count.
-/

namespace LoraBridge.Broker

/-- Where a broker listens. -/
structure Address where
  host : String
  port : UInt16
deriving DecidableEq, Repr

namespace Address

/-- The port of a broker whose address does not name one. -/
def defaultPort : UInt16 := 1883

/-- Splits a text at the first `://`. -/
def splitScheme? : List Char → Option (List Char × List Char)
  | [] => none
  | ':' :: '/' :: '/' :: rest => some ([], rest)
  | c :: rest => (splitScheme? rest).map fun (scheme, rest) => (c :: scheme, rest)

/-- Splits a text at its last colon. -/
def splitPort? : List Char → Option (List Char × List Char)
  | [] => none
  | c :: rest =>
    match splitPort? rest with
    | some (host, port) => some (c :: host, port)
    | none => if c = ':' then some ([], rest) else none

/-- The text without the slashes at its end. -/
def trimSlashes (s : List Char) : List Char := (s.reverse.dropWhile (· = '/')).reverse

/-- What follows the scheme, which has to be one that is spoken here if it is given. -/
def afterScheme? (s : List Char) : Option (List Char) :=
  match splitScheme? s with
  | none => some s
  | some (scheme, rest) =>
    if scheme = "tcp".toList ∨ scheme = "mqtt".toList then some rest else none

/-- The port that a text writes. -/
def readPort? (s : List Char) : Option UInt16 :=
  (Decimal.readUnsigned? 65535 s).map UInt16.ofNat

/-- The host and port, each as it is written. -/
def splitHost? (s : List Char) : Option (List Char × UInt16) :=
  match splitPort? s with
  | some (host, port) => (readPort? port).map fun port => (host, port)
  | none => some (s, defaultPort)

/-- The address that a text writes. -/
def parse? (server : String) : Option Address := do
  let rest ← afterScheme? server.toList
  let (host, port) ← splitHost? (trimSlashes rest)
  if host = [] ∨ '/' ∈ host then none else some ⟨String.ofList host, port⟩

end Address

end LoraBridge.Broker
