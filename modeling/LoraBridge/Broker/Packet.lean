import LoraBridge.Duration
import LoraBridge.Transport.Basic

/-! # Packets to a broker

  What a client sends to its broker. The first packet of every session is a `Login`. Packets that
  the broker has to acknowledge carry a number.

  A packet must not be larger than `sizeLimit`, save for a login. A client that is about to send
  a larger one loses its session instead, and so does one that is sent a larger message. What
  counts is the size before the packet is given a number.
-/

namespace LoraBridge.Broker

open Transport (Publication QoS)

/-! ### Logging in -/

/-- The packet that begins a session. -/
structure Login where
  clientId : String
  username? : Option String := none
  password? : Option String := none
  /-- After how much silence the client asks whether the broker is still there. -/
  keepAlive : Duration := Duration.ofSeconds 30
  /-- Whether the broker is to forget the sessions before this one. -/
  clean : Bool := true
  /-- Whether the broker is to publish a message when the session is lost. -/
  will : Bool := false
deriving DecidableEq, Repr

/-- What the names of clients begin with. -/
def clientMark : String := "nodelink-"

/-- The two digits of a byte in base 16. -/
def byteDigits (b : UInt8) : List Char :=
  [Nat.digitChar (b.toNat / 16), Nat.digitChar (b.toNat % 16)]

/-- The identifier of random bytes, of which there are 16. Some of their bits are replaced by those
    that say that the identifier is random. -/
def identifier (random : Bytes) : String :=
  let marked := (random.modify 6 fun b => b % 16 + 0x40).modify 8 fun b => b % 64 + 0x80
  let group (start size : Nat) : List Char := ((marked.drop start).take size).flatMap byteDigits
  "-".intercalate <|
    [group 0 4, group 4 2, group 6 2, group 8 2, group 10 6].map String.ofList

/-- The login of a client. Without a user name no credentials are sent, and an empty password is
    not sent. -/
def Login.of (unique username password : String) : Login :=
  { clientId := clientMark ++ unique,
    username? := if username.isEmpty then none else some username,
    password? := if username.isEmpty || password.isEmpty then none else some password }

/-! ### Packets -/

/-- What a client sends. -/
inductive Packet where
  | login (l : Login)
  /-- A message, whose number is zero if it is not to be acknowledged. -/
  | publish (number : Nat) (publication : Publication)
  /-- The message with this number will not be sent again. -/
  | release (number : Nat)
  | subscribe (number : Nat) (filter : String) (qos : QoS)
  | unsubscribe (number : Nat) (filter : String)
  | disconnect
deriving DecidableEq, Repr

namespace Packet

/-- The largest size of a packet in bytes. -/
def sizeLimit : Nat := 10 * 1024

/-- How many bytes a text takes, with its length in front. -/
def textSize (s : String) : Nat := 2 + s.utf8ByteSize

/-- How many bytes a message takes after the length of the packet. -/
def messageSize (number : Nat) (publication : Publication) : Nat :=
  textSize publication.topic + (if number = 0 then 0 else 2) + publication.payload.length

/-- How many bytes the length of a packet takes. -/
def lengthSize (n : Nat) : Nat :=
  if n < 128 then 1 else if n < 16384 then 2 else if n < 2097152 then 3 else 4

/-- How many bytes follow the length of a packet. -/
def bodySize : Packet → Nat
  | .login l =>
    10 + textSize l.clientId + (l.username?.map textSize).getD 0 +
      (l.password?.map textSize).getD 0
  | .publish number publication => messageSize number publication
  | .release _ => 2
  | .subscribe _ filter _ => 2 + textSize filter + 1
  | .unsubscribe _ filter => 2 + textSize filter
  | .disconnect => 0

/-- The size of a packet in bytes. -/
def size (p : Packet) : Nat := 1 + lengthSize p.bodySize + p.bodySize

/-- Whether a packet can be sent. -/
def fits (p : Packet) : Bool := p.size ≤ sizeLimit

/-- Whether a message can be received. -/
def canReceive (topic : String) (payload : Bytes) : Bool :=
  textSize topic + payload.length ≤ sizeLimit

end Packet

end LoraBridge.Broker
