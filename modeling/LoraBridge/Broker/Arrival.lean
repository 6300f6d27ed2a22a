import LoraBridge.Broker.Packet

/-! # What a broker sends

  The packets of a broker, and how they are written: a byte for the kind, whose lower half matters
  for messages only, the length of the rest, and the rest. A length is written in groups of seven
  bits, the lowest first; all bytes of it but the last one are 128 or more.

  `Arrival.ofBytes` reads the packets that some bytes write, up to the first fault. A packet that
  is cut short is still to come.
-/

namespace LoraBridge.Broker

open Transport (QoS)

/-- What arrives from a broker while there is a session. -/
inductive Arrival where
  /-- A message, whose number is zero if it is not to be acknowledged. -/
  | message (qos : QoS) (number : Nat) (topic : String) (payload : Bytes)
  /-- The message with this number is acknowledged. -/
  | acknowledged (number : Nat)
  /-- The message with this number, which is to arrive exactly once, has been received. -/
  | received (number : Nat)
  /-- The broker will not send the message with this number again. -/
  | released (number : Nat)
  /-- The broker has finished with the message with this number. -/
  | completed (number : Nat)
  | suback (number : Nat) (refused : Bool)
  | unsuback (number : Nat)
  /-- The broker is still there. -/
  | pong
  /-- A packet that a broker must not send, or no packet at all. -/
  | fault
deriving DecidableEq, Repr

namespace Arrival

/-! ### Reading -/

/-- The number that two bytes write, and the bytes after them. -/
def readNumber? : Bytes → Option (Nat × Bytes)
  | high :: low :: rest => some (high.toNat * 256 + low.toNat, rest)
  | _ => none

/-- The code of a filter that is refused. -/
def refusal : UInt8 := 0x80

/-- The message that the bytes after the length write. -/
def ofMessage? (kind : UInt8) (body : Bytes) : Option Arrival := do
  let (length, body) ← readNumber? body
  if body.length < length then none
  else
    let topic ← Text.ofBytes? (body.take length)
    let body := body.drop length
    match kind.toNat / 2 % 4 with
    | 0 => some (.message .atMostOnce 0 topic body)
    | 3 => none
    | level =>
      let (number, payload) ← readNumber? body
      if number = 0 then none
      else if level = 1 then some (.message .atLeastOnce number topic payload)
      else some (.message .exactlyOnce number topic payload)

/-- The packet of a kind that the bytes after the length write. -/
def ofBody? (kind : UInt8) (body : Bytes) : Option Arrival := do
  if kind.toNat / 16 = 13 then some .pong
  else if kind.toNat / 16 = 3 then ofMessage? kind body
  else
    let (number, codes) ← readNumber? body
    match kind.toNat / 16 with
    | 4 => some (.acknowledged number)
    | 5 => some (.received number)
    | 6 => some (.released number)
    | 7 => some (.completed number)
    | 9 =>
      if codes ≠ [] ∧ codes.all (fun c => c ≤ 2 || c = refusal) then
        some (.suback number (codes.contains refusal))
      else none
    | 11 => if codes = [] then some (.unsuback number) else none
    | _ => none

/-- What the beginning of some bytes is. -/
inductive Frame where
  /-- The beginning of a packet. -/
  | incomplete
  | fault
  /-- A packet and the bytes after it. -/
  | packet (arrival : Arrival) (rest : Bytes)

/-- How many bytes a length may take. -/
def lengthRounds : Nat := 4

/-- Reads a length of at most so many bytes. A length that is not complete is missing; one that
    takes too many bytes is none. -/
def readLength? : Nat → Bytes → Option (Option (Nat × Bytes))
  | 0, _ => some none
  | _ + 1, [] => none
  | rounds + 1, b :: rest =>
    if b < 128 then some (some (b.toNat, rest))
    else match readLength? rounds rest with
      | some (some (n, rest)) => some (some (b.toNat % 128 + 128 * n, rest))
      | other => other

/-- The first packet of some bytes. Its size is looked at before the rest of it has arrived. -/
def firstOf : Bytes → Frame
  | [] => .incomplete
  | kind :: rest =>
    match readLength? lengthRounds rest with
    | none => .incomplete
    | some none => .fault
    | some (some (length, rest)) =>
      if Packet.sizeLimit < length then .fault
      else if rest.length < length then .incomplete
      else match ofBody? kind (rest.take length) with
        | some arrival => .packet arrival (rest.drop length)
        | none => .fault

/-- Reads at most so many packets. -/
def readWithin : Nat → Bytes → List Arrival × Bytes
  | 0, b => ([], b)
  | rounds + 1, b =>
    match firstOf b with
    | .incomplete => ([], b)
    | .fault => ([.fault], [])
    | .packet arrival rest =>
      let (arrivals, rest) := readWithin rounds rest
      (arrival :: arrivals, rest)

/-- The packets that some bytes write, and the beginning of the next one. Every packet takes a
    byte, so there are no more packets than bytes. -/
def ofBytes (b : Bytes) : List Arrival × Bytes := readWithin b.length b

/-! ### Writing -/

/-- The two bytes of a number. -/
def numberBytes (n : Nat) : Bytes := [(n / 256).toUInt8, (n % 256).toUInt8]

/-- The bytes of a length, in at most so many groups. -/
def lengthBytes : Nat → Nat → Bytes
  | 0, _ => []
  | rounds + 1, n =>
    if n < 128 then [n.toUInt8] else (n % 128 + 128).toUInt8 :: lengthBytes rounds (n / 128)

/-- A packet of a kind. -/
def frame (kind : UInt8) (body : Bytes) : Bytes :=
  kind :: (lengthBytes lengthRounds body.length ++ body)

/-- The bytes of a message that is not to be acknowledged. -/
def messageBytes (topic : String) (payload : Bytes) : Bytes :=
  let name := Text.bytes topic
  frame 0x30 (numberBytes name.length ++ name ++ payload)

/-- The bytes of the answer to a subscription. -/
def subackBytes (number : Nat) (refused : Bool) : Bytes :=
  frame 0x90 (numberBytes number ++ [if refused then refusal else 0])

/-- The bytes of the answer to an unsubscription. -/
def unsubackBytes (number : Nat) : Bytes := frame 0xB0 (numberBytes number)

/-- The bytes of a sign of the broker. -/
def pongBytes : Bytes := frame 0xD0 []

/-- The bytes of an acknowledgement. -/
def acknowledgedBytes (number : Nat) : Bytes := frame 0x40 (numberBytes number)

end Arrival

end LoraBridge.Broker
