import LoraBridge.Broker.Packet

/-! # What a client has to send

  An outbox holds the requests of a client that have not been sent, and the messages that are on
  their way.

  - A message that is to arrive at least once is on its way until the broker acknowledges it. One
    that is to arrive exactly once is on its way until the broker has received it, the client has
    released it, and the broker has completed it.
  - Packets have numbers from 1 to `maxNumber`, over and over. If the number of a message is still
    that of another one on its way, the message is held back until its number is free.
  - While a message is held back, and while `maxNumber` messages are on their way, no new request
    is sent.
  - When the session is lost, all of it is put in order for the next session: what is on its way
    comes before the requests, beginning with the messages after the last number that was
    acknowledged. In the next session all of that is sent before anything else, whatever is on
    its way.
-/

namespace LoraBridge.Broker

open Transport (Publication QoS)

/-! ### Requests -/

/-- What a client is to send. -/
inductive Request where
  /-- A message, with its number if it has been sent before. -/
  | publish (number? : Option Nat) (publication : Publication)
  /-- The release of the message with this number. -/
  | release (number : Nat)
  | subscribe (call : Nat) (filter : String) (qos : QoS)
  | unsubscribe (call : Nat) (filter : String)
  | disconnect
deriving Repr

/-- The packet of a request, without a number unless it has one already. -/
def Request.draft : Request → Packet
  | .publish number? publication => .publish (number?.getD 0) publication
  | .release number => .release number
  | .subscribe _ filter qos => .subscribe 0 filter qos
  | .unsubscribe _ filter => .unsubscribe 0 filter
  | .disconnect => .disconnect

/-- What becomes of a request. -/
inductive Dispatch where
  /-- This packet is sent. -/
  | send (packet : Packet)
  /-- It is held back. -/
  | hold
  /-- It is too large, so it is dropped. -/
  | refuse
deriving DecidableEq, Repr

/-! ### The outbox -/

/-- What a client has to send, and what is on its way. -/
structure Outbox where
  /-- What is left of the sessions before this one. -/
  pending : List Request := []
  /-- The requests that have not been sent, in order. -/
  requests : List Request := []
  /-- The messages on their way that the broker has not received, with their numbers. -/
  unacknowledged : List (Nat × Publication) := []
  /-- The numbers of the messages that the broker has received and not completed. -/
  released : List Nat := []
  /-- The message that is held back, and its number. -/
  held? : Option (Nat × Publication) := none
  /-- The messages that were held back and are to be sent at once. -/
  due : List (Nat × Publication) := []
  /-- The last number that was given to a packet. -/
  lastNumber : Nat := 0
  /-- The last number that was acknowledged. -/
  lastAcknowledged : Nat := 0
  /-- Whether the client waits for a sign of the broker. -/
  waits : Bool := false
  /-- How often the client has asked for one while a message is held back. -/
  pings : Nat := 0
  /-- The numbers of the messages that have arrived and that the broker has not released. -/
  arrived : List Nat := []
deriving Repr

namespace Outbox

/-- The highest number of a packet, and how many messages may be on their way. -/
def maxNumber : Nat := 100

/-- How many new requests an outbox holds. Whoever makes one more has to wait. -/
def capacity : Nat := 64

variable (o : Outbox)

/-- Whether one more request can be made. -/
def hasRoom : Bool := o.requests.length < capacity

/-- The outbox with one more request. -/
def push (request : Request) : Outbox := { o with requests := o.requests ++ [request] }

/-- How many messages are on their way. -/
def inFlight : Nat := o.unacknowledged.length + o.released.length

/-- Whether new requests are sent. -/
def isFlowing : Bool := o.inFlight < maxNumber && o.held?.isNone

/-- Whether a number is that of a message which the broker has not received. -/
def isTaken (number : Nat) : Bool := (o.unacknowledged.lookup number).isSome

/-- The number of the next packet. -/
def nextNumber : Nat := o.lastNumber % maxNumber + 1

/-- The request that is next, and the outbox without it. -/
def next? : Option (Request × Outbox) :=
  match o.pending, o.requests with
  | request :: pending, _ => some (request, { o with pending })
  | [], request :: requests => if o.isFlowing then some (request, { o with requests }) else none
  | [], [] => none

/-- The request that is next, unless a message that was held back comes before it. -/
def head? : Option Request := if o.due.isEmpty then o.next?.map (·.1) else none

/-! ### Sending -/

/-- What becomes of a message, and the outbox that has it on its way. -/
def dispatchMessage (number? : Option Nat) (p : Publication) : Dispatch × Outbox :=
  if p.qos = .atMostOnce then (.send (.publish 0 p), o)
  else
    let number := number?.getD o.nextNumber
    let o := if number?.isSome then o else { o with lastNumber := number }
    if o.isTaken number then (.hold, { o with held? := some (number, p) })
    else
      (.send (.publish number p),
        { o with unacknowledged := o.unacknowledged ++ [(number, p)] })

/-- What becomes of a request. -/
def dispatch (request : Request) : Dispatch × Outbox :=
  if !request.draft.fits then (.refuse, o)
  else match request with
    | .publish number? p => o.dispatchMessage number? p
    | .release number =>
      (.send (.release number), { o with released := o.released.erase number ++ [number] })
    | .subscribe _ filter qos =>
      (.send (.subscribe o.nextNumber filter qos), { o with lastNumber := o.nextNumber })
    | .unsubscribe _ filter =>
      (.send (.unsubscribe o.nextNumber filter), { o with lastNumber := o.nextNumber })
    | .disconnect => (.send .disconnect, o)

/-- What becomes of that which is next. -/
def take? : Option (Dispatch × Outbox) :=
  match o.due with
  | (number, p) :: due => some (.send (.publish number p), { o with due })
  | [] => o.next?.map fun (request, o) => o.dispatch request

/-! ### Answers -/

/-- The outbox after a message is no longer on its way to the broker. -/
def drop (number : Nat) : Outbox :=
  { o with unacknowledged := o.unacknowledged.filter (·.1 ≠ number) }

/-- The message that was held back for a number which is free now. -/
def freed? (number : Nat) : Option (Nat × Publication) := o.held?.filter (·.1 = number)

/-- The outbox after the broker has acknowledged a message; says whether it could. A message that
    was held back for the number is on its way then. -/
def acknowledge (number : Nat) : Bool × Outbox :=
  if maxNumber < number then (false, o)
  else if !o.isTaken number then (false, { o with lastAcknowledged := number })
  else
    let o := { o.drop number with lastAcknowledged := number }
    match o.freed? number with
    | none => (true, o)
    | some message =>
      (true, { o with held? := none, pings := 0, due := o.due ++ [message],
                      unacknowledged := o.unacknowledged ++ [message] })

/-- The outbox after the broker has received a message; says whether it could. -/
def receive (number : Nat) : Bool × Outbox :=
  if o.isTaken number then
    (true, { o.drop number with released := o.released.erase number ++ [number] })
  else (false, o)

/-- The outbox after the broker has completed a message; says whether it could. A message that
    was held back for the number is sent then, but not again if the session is lost. -/
def complete (number : Nat) : Bool × Outbox :=
  if !o.released.contains number then (false, o)
  else
    let o := { o with released := o.released.erase number }
    match o.freed? number with
    | none => (true, o)
    | some message => (true, { o with held? := none, pings := 0, due := o.due ++ [message] })

/-- The outbox after a message with this number has arrived that is to arrive exactly once. -/
def note (number : Nat) : Outbox := { o with arrived := number :: o.arrived.erase number }

/-- The outbox after the broker has released such a message; says whether it could. -/
def forget (number : Nat) : Bool × Outbox :=
  (o.arrived.contains number, { o with arrived := o.arrived.erase number })

/-! ### The session -/

/-- How many signs of the broker a client asks for while a message is held back. At the last of
    them it gives up the session. -/
def maxPings : Nat := 2

/-- The outbox after the client has asked for a sign of the broker; says whether it goes on. It
    does not if there was no sign since it asked last. -/
def ping : Bool × Outbox :=
  let pings := if o.held?.isSome then o.pings + 1 else o.pings
  (!o.waits && (o.held?.isNone || pings < maxPings), { o with pings, waits := true })

/-- The numbers of packets in the order in which messages are sent again. -/
def order : List Nat :=
  let numbers := List.range (maxNumber + 1)
  numbers.drop (o.lastAcknowledged + 1) ++ numbers.take (o.lastAcknowledged + 1)

/-- What is to be sent again. -/
def again : List Request :=
  (o.order.filterMap fun number =>
    (o.unacknowledged.lookup number).map fun p => .publish (some number) p) ++
  ((List.range (maxNumber + 1)).filter fun number => o.released.contains number).map .release

/-- The outbox after the session was lost. -/
def lose : Outbox :=
  { o with pending := o.pending ++ o.again ++ o.requests, requests := [], unacknowledged := [],
           released := [], due := [], pings := 0, waits := false, arrived := [] }

/-- The number of things that can be sent without new requests. -/
def size : Nat :=
  o.pending.length + o.requests.length + o.unacknowledged.length + o.released.length +
    o.due.length + 1

end Outbox

end LoraBridge.Broker
