import LoraBridge.Broker.Arrival
import LoraBridge.Broker.Loop
import LoraBridge.Broker.Outbox
import LoraBridge.Topic.Filter

/-! # Clients of a broker

  A client publishes, subscribes and unsubscribes by way of its loop. It is a transition system:
  any number of calls take their steps side by side, while the loop takes the outcomes of the
  connection.

  A call that subscribes or unsubscribes goes like this.

  - Calls of a kind take turns. The one whose turn it is leaves its number in the slot for
    answers of its kind, and then makes its request.
  - When an answer of a kind arrives, the loop takes the call out of the slot and hands the answer
    to it. It does not look at the number of the answer.
  - When the session is lost, the loop hands `Error.closed` to the calls in both slots.
  - A call that has waited too long gives up, empties the slot and fails with `Error.timeout`.

  Requests wait in the `Outbox` until there is a session. When something arrives that must not,
  the session is lost; what arrived with it before is looked at in the next session.
-/

namespace LoraBridge.Broker

open Transport (ConnectFault Error Event Publication QoS)

/-- How long a call waits for its answer. -/
def answerLimit : Duration := Duration.ofSeconds 10

/-! ### Calls -/

/-- The kinds of answers that calls wait for. -/
inductive Answer where
  | suback
  | unsuback
deriving DecidableEq, Repr

/-- The name of a kind of answer in reports. -/
def Answer.name : Answer → String
  | .suback => "SUBACK"
  | .unsuback => "UNSUBACK"

/-- What a call does. -/
inductive Call.Kind where
  | subscribe (qos : QoS)
  | unsubscribe
deriving DecidableEq, Repr

/-- The kind of answer that a call waits for. -/
def Call.Kind.answer : Call.Kind → Answer
  | .subscribe _ => .suback
  | .unsubscribe => .unsuback

/-- How far a call has come. -/
inductive Call.Phase where
  /-- Its turn is still to come. -/
  | waiting
  /-- It is its turn, its number is in the slot, and it is about to make its request. -/
  | requesting
  /-- It waits for the answer. -/
  | pending
  /-- It could not make its request and is about to empty the slot. -/
  | failed
  /-- It has waited too long and is about to empty the slot. -/
  | expired
  | returned (result : Except Error Unit)
deriving Repr

/-- A call that subscribes or unsubscribes. -/
structure Call where
  kind : Call.Kind
  filter : String
  phase : Call.Phase := .waiting
  /-- What the loop has handed to it. -/
  answer? : Option (Except Error Unit) := none
deriving Repr

namespace Call

/-- What a call has returned. -/
def result? (c : Call) : Option (Except Error Unit) :=
  match c.phase with
  | .returned result => some result
  | _ => none

/-- Whether a call has returned. -/
def hasReturned (c : Call) : Bool := c.result?.isSome

/-- Whether an answer that is handed to a call reaches it. -/
def listens (c : Call) : Bool :=
  match c.phase with
  | .requesting | .pending => c.answer?.isNone
  | _ => false

/-- A call after the loop has handed an answer to it. -/
def hand (result : Except Error Unit) (c : Call) : Call :=
  if c.listens then { c with answer? := some result } else c

/-- What a call makes of an answer: a refusal is one of its own filter. -/
def own (c : Call) : Except Error Unit → Except Error Unit
  | .error (.subscribeRefused _) => .error (.subscribeRefused c.filter)
  | result => result

end Call

/-- The request of a call, if its filter can be asked for. -/
def Call.request? (c : Call) (i : Nat) : Option Request :=
  match c.kind with
  | .subscribe qos => if Filter.isFilter c.filter then some (.subscribe i c.filter qos) else none
  | .unsubscribe => some (.unsubscribe i c.filter)

/-! ### The client -/

/-- The state of a client. -/
structure Client where
  loop : Loop := {}
  /-- All calls, in the order in which they were made. -/
  calls : List Call := []
  /-- The call that the next `suback` goes to. -/
  suback? : Option Nat := none
  /-- The call that the next `unsuback` goes to. -/
  unsuback? : Option Nat := none
  /-- Whether there is a session. -/
  up : Bool := false
  /-- What is to be sent. -/
  outbox : Outbox := {}
  /-- What has come of the connection and is looked at in the next session. -/
  delayed : List Outcome := []
deriving Repr

namespace Client

variable (c : Client)

/-- The slot for a kind of answer. -/
def slot? : Answer → Option Nat
  | .suback => c.suback?
  | .unsuback => c.unsuback?

/-- The client with another call, or none, in a slot. -/
def setSlot (answer : Answer) (call? : Option Nat) : Client :=
  match answer with
  | .suback => { c with suback? := call? }
  | .unsuback => { c with unsuback? := call? }

/-- The client with a call in another phase. -/
def setPhase (i : Nat) (phase : Call.Phase) : Client :=
  { c with calls := c.calls.modify i fun call => { call with phase } }

/-! ### What the loop does -/

/-- Takes the call out of a slot and hands an answer to it. -/
def resolve (answer : Answer) (result : Except Error Unit) : Client :=
  match c.slot? answer with
  | none => c
  | some i => { c with calls := c.calls.modify i (Call.hand result) }.setSlot answer none

/-- The client without a session. -/
def down : Client := { c with up := false, outbox := if c.up then c.outbox.lose else c.outbox }

/-- The client after an outcome of its connection. -/
def react (outcome : Outcome) : Client :=
  if c.loop.phase = .stopped then c
  else
    let c := match outcome with
      | .connected => { c with up := true }
      | .suback _ refused =>
        c.resolve .suback (if refused then .error (.subscribeRefused "") else .ok ())
      | .unsuback _ => c.resolve .unsuback (.ok ())
      | .failed _ =>
        let c := c.down
        if c.loop.reportsLoss then
          (c.resolve .suback (.error .closed)).resolve .unsuback (.error .closed)
        else c
      | _ => c
    let loop := c.loop.react outcome
    { c with loop, up := c.up && loop.phase ≠ .stopped }

/-- The client after its session was lost or has not come about. -/
def fail : Client := c.react (.failed .unreachable)

/-- The client after the broker has accepted a session. What was left to look at comes next. -/
def connect : Client := c.delayed.foldl react ({ c with delayed := [] }.react .connected)

/-! ### Sending -/

/-- What becomes of the next request, and the client without it. -/
def prepare? : Option (Dispatch × Client) :=
  if c.up then c.outbox.take?.map fun (dispatch, outbox) => (dispatch, { c with outbox })
  else none

/-- The client after a request was dealt with. -/
def send : Dispatch → Client
  | .send .disconnect => c.react .left
  | .send _ => c.react .other
  | .hold => c
  | .refuse => c.fail

/-- The client after it has asked for a sign of the broker. -/
def ping : Client :=
  let (goesOn, outbox) := c.outbox.ping
  let c := { c with outbox }
  if goesOn then c else c.fail

/-! ### Receiving -/

/-- The client with another outbox, and an outcome unless that was a fault. -/
def settled (result : Bool × Outbox) : Client × Option Outcome :=
  ({ c with outbox := result.2 }, if result.1 then some .other else none)

/-- The client after something has arrived, and what comes of that unless it is a fault. -/
def take : Arrival → Client × Option Outcome
  | .message qos number topic payload =>
    ({ c with outbox := if qos = .exactlyOnce then c.outbox.note number else c.outbox },
      some (.message topic payload))
  | .acknowledged number => c.settled (c.outbox.acknowledge number)
  | .received number => c.settled (c.outbox.receive number)
  | .released number => c.settled (c.outbox.forget number)
  | .completed number => c.settled (c.outbox.complete number)
  | .suback number refused => (c, some (.suback number refused))
  | .unsuback number => (c, some (.unsuback number))
  | .pong => ({ c with outbox := { c.outbox with waits := false } }, some .other)
  | .fault => (c, none)

/-- How many things a client takes before the loop looks at what comes of them. -/
def batch : Nat := 10

/-- The client after several things have arrived at once, of which `outcomes` have come so far.
    The loop looks at the outcomes when all of them are there, or as many as a batch has. -/
def takeAll (c : Client) (outcomes : List Outcome) : List Arrival → Client
  | [] => outcomes.foldl react c
  | arrival :: rest =>
    match c.take arrival with
    | (c, some outcome) =>
      let outcomes := outcomes ++ [outcome]
      if outcomes.length < batch then takeAll c outcomes rest
      else takeAll (outcomes.foldl react c) [] rest
    | (c, none) => { c with delayed := c.delayed ++ outcomes }.fail

/-- The client after the broker has given a sign. -/
def pong : Client := c.takeAll [] [.pong]

/-- The client after the broker has acknowledged a message. -/
def acknowledge (number : Nat) : Client := c.takeAll [] [.acknowledged number]

/-! ### What callers do -/

/-- Whether the loop takes requests. -/
def takesRequests : Bool := c.loop.phase ≠ .stopped

/-- Whether whoever makes a request has to wait until there is room for it. -/
def isFull : Bool := c.takesRequests && !c.outbox.hasRoom

/-- Publishes a message. -/
def publish (p : Publication) : Except Error Unit × Client :=
  if Topic.isTopic p.topic && c.takesRequests then
    (.ok (), { c with outbox := c.outbox.push (.publish none p) })
  else (.error .client, c)

/-- Asks the loop to take leave of the broker. -/
def requestDisconnect : Except Error Unit × Client :=
  if c.takesRequests then (.ok (), { c with outbox := c.outbox.push .disconnect })
  else (.error .client, c)

/-- Leaves the broker. -/
def disconnect : Except Error Unit × Client :=
  { c with loop := c.loop.leave }.requestDisconnect

/-- Whether it is the turn of the call with number `i`: all calls of its kind before it have
    returned. -/
def isTurn (i : Nat) (kind : Call.Kind) : Bool :=
  (c.calls.take i).all fun call => call.kind.answer ≠ kind.answer || call.hasReturned

/-- The client after a call got its turn. -/
def enter? (i : Nat) : Option Client := do
  let call ← c.calls[i]?
  let .waiting := call.phase | none
  if c.isTurn i call.kind then
    some ((c.setPhase i .requesting).setSlot call.kind.answer (some i))
  else none

/-- The client after a call has made its request or failed to. -/
def request? (i : Nat) : Option Client := do
  let call ← c.calls[i]?
  let .requesting := call.phase | none
  match call.request? i with
  | some request =>
    if c.takesRequests then
      some { c.setPhase i .pending with outbox := c.outbox.push request }
    else some (c.setPhase i .failed)
  | none => some (c.setPhase i .failed)

/-- The client after a call has given up. -/
def expire? (i : Nat) : Option Client := do
  let call ← c.calls[i]?
  let .pending := call.phase | none
  if call.answer?.isNone then some (c.setPhase i .expired) else none

/-- The client after a call has emptied its slot and returned its error. -/
def clear? (i : Nat) : Option Client := do
  let call ← c.calls[i]?
  let result ← match call.phase with
    | .failed => some (.error .client)
    | .expired => some (.error (.timeout call.kind.answer.name))
    | _ => none
  some ((c.setSlot call.kind.answer none).setPhase i (.returned result))

/-- The client after a call has returned its answer. -/
def finish? (i : Nat) : Option Client := do
  let call ← c.calls[i]?
  let .pending := call.phase | none
  let answer ← call.answer?
  some (c.setPhase i (.returned (call.own answer)))

/-! ### All of it -/

/-- What happens next to a client. -/
inductive Action where
  /-- Somebody subscribes or unsubscribes. -/
  | call (kind : Call.Kind) (filter : String)
  /-- A call gets its turn. -/
  | enter (i : Nat)
  /-- A call makes its request. -/
  | request (i : Nat)
  /-- A call gives up. -/
  | expire (i : Nat)
  /-- A call that cannot succeed empties its slot and returns. -/
  | clear (i : Nat)
  /-- A call returns its answer. -/
  | finish (i : Nat)
  | publish (publication : Publication)
  /-- The client notes that it is leaving. -/
  | leave
  /-- The client asks the loop to take leave of the broker. -/
  | requestDisconnect
  /-- The first event is taken. -/
  | takeEvent
  /-- Nobody takes events any more. -/
  | dropReceiver
  /-- The loop deals with the next request. -/
  | transmit
  /-- The loop asks for a sign of the broker. -/
  | ping
  /-- The broker has given a sign. -/
  | pong
  /-- The broker has acknowledged a message. -/
  | acknowledge (number : Nat)
  /-- The loop takes an outcome of its connection. -/
  | outcome (outcome : Outcome)
deriving Repr

/-- The client after an action, if the action is possible. -/
def step? : Action → Option Client
  | .call kind filter => some { c with calls := c.calls ++ [{ kind, filter }] }
  | .enter i => c.enter? i
  | .request i => c.request? i
  | .expire i => c.expire? i
  | .clear i => c.clear? i
  | .finish i => c.finish? i
  | .publish p => some (c.publish p).2
  | .leave => some { c with loop := c.loop.leave }
  | .requestDisconnect => some c.requestDisconnect.2
  | .takeEvent => c.loop.takeEvent?.map fun (_, loop) => { c with loop }
  | .dropReceiver => some { c with loop := c.loop.dropReceiver }
  | .transmit => c.prepare?.map fun (dispatch, c) => c.send dispatch
  | .ping => if c.up then some c.ping else none
  | .pong => some c.pong
  | .acknowledge number => some (c.acknowledge number)
  | .outcome outcome => some (c.react outcome)

end Client

end LoraBridge.Broker
