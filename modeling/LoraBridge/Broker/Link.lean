import LoraBridge.Broker.Client

/-! # A client and its broker

  A `Link` is a client together with a broker that does what brokers are for. The broker takes the
  packets of the client in order: a subscription that it grants is in force at once, and one that
  is ended is no longer. It owes an answer to each of these packets and gives it when it likes,
  in any order, or never. When the session is lost, it forgets its subscriptions and its debts.
-/

namespace LoraBridge.Broker

open Transport (ConnectFault Publication)

/-- An answer that the broker owes. -/
structure Debt where
  /-- The call whose packet it answers. -/
  call : Nat
  /-- The number of that packet. -/
  number : Nat
  answer : Answer
  /-- Whether a subscription is refused. -/
  refused : Bool := false
deriving DecidableEq, Repr

/-- What an answer is for the client. -/
def Debt.outcome (d : Debt) : Outcome :=
  match d.answer with
  | .suback => .suback d.number d.refused
  | .unsuback => .unsuback d.number

/-- How an answer is written. -/
def Debt.bytes (d : Debt) : Bytes :=
  match d.answer with
  | .suback => Arrival.subackBytes d.number d.refused
  | .unsuback => Arrival.unsubackBytes d.number

/-- A client and its broker. -/
structure Link where
  client : Client := {}
  /-- The filters that the session is subscribed to. -/
  subscriptions : List String := []
  /-- The answers that are owed, in the order of their packets. -/
  owed : List Debt := []
  /-- The answers that were given, the last one first. -/
  given : List Debt := []
deriving Repr

namespace Link

variable (l : Link)

/-! ### The broker -/

/-- The call that the next request was made for. -/
def sender : Nat :=
  match l.client.outbox.head? with
  | some (.subscribe call _ _) => call
  | some (.unsubscribe call _) => call
  | _ => 0

/-- The link after the broker has taken a packet of a call. -/
def take (call : Nat) (refuse : Bool) : Packet → Link
  | .subscribe number filter _ =>
    { l with
      subscriptions :=
        if refuse then l.subscriptions
        else l.subscriptions.filter (· ≠ filter) ++ [filter],
      owed := l.owed ++ [{ call, number, answer := .suback, refused := refuse }] }
  | .unsubscribe number filter =>
    { l with
      subscriptions := l.subscriptions.filter (· ≠ filter),
      owed := l.owed ++ [{ call, number, answer := .unsuback }] }
  | _ => l

/-- The link after the broker has forgotten the session. -/
def forget : Link := { l with subscriptions := [], owed := [] }

/-- The link with another client, whose session may have ended. -/
def withClient (client : Client) : Link :=
  if client.up then { l with client } else { l.forget with client }

/-- The link after the client has dealt with its next request. -/
def transmit? (refuse : Bool) : Option Link := do
  let (dispatch, client) ← l.client.prepare?
  let sent := l.withClient (client.send dispatch)
  match dispatch with
  | .send packet => some (if sent.client.up then sent.take l.sender refuse packet else sent)
  | _ => some sent

/-- The link after the broker has given one of the answers that it owes. -/
def answer? (k : Nat) : Option Link := do
  let debt ← l.owed[k]?
  some { l with client := l.client.react debt.outcome, owed := l.owed.eraseIdx k,
                given := debt :: l.given }

/-! ### All of it -/

/-- Whether an action of a client involves neither the connection nor the broker. -/
def isOwn : Client.Action → Bool
  | .transmit | .ping | .pong | .acknowledge _ | .outcome _ => false
  | _ => true

/-- What happens next to a client and its broker. -/
inductive Action where
  /-- The client takes a step of its own. -/
  | own (action : Client.Action)
  /-- The client deals with its next request, and the broker may refuse what it asks for. -/
  | transmit (refuse : Bool)
  /-- The client asks for a sign of the broker. -/
  | ping
  /-- The broker gives a sign. -/
  | pong
  /-- The broker gives the answer with this place among those that it owes. -/
  | answer (k : Nat)
  /-- The broker acknowledges a message. -/
  | acknowledge (number : Nat)
  /-- The broker sends a message. -/
  | deliver (topic : String) (payload : Bytes)
  /-- The broker accepts a session. -/
  | connect
  /-- The session is lost or does not come about. -/
  | fail (fault : ConnectFault)
deriving Repr

/-- The link after an action, if the action is possible. -/
def step? : Action → Option Link
  | .own action =>
    if isOwn action then (l.client.step? action).map fun client => { l with client } else none
  | .transmit refuse => l.transmit? refuse
  | .answer k => l.answer? k
  | .ping => if l.client.up then some (l.withClient l.client.ping) else none
  | .pong => if l.client.up then some (l.withClient l.client.pong) else none
  | .acknowledge number =>
    if l.client.up then some (l.withClient (l.client.acknowledge number)) else none
  | .deliver topic payload =>
    if l.client.up then some { l with client := l.client.react (.message topic payload) } else none
  | .connect =>
    if l.client.up then none
    else some { l.forget with client := l.client.connect }
  | .fail fault => some { l.forget with client := l.client.react (.failed fault) }

end Link

end LoraBridge.Broker
