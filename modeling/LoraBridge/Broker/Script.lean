import LoraBridge.Broker.Address
import LoraBridge.Broker.Link

/-! # A scripted broker

  A broker that treats its clients as it is told to, for rehearsals. A `Script` lists what is still
  to be done to logins, subscriptions and unsubscriptions; once a list is used up, all of them are
  accepted. It also writes down the packets that the broker has received.

  A `Stage` is a scripted broker and a clock. `Stage.next?` says what happens next to a client
  there: calls take their steps, the client connects when its time has come, the broker reacts to
  the last packet, the client sends the next one, and asks now and then for a sign of the broker.
-/

namespace LoraBridge.Broker

open Transport (ReturnCode)

/-! ### Scripts -/

/-- How a subscription or unsubscription is treated. -/
inductive Treatment where
  /-- It is granted. -/
  | grant
  /-- It is refused. -/
  | refuse
  /-- There is no answer. -/
  | ignore
  /-- The broker closes the connection. -/
  | drop
deriving DecidableEq, Repr

/-- A scripted broker. -/
structure Script where
  /-- Whether it listens. -/
  listening : Bool := true
  port : UInt16 := Address.defaultPort
  /-- The codes that the next logins are answered with; zero accepts one. -/
  codes : List Nat := []
  /-- How the next subscriptions are treated. -/
  subscriptions : List Treatment := []
  /-- How the next unsubscriptions are treated. -/
  unsubscriptions : List Treatment := []
  /-- The packets that were received, in order. -/
  received : List Packet := []
deriving Repr

/-- Whether a connection to this address reaches the broker. -/
def Script.isAt (s : Script) (address : Address) : Bool := s.listening && address.port = s.port

/-- The return code that a broker refuses a session with. -/
def returnCode? : Nat → Option ReturnCode
  | 1 => some .refusedProtocolVersion
  | 2 => some .badClientId
  | 3 => some .serviceUnavailable
  | 4 => some .badUserNamePassword
  | 5 => some .notAuthorized
  | _ => none

/-- What a broker does about the packet that it received last. -/
inductive Reaction where
  /-- It gives the answer that it owes. -/
  | answer
  /-- It acknowledges the message with this number. -/
  | acknowledge (number : Nat)
  /-- It gives a sign. -/
  | pong
  /-- It closes the connection. -/
  | drop
deriving Repr

/-- What a broker does about a subscription or unsubscription. -/
def Treatment.reaction? : Treatment → Option Reaction
  | .grant | .refuse => some .answer
  | .ignore => none
  | .drop => some .drop

/-! ### Stages -/

/-- A scripted broker, the client's way to it, and a clock in milliseconds. -/
structure Stage where
  script : Script
  login : Login
  /-- Whether the client's address is that of the broker. -/
  reachable : Bool := true
  now : Nat := 0
  /-- When the client connects again, if it has no session. -/
  retryAt : Nat := 0
  /-- When calls give up. -/
  limits : List (Nat × Nat) := []
  /-- When the client asks for a sign of the broker. -/
  pingAt : Nat := 0
  /-- What the broker does next. -/
  reaction? : Option Reaction := none
  /-- The beginning of a packet whose end has not arrived at the client. -/
  incomplete : Bytes := []

namespace Stage

variable (s : Stage)

/-- The stage after the session was lost or has not come about. -/
def afterFailure : Stage :=
  { s with retryAt := s.now + reconnectPause.millis, reaction? := none, incomplete := [] }

/-- The stage with the next time at which the client asks for a sign of the broker. -/
def delayPing : Stage := { s with pingAt := s.now + s.login.keepAlive.millis }

/-- What happens when the client asks for a sign of the broker. -/
def ping : Link.Action × Stage := (.ping, { s.delayPing with reaction? := some .pong })

/-- The stage after the broker has received a packet. -/
def receive (packet : Packet) : Stage :=
  { s with script := { s.script with received := s.script.received ++ [packet] } }

/-- What the client finds when it connects. -/
def connect : Link.Action × Stage :=
  if !s.reachable then (.fail .unreachable, s.afterFailure)
  else
    let s := s.receive (.login s.login)
    match s.script.codes with
    | [] => (.connect, s.delayPing)
    | code :: codes =>
      let s := { s with script := { s.script with codes } }
      if code = 0 then (.connect, s.delayPing)
      else match returnCode? code with
        | some code => (.fail (.refused code), s.afterFailure)
        | none => (.fail .unreachable, s.afterFailure)

/-- How the next subscription is treated. -/
def treatSubscription : Treatment × Stage :=
  match s.script.subscriptions with
  | [] => (.grant, s)
  | t :: subscriptions => (t, { s with script := { s.script with subscriptions } })

/-- How the next unsubscription is treated. -/
def treatUnsubscription : Treatment × Stage :=
  match s.script.unsubscriptions with
  | [] => (.grant, s)
  | t :: unsubscriptions => (t, { s with script := { s.script with unsubscriptions } })

/-- What happens when the client sends a packet. -/
def transmit (packet : Packet) : Link.Action × Stage :=
  let s := s.receive packet
  match packet with
  | .subscribe .. =>
    let (t, s) := s.treatSubscription
    (.transmit (t = .refuse), { s with reaction? := t.reaction? })
  | .unsubscribe .. =>
    let (t, s) := s.treatUnsubscription
    (.transmit false, { s with reaction? := t.reaction? })
  | .publish number publication =>
    let reaction? := if publication.qos = .atLeastOnce then some (.acknowledge number) else none
    (.transmit false, { s with reaction? })
  | _ => (.transmit false, s)

/-- What happens when the client deals with a request. -/
def dispatch : Dispatch → Link.Action × Stage
  | .send packet => s.transmit packet
  | .hold => (.transmit false, s)
  | .refuse => (.transmit false, s.afterFailure)

/-- What happens when the broker reacts. -/
def react (l : Link) : Reaction → Link.Action × Stage
  | .answer => (.answer (l.owed.length - 1), { s with reaction? := none })
  | .acknowledge number => (.acknowledge number, { s with reaction? := none })
  | .pong => (.pong, { s with reaction? := none })
  | .drop => (.fail .unreachable, s.afterFailure)

/-- When a call gives up. -/
def limitOf (i : Nat) : Nat := ((s.limits.find? (·.1 = i)).map (·.2)).getD 0

/-- The next step of a call, if it can take one. -/
def nextOfCall? (c : Client) (i : Nat) (call : Call) : Option (Client.Action × Stage) :=
  match call.phase with
  | .waiting => if c.isTurn i call.kind then some (.enter i, s) else none
  | .requesting =>
    if c.isFull then none
    else some (.request i, { s with limits := (i, s.now + answerLimit.millis) :: s.limits })
  | .pending =>
    if call.answer?.isSome then some (.finish i, s)
    else if s.limitOf i ≤ s.now then some (.expire i, s)
    else none
  | .failed | .expired => some (.clear i, s)
  | .returned _ => none

/-- The next step of the connection, if there is one. -/
def nextOfConnection? (l : Link) : Option (Link.Action × Stage) :=
  if l.client.loop.phase = .stopped then none
  else if !l.client.up then if s.retryAt ≤ s.now then some s.connect else none
  else match s.reaction? with
    | some reaction => some (s.react l reaction)
    | none =>
      (l.client.prepare?.map fun (dispatch, _) => s.dispatch dispatch).or <|
        if s.pingAt ≤ s.now then some s.ping else none

/-- What happens next, if anything can happen at this time. -/
def next? (l : Link) : Option (Link.Action × Stage) :=
  (l.client.calls.zipIdx.findSome? fun (call, i) =>
    (s.nextOfCall? l.client i call).map fun (action, s) => (.own action, s)).or
  (s.nextOfConnection? l)

/-- When something will happen by itself. -/
def timers (l : Link) : List Nat :=
  let connection :=
    if l.client.loop.phase = .stopped then []
    else if !l.client.up then [s.retryAt]
    else if l.client.outbox.held?.isSome || l.client.outbox.waits then [s.pingAt]
    else []
  connection ++ l.client.calls.zipIdx.filterMap fun (call, i) =>
    match call.phase with
    | .pending => if call.answer?.isNone then some (s.limitOf i) else none
    | _ => none

/-- No fewer than the times that something of interest can still happen by itself. -/
def patience : Nat :=
  s.script.codes.length + s.script.subscriptions.length + s.script.unsubscriptions.length + 32

end Stage

end LoraBridge.Broker
