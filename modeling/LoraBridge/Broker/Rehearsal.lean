import LoraBridge.Broker.Script

/-! # Rehearsals with a scripted broker

  Whoever has a link to a broker is a `Player`: a client by itself, a handler, a whole server. In
  a `Rehearsal` a player meets a scripted broker. Everything that can happen at a time happens,
  the player's own steps first; the clock moves only when it is told to, or while somebody waits.
-/

namespace LoraBridge.Broker

open Transport (Error Event Publication)

/-! ### Players -/

/-- Something with a link to a broker. -/
class Player (σ : Type) where
  link : σ → Link
  /-- The player after an action of its link. An action that is not possible does nothing. -/
  act : σ → Link.Action → σ
  /-- The player after the broker has sent what it likes. -/
  disturb : σ → List Arrival → σ
  /-- The player's next step at a time, if it can take one. -/
  next? : σ → Nat → Option σ
  /-- When the player's own timers go off. -/
  timers : σ → List Nat
  /-- No fewer than the player's own steps until it has to wait. -/
  work : σ → Nat

/-- A client by itself takes no steps of its own. -/
instance : Player Link where
  link l := l
  act l action := (l.step? action).getD l
  disturb l arrivals := l.withClient (l.client.takeAll [] arrivals)
  next? _ _ := none
  timers _ := []
  work _ := 0

/-- No fewer than the steps that are left at a link until nothing can happen. -/
def Link.work (l : Link) : Nat :=
  8 * (l.client.calls.filter fun call => !call.hasReturned).length +
    4 * l.client.outbox.size + 8

/-- How something is written that a broker does, if it is a packet. -/
def Link.bytesOf? (l : Link) : Link.Action → Option Bytes
  | .answer k => l.owed[k]?.map Debt.bytes
  | .acknowledge number => some (Arrival.acknowledgedBytes number)
  | .pong => some Arrival.pongBytes
  | .deliver topic payload => some (Arrival.messageBytes topic payload)
  | _ => none

/-! ### Rehearsals -/

/-- A player and its stage. -/
structure Rehearsal (σ : Type) where
  player : σ
  stage : Stage

namespace Rehearsal

variable {σ : Type} [Player σ] (r : Rehearsal σ)

/-- The link of the player. -/
def link : Link := Player.link r.player

/-- The rehearsal with another player, whose session may have been lost. -/
def withPlayer (player : σ) : Rehearsal σ :=
  let stage :=
    if r.link.client.up && !(Player.link player).client.up then r.stage.afterFailure else r.stage
  { player, stage }

/-- The rehearsal after the broker has sent some bytes. -/
def feed (bytes : Bytes) : Rehearsal σ :=
  let (arrivals, incomplete) := Arrival.ofBytes (r.stage.incomplete ++ bytes)
  withPlayer { r with stage := { r.stage with incomplete } } (Player.disturb r.player arrivals)

/-- The rehearsal after an action of the link, at another stage. While the client waits for the
    end of a packet, it takes the bytes of another one for that. -/
def act (action : Link.Action) (stage : Stage) : Rehearsal σ :=
  let r := { r with stage }
  match if stage.incomplete.isEmpty then none else r.link.bytesOf? action with
  | some bytes => r.feed bytes
  | none => r.withPlayer (Player.act r.player action)

/-- The rehearsal after the next step, if there is one. -/
def step? : Option (Rehearsal σ) :=
  match Player.next? r.player r.stage.now with
  | some player => some { r with player }
  | none => (r.stage.next? r.link).map fun (action, stage) => r.act action stage

/-- Takes steps until none is left, but at most so many. -/
def settleWithin : Nat → Rehearsal σ → Rehearsal σ
  | 0, r => r
  | n + 1, r =>
    match r.step? with
    | none => r
    | some r => settleWithin n r

/-- Does everything that can be done at this time. -/
def settle : Rehearsal σ := settleWithin (16 * (Player.work r.player + r.link.work)) r

/-- The first timer that goes off. -/
def nextTimer? : Option Nat := (Player.timers r.player ++ r.stage.timers r.link).min?

/-- Moves the clock. -/
def skip (ms : Nat) : Rehearsal σ :=
  settle { r with stage := { r.stage with now := r.stage.now + ms } }

/-- Lets timers go off until something has happened, but at most so many. -/
def awaitWithin (happened : Rehearsal σ → Bool) : Nat → Rehearsal σ → Rehearsal σ
  | 0, r => r
  | n + 1, r =>
    if happened r then r
    else match r.nextTimer? with
      | none => r
      | some t => awaitWithin happened n (r.skip (t - r.stage.now))

/-- Lets time pass until something has happened. -/
def await (happened : Rehearsal σ → Bool) : Rehearsal σ :=
  awaitWithin happened r.stage.patience r.settle

/-! ### The broker -/

/-- The packets that the broker has received. -/
def received : List Packet := r.stage.script.received

/-- The rehearsal after the packets that were received have been looked at. -/
def clearReceived : Rehearsal σ :=
  { r with stage := { r.stage with script := { r.stage.script with received := [] } } }

/-- Closes the connection. -/
def kick : Rehearsal σ :=
  if r.link.client.up then r.act (.fail .unreachable) r.stage.afterFailure else r

/-- Sends a message to the client. -/
def push (topic : String) (payload : Bytes) : Rehearsal σ :=
  if !r.stage.incomplete.isEmpty || Packet.canReceive topic payload then
    r.act (.deliver topic payload) r.stage
  else r.kick

/-- Sends some bytes to the client. -/
def disturb (bytes : Bytes) : Rehearsal σ := if r.link.client.up then r.feed bytes else r

/-- Connects a player to the broker at an address; says whether there is a session. -/
def start (player : σ) (script : Script) (server : String) (login : Login) :
    Except Error Unit × Rehearsal σ :=
  match Address.parse? server with
  | none => (.error (.invalidAddress server), { player, stage := { script, login } })
  | some address =>
    let stage : Stage := { script, login, reachable := script.isAt address }
    let (action, stage) := stage.connect
    let r : Rehearsal σ := { player := Player.act player action, stage }
    (r.link.client.loop.result?.getD (.error .closed), r)

/-! ### A client by itself -/

/-- Whether there is an event, or will be none any more. -/
def hasNews (r : Rehearsal σ) : Bool :=
  !r.link.client.loop.events.isEmpty || r.link.client.loop.ended

/-- The next event, once there is one. -/
def event? (r : Rehearsal Link) : Option Event × Rehearsal Link :=
  let r := r.await hasNews
  (r.link.client.loop.events.head?, r.act (.own .takeEvent) r.stage)

/-- What a call has returned. -/
def resultOf? (i : Nat) : Option (Except Error Unit) := r.link.client.calls[i]?.bind Call.result?

/-- What a call returns, where the clock moves on once its request has been sent. -/
def call (kind : Call.Kind) (filter : String) (ms : Nat) : Except Error Unit × Rehearsal σ :=
  let i := r.link.client.calls.length
  let r := (r.act (.own (.call kind filter)) r.stage).settle
  let r := (r.skip ms).await fun r => (r.resultOf? i).isSome
  ((r.resultOf? i).getD (.error .closed), r)

/-- Lets time pass until one more request can be made. -/
def awaitRoom : Rehearsal σ :=
  if r.link.client.isFull then r.await fun r => !r.link.client.isFull else r

/-- Publishes a message. -/
def publish (p : Publication) : Except Error Unit × Rehearsal σ :=
  let r := r.awaitRoom
  ((r.link.client.publish p).1, r.act (.own (.publish p)) r.stage)

/-- Leaves the broker. -/
def disconnect : Except Error Unit × Rehearsal σ :=
  let r := (r.act (.own .leave) r.stage).awaitRoom
  (r.link.client.requestDisconnect.1, r.act (.own .requestDisconnect) r.stage)

/-- Takes no events any more. -/
def dropReceiver : Rehearsal σ := r.act (.own .dropReceiver) r.stage

end Rehearsal

end LoraBridge.Broker
