import LoraBridge.Broker.Rehearsal
import LoraBridge.Handler.Outpost
import LoraBridge.Handler.Turn
import LoraBridge.Lock.Store

/-! # Rehearsals of a handler

  A `Desk` is an outpost that can be run: it has a lock store, and it knows when the pauses of
  its loops are over. It is a player of rehearsals with a scripted broker.
-/

namespace LoraBridge.Handler

open Broker (Player Rehearsal)

/-- An outpost, its lock store and its timers. -/
structure Desk where
  outpost : Outpost := {}
  store : Lock.Store := .embedded .empty
  /-- When the pause of each loop is over. -/
  pauses : List (Nat × Nat) := []

namespace Desk

variable (d : Desk)

/-- The desk after an action. An action that is not possible does nothing. -/
def act (action : Outpost.Action) : Desk :=
  match d.outpost.step? action with
  | some outpost => { d with outpost }
  | none => d

/-- When the pause of a loop is over. -/
def pauseEnd (loop : Nat) : Nat := ((d.pauses.find? (·.1 = loop)).map (·.2)).getD 0

/-- What the handler can see at a time. -/
def outlook (now : Nat) : Outlook :=
  let wiring := d.outpost.wiring
  { hasEvent := !wiring.link.client.loop.events.isEmpty,
    hasReply := fun loop => ((wiring.loopCalls.lookup loop).bind wiring.resultOf?).isSome,
    hasRested := fun loop => d.pauseEnd loop ≤ now,
    hasUnsubscribed := (wiring.closeCall?.bind wiring.resultOf?).isSome }

/-- Lets the lock store answer a task at a time. -/
def answerLock (now ticket : Nat) (command : Command) : Desk :=
  let key := Lock.key command.device command.reference
  let (answer, store) := d.store.setIfAbsent now key Lock.commandTtl
  act { d with store } (.own (.lockReply ticket answer))

/-- The desk after its next step at a time, if it has one. -/
def next? (now : Nat) : Option Desk :=
  (d.outpost.handler.turn? (d.outlook now)).map fun turn =>
    match turn with
    | .dispatch => d.act .dispatch
    | .lock ticket command => d.answerLock now ticket command
    | .subscribeReply loop =>
      act { d with pauses :=
              (loop, now + resubscribePause.millis) :: d.pauses.filter (·.1 ≠ loop) }
        (.subscribeReply loop)
    | .unsubscribeReply => d.act .unsubscribeReply
    | .disconnectReply => d.act .disconnectReply
    | .own action => d.act (.own action)

/-- When the timers that are running go off. -/
def timers : List Nat :=
  (d.outpost.handler.loops.filter (·.phase = .pausing)).map fun loop => d.pauseEnd loop.number

end Desk

instance : Player Desk where
  link d := d.outpost.wiring.link
  act d action := d.act (.link action)
  disturb d arrivals :=
    let wiring := d.outpost.wiring
    { d with outpost := { d.outpost with
        wiring := { wiring with link := Player.disturb wiring.link arrivals } } }
  next? d now := d.next? now
  timers d := d.timers
  work d := d.outpost.handler.work d.outpost.wiring.link.client.loop.events.length

namespace Desk

/-! ### What the network server does -/

/-- The rehearsal after an action of the desk. -/
def perform (r : Rehearsal Desk) (action : Outpost.Action) : Rehearsal Desk :=
  { r with player := r.player.act action }

/-- Publishes a document about a device. -/
def send (r : Rehearsal Desk) (address : TopicAddress) (notice : Notice) :
    Except Error Unit × Rehearsal Desk :=
  let (result, r) := r.publish
    { topic := address.topic notice.kind, qos := .atMostOnce, payload := notice.encode }
  (result.mapError (.publish notice.kind), r)

/-- Whether there is a command, or will be none any more. -/
def hasNews (r : Rehearsal Desk) : Bool :=
  match r.player.outpost.handler.look with
  | .empty => false
  | _ => true

/-- Receives the next command, once there is one. -/
def receive (r : Rehearsal Desk) : Received × Rehearsal Desk :=
  let r := r.await hasNews
  (r.player.outpost.handler.look, (perform r (.own .receive)).settle)

/-- What a call that closes the handler has returned. -/
def closeResult? (r : Rehearsal Desk) (call : Nat) : Option (Except Error Unit) :=
  (r.player.outpost.handler.returns[call]?).join

/-- Closes the handler, and waits until that has been done. -/
def close (r : Rehearsal Desk) : Except Error Unit × Rehearsal Desk :=
  let call := r.player.outpost.handler.returns.length
  let r := (perform r (.own .close)).await fun r => (closeResult? r call).isSome
  ((closeResult? r call).getD (.ok ()), r)

end Desk

end LoraBridge.Handler
