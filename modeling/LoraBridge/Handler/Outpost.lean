import LoraBridge.Broker.Link
import LoraBridge.Handler.Step

/-! # A handler with a broker

  An `Outpost` is a handler whose transport is a client of a broker. It is a transition system:
  the broker, the calls of the client and the parts of the handler take their steps in any order.

  Its `Wiring` keeps what the handler has asked of the client. A loop that subscribes and a call
  that closes the handler each begin a call of the client, and go on once that has returned.
-/

namespace LoraBridge.Handler

open Broker (Link)

/-- A link and the calls that a handler has made by it. -/
structure Wiring where
  link : Link := {}
  /-- The loops that wait, each with the call that it waits for. -/
  loopCalls : List (Nat × Nat) := []
  /-- The call that the one who closes the handler waits for. -/
  closeCall? : Option Nat := none

namespace Outpost

/-- What happens next at an outpost. -/
inductive Action where
  /-- The broker, the connection or a call of the client takes a step. -/
  | link (action : Link.Action)
  /-- The dispatcher takes the first event of the session. -/
  | dispatch
  /-- The client has returned to the loop. -/
  | subscribeReply (loop : Nat)
  /-- The client has returned to the one who closes the handler. -/
  | unsubscribeReply
  /-- The client is asked to take leave of the broker. -/
  | disconnectReply
  /-- The handler takes a step that needs nothing from outside. -/
  | own (action : Handler.Action)
deriving Repr

/-- Whether an action of a link may happen without the handler. -/
def isLinks : Link.Action → Bool
  | .own (.enter _) | .own (.request _) | .own (.expire _) | .own (.clear _) | .own (.finish _)
  | .own (.publish _) => true
  | .own _ => false
  | _ => true

/-- Whether a step of a handler needs something from outside. -/
def needsReply : Handler.Action → Bool
  | .dispatch _ | .subscribeReply .. | .unsubscribeReply _ | .disconnectReply _ => true
  | _ => false

end Outpost

namespace Wiring

variable (w : Wiring)

/-- The number of the next call. -/
def nextCall : Nat := w.link.client.calls.length

/-- What a call has returned. -/
def resultOf? (call : Nat) : Option (Except Transport.Error Unit) :=
  w.link.client.calls[call]?.bind Broker.Call.result?

/-- The wiring after the client has taken a step. -/
def act (action : Broker.Client.Action) : Wiring :=
  match w.link.step? (.own action) with
  | some link => { w with link }
  | none => w

/-- The wiring after a step of the handler that needs nothing from outside, but may ask something
    of the client. -/
def follow (handler : State) : Handler.Action → Wiring
  | .subscribe loop =>
    { w.act (.call (.subscribe .exactlyOnce) commandFilter) with
      loopCalls := (loop, w.nextCall) :: w.loopCalls }
  | .enter =>
    if handler.closed then w
    else { w.act (.call .unsubscribe commandFilter) with closeCall? := some w.nextCall }
  | .drained => w.act .leave
  | _ => w

/-- The step of the handler that belongs to an action, if one does, and the wiring afterwards. -/
def resolve? (handler : State) : Outpost.Action → Option (Option Handler.Action × Wiring)
  | .link action =>
    if Outpost.isLinks action then
      (w.link.step? action).map fun link => (none, { w with link })
    else none
  | .dispatch => do
    let (event, _) ← w.link.client.loop.takeEvent?
    some (some (.dispatch event), w.act .takeEvent)
  | .subscribeReply loop => do
    let call ← w.loopCalls.lookup loop
    let result ← w.resultOf? call
    some (some (.subscribeReply loop result),
      { w with loopCalls := w.loopCalls.filter (·.1 ≠ loop) })
  | .unsubscribeReply => do
    let call ← w.closeCall?
    let result ← w.resultOf? call
    some (some (.unsubscribeReply result), { w with closeCall? := none })
  | .disconnectReply =>
    some (some (.disconnectReply w.link.client.requestDisconnect.1), w.act .requestDisconnect)
  | .own action =>
    if Outpost.needsReply action then none else some (some action, w.follow handler action)

end Wiring

/-- A handler and its wiring. -/
structure Outpost where
  handler : State := {}
  wiring : Wiring := {}

/-- The outpost after an action, if the action is possible. -/
def Outpost.step? (s : Outpost) (action : Outpost.Action) : Option Outpost := do
  let (action?, wiring) ← s.wiring.resolve? s.handler action
  match action? with
  | none => some { s with wiring }
  | some action => do
    let handler ← s.handler.step? action
    some { handler, wiring }

/-- What is logged during an action. -/
def Outpost.lines (s : Outpost) (action : Outpost.Action) : List Log.Line :=
  match s.wiring.resolve? s.handler action with
  | some (some action, _) => s.handler.lines action
  | _ => []

end LoraBridge.Handler
