import LoraBridge.Handler.Step
import LoraBridge.Transport.Local

/-! # A handler on a local transport

  A `Station` is a handler whose transport is a local one. It is a transition system again: the
  other side of the session may do what it likes, the parts of the handler take their steps in any
  order, and the answers of the transport are those that the local transport gives.
-/

namespace LoraBridge.Handler

open Transport (Local)

/-- A handler and its transport. -/
structure Station where
  handler : State := {}
  transport : Local := {}
  /-- Whether ending the session fails, so that it does not end. -/
  stuck : Bool := false

namespace Station

/-- What happens next at a station. -/
inductive Action where
  /-- The other side of the session does something. -/
  | script (call : Local.Call)
  /-- The dispatcher takes the first event that waits. -/
  | dispatch
  /-- The transport subscribes for the loop. -/
  | subscribeReply (loop : Nat)
  /-- The transport unsubscribes for the call whose turn it is. -/
  | unsubscribeReply
  /-- The transport ends the session for the call whose turn it is. -/
  | disconnectReply
  /-- The handler takes a step that does not involve the transport. -/
  | own (action : Handler.Action)
deriving Repr

/-- Whether a step of a handler does not involve the transport. -/
def isOwn : Handler.Action → Bool
  | .dispatch _ | .subscribeReply .. | .unsubscribeReply _ | .disconnectReply _ => false
  | _ => true

variable (s : Station)

/-- The step of the handler that belongs to an action, and the transport afterwards. -/
def resolve? : Action → Option (Handler.Action × Local)
  | .script _ => none
  | .dispatch =>
    match s.transport.events with
    | [] => none
    | event :: events => some (.dispatch event, { s.transport with events })
  | .subscribeReply loop =>
    let (reply, transport) := s.transport.subscribe commandFilter .exactlyOnce
    some (.subscribeReply loop reply, transport)
  | .unsubscribeReply =>
    let (reply, transport) := s.transport.unsubscribe commandFilter
    some (.unsubscribeReply reply, transport)
  | .disconnectReply =>
    if s.stuck then some (.disconnectReply (.error (.injected "stuck")), s.transport)
    else some (.disconnectReply (.ok ()), s.transport.disconnect)
  | .own action => if isOwn action then some (action, s.transport) else none

/-- The station after an action, if the action is possible. -/
def step? (action : Action) : Option Station :=
  match action with
  | .script call => some { s with transport := s.transport.apply call }
  | action => do
    let (action, transport) ← s.resolve? action
    let handler ← s.handler.step? action
    some { s with handler, transport }

/-- What is logged during an action. -/
def lines (action : Action) : List Log.Line :=
  match s.resolve? action with
  | some (action, _) => s.handler.lines action
  | none => []

/-! ### Publishing -/

/-- Publishes a document about a device. -/
def send (address : TopicAddress) (notice : Notice) : Except Error Unit × Station :=
  let (result, transport) := s.transport.publish
    { topic := address.topic notice.kind, qos := .atMostOnce, payload := notice.encode }
  (result.mapError (.publish notice.kind), { s with transport })

end Station

end LoraBridge.Handler
