import LoraBridge.Handler.Step

/-! # The server

  The server has a handler and forwards the commands that it receives from it, until somebody
  interrupts it. Then it closes the handler, goes on forwarding, and returns once the handler is
  closed and no command is left. If the handler cannot be closed, it returns without waiting for
  what is left.

  It is a transition system whose actions are those of the handler and its own. `resolve?` is what
  an action of the server means for its handler. What is followed here ends with the return: the
  process that the server is in exits then, and a command or two may still be forwarded until it
  has. Nobody waits for that, and it does not count.
-/

namespace LoraBridge.Server

/-- How far a server has come. -/
inductive Phase where
  /-- It has not been interrupted. -/
  | serving
  /-- It waits for the call with this number to close the handler. -/
  | closing (call : Nat)
  /-- The handler is closed, and it forwards what is left. -/
  | draining
  | returned (result : Except Handler.Error Unit)
deriving Repr

/-- What a server has returned. -/
def Phase.result? : Phase → Option (Except Handler.Error Unit)
  | .returned result => some result
  | _ => none

/-- What happens next to a server. -/
inductive Action where
  /-- The handler takes a step. -/
  | handler (action : Handler.Action)
  /-- The server receives a command and forwards it. -/
  | forward
  /-- Somebody interrupts the server, which closes its handler. -/
  | interrupt
  /-- The server learns whether the handler has been closed. -/
  | closed
  /-- The server learns that there will be no more commands. -/
  | finish
deriving Repr

/-- Whether a step of the handler is not one that the server makes it take. -/
def isHandlers : Handler.Action → Bool
  | .receive | .dropReceiver | .close => false
  | _ => true

/-- The step of the handler that belongs to an action, if one does, and the phase afterwards. The
    server forwards until it returns. -/
def resolve? (handler : Handler.State) (phase : Phase) :
    Action → Option (Option Handler.Action × Phase)
  | .handler action => if isHandlers action then some (some action, phase) else none
  | .forward =>
    match phase with
    | .returned _ => none
    | _ => some (some .receive, phase)
  | .interrupt =>
    match phase with
    | .serving => some (some .close, .closing handler.returns.length)
    | _ => none
  | .closed =>
    match phase with
    | .closing call =>
      match handler.returns[call]? with
      | some (some (.ok ())) => some (none, .draining)
      | some (some (.error e)) => some (none, .returned (.error e))
      | _ => none
    | _ => none
  | .finish =>
    match phase, handler.look with
    | .draining, .ended => some (none, .returned (.ok ()))
    | _, _ => none

/-! ### The transitions -/

/-- The state of a server. -/
structure State where
  handler : Handler.State := {}
  phase : Phase := .serving
  /-- The commands that were forwarded before the server returned, in order, each with the number
      of its message. -/
  forwarded : List (Nat × Command) := []

/-- The server after an action, if the action is possible. -/
def State.step? (s : State) (action : Action) : Option State := do
  let (action?, phase) ← resolve? s.handler s.phase action
  match action? with
  | none => some { s with phase }
  | some step => do
    let handler ← s.handler.step? step
    let forwarded := match action with
      | .forward => s.forwarded ++ s.handler.queue.take 1
      | _ => s.forwarded
    some { handler, phase, forwarded }

/-! ### What is logged -/

/-- The line about a command that is forwarded. -/
def forwardLine (command : Command) : Log.Line :=
  { level := .info, message := "data-down payload ready for network server",
    fields := [("dev_eui", command.device), ("reference", command.reference),
      ("confirmed", toString command.confirmed), ("f_port", toString command.port),
      ("bytes", toString command.data.length)] }

/-- What is logged during an action. -/
def lines (handler : Handler.State) : Action → List Log.Line
  | .forward => (handler.queue.take 1).map fun (_, command) => forwardLine command
  | .interrupt =>
    [{ level := .info, message := "Shutdown signal received. Exiting gracefully." }]
  | _ => []

end LoraBridge.Server
