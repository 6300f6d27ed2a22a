import LoraBridge.Handler.Step

/-! # Whose turn it is

  The parts of a handler may take their steps in any order. `State.turn?` is one order, which is
  used wherever a handler is run: events before tasks, tasks before loops, loops before closing.
  It says what the handler does next, given what it can see of its surroundings.
-/

namespace LoraBridge.Handler

/-- What a handler can see of its surroundings. -/
structure Outlook where
  /-- Whether there is an event of the session. -/
  hasEvent : Bool
  /-- Whether the transport has answered the loop with a number. -/
  hasReply : Nat → Bool
  /-- Whether the pause of the loop with a number is over. -/
  hasRested : Nat → Bool
  /-- Whether the transport has answered the call that closes the handler. -/
  hasUnsubscribed : Bool

/-- What a handler does next. -/
inductive Turn where
  /-- The dispatcher takes the next event. -/
  | dispatch
  /-- The lock store answers the task that waits for the lock of this command. -/
  | lock (ticket : Nat) (command : Command)
  /-- The transport answers the loop. -/
  | subscribeReply (loop : Nat)
  /-- The transport has unsubscribed or failed to. -/
  | unsubscribeReply
  /-- The transport has ended the session or failed to. -/
  | disconnectReply
  /-- A step that needs nothing from outside. -/
  | own (action : Action)
deriving Repr

/-- The turn of a task. -/
def Task.turn (task : Task) : Turn :=
  match task.phase with
  | .fresh => .own (.judge task.ticket)
  | .locking command => .lock task.ticket command
  | .locked _ => .own (.queueUp task.ticket)

/-- The turn of a loop, unless it has to wait. -/
def Loop.turn? (loop : Loop) (o : Outlook) : Option Turn :=
  match loop.phase with
  | .checking => some (.own (.check loop.number))
  | .calling => some (.own (.subscribe loop.number))
  | .waiting => if o.hasReply loop.number then some (.subscribeReply loop.number) else none
  | .pausing => if o.hasRested loop.number then some (.own (.wake loop.number)) else none

namespace State

variable (s : State)

/-- The turn of the call that closes the handler, or of the first one in waiting. -/
def turnOfClosing? (o : Outlook) : Option Turn :=
  match s.closing? with
  | none => if s.turns.isEmpty then none else some (.own .enter)
  | some (_, .unsubscribing) => if o.hasUnsubscribed then some .unsubscribeReply else none
  | some (_, .marking) => some (.own .mark)
  | some (_, .detaching) => some (.own .detach)
  | some (_, .draining) => if s.inFlight = 0 then some (.own .drained) else none
  | some (_, .disconnecting) => some .disconnectReply

/-- What a handler does next, unless all its parts have to wait. -/
def turn? (o : Outlook) : Option Turn :=
  if o.hasEvent then some .dispatch
  else match s.tasks with
    | task :: _ => some task.turn
    | [] =>
      if s.sendFirst?.isSome then some (.own .send)
      else (s.loops.findSome? (·.turn? o)).or (s.turnOfClosing? o)

/-- No fewer than the steps until all parts have to wait, where so many events are there. -/
def work (events : Nat) : Nat :=
  6 * events + 5 * s.tasks.length + s.line.length + 4 * s.loops.length + 6 * (s.turns.length + 1)

end State

end LoraBridge.Handler
