import LoraBridge.Handler.Verdict
import LoraBridge.Lock.Outcome
import LoraBridge.Transport.Basic

/-! # The state of a handler

  A handler stands between a session with the broker and the network server. Its parts run side
  by side:

  - the dispatcher takes the events of the session one after the other;
  - every message has a `Task`, which judges it, asks for the lock of its command and hands the
    command to the queue;
  - every time the session comes up, a `Loop` begins, which subscribes to the command topic and
    tries again after a pause if that fails;
  - calls that close the handler take turns; the one whose turn it is goes through the phases of
    `Closing`.

  The queue of commands holds one. A task that finds it full waits in line, first come first
  served. The network server at the other end of the queue receives commands until no one is left
  who could send any.
-/

namespace LoraBridge.Handler

/-- How many commands the queue holds. -/
def queueCapacity : Nat := 1

/-- How long a loop pauses before it tries again. -/
def resubscribePause : Duration := Duration.ofSeconds 1

/-! ### Errors -/

/-- Why an operation of a handler failed. -/
inductive Error where
  | connect (source : Transport.Error)
  | publish (kind : Kind) (source : Transport.Error)
  | unsubscribe (filter : String) (source : Transport.Error)
deriving DecidableEq, Repr

/-- The error of the transport that is behind an error. -/
def Error.source : Error → Transport.Error
  | .connect source => source
  | .publish _ source => source
  | .unsubscribe _ source => source

/-- What is reported of an error. -/
def Error.message : Error → String
  | .connect source => s!"connecting to broker error: {source.message}"
  | .publish kind source => s!"publish {kind.name} payload error: {source.message}"
  | .unsubscribe filter source => s!"unsubscribe from {filter} error: {source.message}"

/-! ### Tasks -/

/-- How far a task has come. -/
inductive Task.Phase where
  /-- Its message has not been judged. -/
  | fresh
  /-- It waits for the lock of its command. -/
  | locking (command : Command)
  /-- It has the lock and is about to get in line for the queue. -/
  | locked (command : Command)
deriving DecidableEq, Repr

/-- What is done about one message. -/
structure Task where
  /-- The number of the message, counted from zero. -/
  ticket : Nat
  topic : String
  payload : Bytes
  phase : Task.Phase := .fresh
deriving DecidableEq, Repr

/-- A task that waits in line for the queue. -/
structure Waiter where
  ticket : Nat
  topic : String
  command : Command
deriving DecidableEq, Repr

/-! ### Loops -/

/-- How far a loop has come. -/
inductive LoopPhase where
  /-- It is about to look whether the handler has unsubscribed. -/
  | checking
  /-- It has found that the handler has not, and is about to subscribe. -/
  | calling
  /-- It waits for the answer. -/
  | waiting
  /-- It pauses after a failure. -/
  | pausing
deriving DecidableEq, Repr

/-- An attempt to be subscribed, begun when the session came up. -/
structure Loop where
  /-- The number of the loop, counted from zero. -/
  number : Nat
  phase : LoopPhase := .checking
deriving DecidableEq, Repr

/-! ### Closing -/

/-- How far the call whose turn it is has come. -/
inductive Closing where
  /-- It waits until the broker has unsubscribed. -/
  | unsubscribing
  /-- It is about to note that, which ends all loops. -/
  | marking
  /-- It is about to take the queue's sender away, so that no further task begins. -/
  | detaching
  /-- It holds the sender and waits until no task is left. -/
  | draining
  /-- It has dropped the sender and waits until the session is ended. -/
  | disconnecting
deriving DecidableEq, Repr

/-! ### Everything together -/

/-- The state of a handler. -/
structure State where
  /-- Whether tasks of new messages get a sender of the queue. -/
  sender : Bool := true
  /-- The commands on the queue, each with the number of its message. -/
  queue : List (Nat × Command) := []
  /-- Whether the network server still receives. -/
  receiver : Bool := true
  /-- The tasks that are not in line. -/
  tasks : List Task := []
  /-- The tasks that are in line, first come first. -/
  line : List Waiter := []
  /-- The number of the next message. -/
  nextTicket : Nat := 0
  /-- The loops that have not ended. -/
  loops : List Loop := []
  /-- The number of the next loop. -/
  nextLoop : Nat := 0
  /-- Whether it has been noted that the broker has unsubscribed. -/
  unsubscribed : Bool := false
  /-- Whether a call has closed the handler. -/
  closed : Bool := false
  /-- What each call that closes the handler has returned, if it has. -/
  returns : List (Option (Except Error Unit)) := []
  /-- The calls whose turn is still to come, first come first. -/
  turns : List Nat := []
  /-- The call whose turn it is. -/
  closing? : Option (Nat × Closing) := none

namespace State

variable (s : State)

/-- How many messages are being handled. -/
def inFlight : Nat := s.tasks.length + s.line.length

/-- Whether somebody could still send a command. -/
def hasSender : Bool :=
  s.sender || !s.tasks.isEmpty || !s.line.isEmpty ||
    match s.closing? with
    | some (_, .draining) => true
    | _ => false

/-- The task of a message. -/
def task? (ticket : Nat) : Option Task := s.tasks.find? (·.ticket = ticket)

/-- The loop with a number. -/
def loop? (number : Nat) : Option Loop := s.loops.find? (·.number = number)

/-- The handler without a task. -/
def endTask (ticket : Nat) : State :=
  { s with tasks := s.tasks.filter (·.ticket ≠ ticket) }

/-- The handler with a task in another phase. -/
def setTask (ticket : Nat) (phase : Task.Phase) : State :=
  { s with tasks := s.tasks.map fun t => if t.ticket = ticket then { t with phase } else t }

/-- The handler without a loop. -/
def endLoop (number : Nat) : State :=
  { s with loops := s.loops.filter (·.number ≠ number) }

/-- The handler with a loop in another phase. -/
def setLoop (number : Nat) (phase : LoopPhase) : State :=
  { s with loops := s.loops.map fun l => if l.number = number then { l with phase } else l }

/-- The handler after a call has returned. -/
def finish (call : Nat) (result : Except Error Unit) : State :=
  { s with returns := s.returns.set call (some result), closing? := none }

/-- The handler in a debug line. -/
def debugText : String :=
  "Handler \x7b lock: DownlinkLock \x7b store: \"dyn LockStore\", ttl: 100ms \x7d, in_flight: " ++
    toString s.inFlight ++ ", closed: " ++ toString s.closed ++ " \x7d"

end State

end LoraBridge.Handler
