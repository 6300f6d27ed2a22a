import LoraBridge.Handler.Basic

/-! # Steps of a handler

  A handler as a transition system. An `Action` is one atomic step of one of its parts, or an
  answer from outside: from the transport, the lock store or the network server. `step?` is the
  handler after an action, if the action is possible; actions may come in any order. `lines` is
  what is logged during an action.
-/

namespace LoraBridge.Handler

open Transport (Event)

/-- What a handler does next. -/
inductive Action where
  /-- The dispatcher takes an event of the session. -/
  | dispatch (event : Event)
  /-- The task of this message judges it; if it is a command, it asks for its lock. -/
  | judge (ticket : Nat)
  /-- The lock store answers the task. -/
  | lockReply (ticket : Nat) (answer : Except Lock.StoreError Bool)
  /-- The task gets in line for the queue. -/
  | queueUp (ticket : Nat)
  /-- The first task in line puts its command on the queue, or finds that nobody receives. -/
  | send
  /-- The network server receives a command. -/
  | receive
  /-- The network server stops receiving. -/
  | dropReceiver
  /-- The loop looks whether the handler has unsubscribed. -/
  | check (loop : Nat)
  /-- The loop asks the transport to subscribe. -/
  | subscribe (loop : Nat)
  /-- The transport answers the loop. -/
  | subscribeReply (loop : Nat) (reply : Except Transport.Error Unit)
  /-- The pause of the loop is over. -/
  | wake (loop : Nat)
  /-- Somebody closes the handler. -/
  | close
  /-- The first call in waiting gets its turn. Unless the handler is closed already, it asks the
      transport to unsubscribe. -/
  | enter
  /-- The transport has unsubscribed or failed to. -/
  | unsubscribeReply (reply : Except Transport.Error Unit)
  /-- It is noted that the broker has unsubscribed. -/
  | mark
  /-- The queue's sender is taken away. -/
  | detach
  /-- No task is left: the sender is dropped, and the transport is asked to end the session. -/
  | drained
  /-- The transport has ended the session or failed to. -/
  | disconnectReply (reply : Except Transport.Error Unit)
deriving Repr

/-! ### The transitions -/

/-- The handler after an event. -/
def State.dispatch (s : State) : Event → State
  | .connected =>
    { s with loops := s.loops ++ [{ number := s.nextLoop }], nextLoop := s.nextLoop + 1 }
  | .lost _ => s
  | .message topic payload =>
    if s.sender then
      { s with tasks := s.tasks ++ [{ ticket := s.nextTicket, topic, payload }],
               nextTicket := s.nextTicket + 1 }
    else s

/-- The handler after the first task in line had its chance. -/
def State.sendFirst? (s : State) : Option State :=
  match s.line with
  | [] => none
  | waiter :: line =>
    if !s.receiver then some { s with line }
    else if s.queue.length < queueCapacity then
      some { s with line, queue := s.queue ++ [(waiter.ticket, waiter.command)] }
    else none

/-- The handler after a call got its turn. -/
def State.enter? (s : State) : Option State :=
  match s.closing?, s.turns with
  | none, call :: turns =>
    if s.closed then some ({ s with turns }.finish call (.ok ()))
    else some { s with turns, closing? := some (call, .unsubscribing) }
  | _, _ => none

/-- The handler after an action, if the action is possible. -/
def State.step? (s : State) : Action → Option State
  | .dispatch event => some (s.dispatch event)
  | .judge ticket => do
    let task ← s.task? ticket
    let .fresh := task.phase | none
    match Handler.judge task.topic task.payload with
    | .command command => some (s.setTask ticket (.locking command))
    | _ => some (s.endTask ticket)
  | .lockReply ticket answer => do
    let task ← s.task? ticket
    let .locking command := task.phase | none
    match Lock.Outcome.ofAnswer answer with
    | .acquired => some (s.setTask ticket (.locked command))
    | _ => some (s.endTask ticket)
  | .queueUp ticket => do
    let task ← s.task? ticket
    let .locked command := task.phase | none
    let s := s.endTask ticket
    some { s with line := s.line ++ [{ ticket, topic := task.topic, command }] }
  | .send => s.sendFirst?
  | .receive =>
    match s.receiver, s.queue with
    | true, _ :: queue => some { s with queue }
    | _, _ => none
  | .dropReceiver =>
    if s.receiver then some { s with receiver := false, queue := [] } else none
  | .check number => do
    let loop ← s.loop? number
    let .checking := loop.phase | none
    if s.unsubscribed then some (s.endLoop number) else some (s.setLoop number .calling)
  | .subscribe number => do
    let loop ← s.loop? number
    let .calling := loop.phase | none
    some (s.setLoop number .waiting)
  | .subscribeReply number reply => do
    let loop ← s.loop? number
    let .waiting := loop.phase | none
    match reply with
    | .ok () => some (s.endLoop number)
    | .error _ => some (s.setLoop number .pausing)
  | .wake number => do
    let loop ← s.loop? number
    let .pausing := loop.phase | none
    some (s.setLoop number .checking)
  | .close =>
    some { s with returns := s.returns ++ [none], turns := s.turns ++ [s.returns.length] }
  | .enter => s.enter?
  | .unsubscribeReply reply =>
    match s.closing? with
    | some (call, .unsubscribing) =>
      match reply with
      | .ok () => some { s with closing? := some (call, .marking) }
      | .error e => some (s.finish call (.error (.unsubscribe commandFilter e)))
    | _ => none
  | .mark =>
    match s.closing? with
    | some (call, .marking) =>
      some { s with unsubscribed := true, closing? := some (call, .detaching) }
    | _ => none
  | .detach =>
    match s.closing? with
    | some (call, .detaching) =>
      some { s with sender := false, closing? := some (call, .draining) }
    | _ => none
  | .drained =>
    match s.closing? with
    | some (call, .draining) =>
      if s.inFlight = 0 then some { s with closing? := some (call, .disconnecting) } else none
    | _ => none
  | .disconnectReply _ =>
    match s.closing? with
    | some (call, .disconnecting) => some ({ s with closed := true }.finish call (.ok ()))
    | _ => none

/-! ### What is logged -/

/-- The warnings and errors that are logged during an action. -/
def State.lines (s : State) : Action → List Log.Line
  | .dispatch (.lost reason) =>
    [{ level := .error, message := "mqtt connection error", fields := [("reason", reason)] }]
  | .judge ticket =>
    match s.task? ticket with
    | some task => (Handler.judge task.topic task.payload).lines task.topic task.payload
    | none => []
  | .lockReply ticket (.error e) =>
    match s.task? ticket with
    | some { phase := .locking command, .. } =>
      [{ level := .error, message := "acquire downlink payload lock error",
         fields := [("key", Lock.key command.device command.reference),
                    ("error", e.message)] }]
    | _ => []
  | .send =>
    match s.receiver, s.line with
    | false, waiter :: _ =>
      [{ level := .warn, message := "data-down receiver dropped, discarding payload",
         fields := [("topic", waiter.topic)] }]
    | _, _ => []
  | .subscribeReply _ (.error e) =>
    [{ level := .error, message := "subscribe error",
       fields := [("topic", commandFilter), ("error", e.message)] }]
  | .disconnectReply (.error e) =>
    [{ level := .warn, message := "disconnecting from broker error",
       fields := [("error", e.message)] }]
  | _ => []

/-! ### Receiving -/

/-- What the network server finds when it looks at the queue. -/
inductive Received where
  | command (command : Command)
  /-- There is nothing at present. -/
  | empty
  /-- There will be nothing any more. -/
  | ended
  /-- It has stopped receiving. -/
  | noReceiver
deriving Repr

/-- What the network server finds. -/
def State.look (s : State) : Received :=
  if !s.receiver then .noReceiver
  else match s.queue with
    | (_, command) :: _ => .command command
    | [] => if s.hasSender then .empty else .ended

end LoraBridge.Handler
