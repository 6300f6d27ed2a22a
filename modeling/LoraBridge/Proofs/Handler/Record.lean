import LoraBridge.Handler.Step
import LoraBridge.Proofs.Run

/-! # The record of a handler

  What a handler does about messages, written down step by step. Every message that is accepted
  has a ticket, and every `Entry` names the ticket that it is about.

  - `State.entries` is what a step adds to the record, `record` is the record of a run.
  - `State.Step` lists what a step can do, when, and what it writes down. Theorems about handlers
    go through its cases and never look at `State.step?` again.
-/

namespace LoraBridge.Handler

open Transport (Event)

/-! ### Entries -/

/-- The key under which a command is locked. -/
def lockKey (command : Command) : String := Lock.key command.device command.reference

/-- What is written down about a message. -/
inductive Entry where
  /-- A message has arrived and got a task. -/
  | accepted (ticket : Nat) (topic : String) (payload : Bytes)
  /-- A message has arrived when the queue's sender had been taken away. -/
  | dropped (topic : String) (payload : Bytes)
  /-- A message is no command. -/
  | rejected (ticket : Nat)
  /-- The lock store has been asked for the lock of a command. -/
  | asked (ticket : Nat) (key : String)
  /-- The lock store has answered. -/
  | answered (ticket : Nat) (answer : Except Lock.StoreError Bool)
  /-- A command has been put on the queue. -/
  | forwarded (ticket : Nat) (command : Command)
  /-- A command could not be put on the queue, since nobody receives. -/
  | discarded (ticket : Nat) (command : Command)
  /-- The network server has received a command. -/
  | received (ticket : Nat) (command : Command)
  /-- A command was on the queue when the network server stopped receiving. -/
  | lost (ticket : Nat) (command : Command)
deriving Repr

/-- The ticket that an entry is about. -/
def Entry.ticket? : Entry → Option Nat
  | .accepted ticket _ _ => some ticket
  | .dropped _ _ => none
  | .rejected ticket => some ticket
  | .asked ticket _ => some ticket
  | .answered ticket _ => some ticket
  | .forwarded ticket _ => some ticket
  | .discarded ticket _ => some ticket
  | .received ticket _ => some ticket
  | .lost ticket _ => some ticket

/-- What is written down of a step. -/
def State.entries (s : State) : Action → List Entry
  | .dispatch (.message topic payload) =>
    if s.sender then [.accepted s.nextTicket topic payload] else [.dropped topic payload]
  | .judge ticket =>
    match s.task? ticket with
    | none => []
    | some task =>
      match judge task.topic task.payload with
      | .command command => [.asked ticket (lockKey command)]
      | _ => [.rejected ticket]
  | .lockReply ticket answer => [.answered ticket answer]
  | .send =>
    match s.line with
    | [] => []
    | waiter :: _ =>
      if s.receiver then [.forwarded waiter.ticket waiter.command]
      else [.discarded waiter.ticket waiter.command]
  | .receive =>
    match s.queue with
    | [] => []
    | (ticket, command) :: _ => [.received ticket command]
  | .dropReceiver => s.queue.map fun e => .lost e.1 e.2
  | _ => []

/-- What is written down of the steps of a run. -/
def record (steps : List (State × Action)) : List Entry := steps.flatMap fun p => p.1.entries p.2

@[simp] theorem record_nil : record [] = [] := rfl

@[simp] theorem record_append (steps more : List (State × Action)) :
    record (steps ++ more) = record steps ++ record more := by
  simp [record]

@[simp] theorem record_single (s : State) (a : Action) : record [(s, a)] = s.entries a := by
  simp [record]

/-- What a record says of one ticket. -/
def about (ticket : Nat) (entries : List Entry) : List Entry :=
  entries.filter (·.ticket? = some ticket)

@[simp] theorem about_nil (ticket : Nat) : about ticket [] = [] := rfl

@[simp] theorem about_append (ticket : Nat) (xs ys : List Entry) :
    about ticket (xs ++ ys) = about ticket xs ++ about ticket ys := by
  simp [about]

theorem mem_about {ticket : Nat} {entries : List Entry} {e : Entry} (h : e ∈ entries)
    (ht : e.ticket? = some ticket) : e ∈ about ticket entries := by
  simpa [about, ht] using h

theorem about_sublist (ticket : Nat) (entries : List Entry) :
    (about ticket entries).Sublist entries :=
  List.filter_sublist

/-- Among entries that are written down with the number of their handler, each handler finds its
    own. -/
theorem filterMap_numbered (i j : Nat) (entries : List Entry) :
    (entries.map (j, ·)).filterMap (fun e => if e.1 = i then some e.2 else none) =
      if j = i then entries else [] := by
  by_cases hj : j = i
  · induction entries with
    | nil => simp
    | cons e rest ih => rw [List.map_cons, List.filterMap_cons, ih, if_pos hj, if_pos hj, if_pos hj]
  · induction entries with
    | nil => simp
    | cons e rest ih => rw [List.map_cons, List.filterMap_cons, ih, if_neg hj, if_neg hj, if_neg hj]

/-! ### Steps by their cases -/

/-- What an action does to a handler, under which conditions, and what it writes down. -/
inductive State.Step (s : State) : Action → List Entry → State → Prop
  -- the dispatcher
  | accept (topic : String) (payload : Bytes) (hopen : s.sender = true) :
    Step s (.dispatch (.message topic payload)) [.accepted s.nextTicket topic payload]
      { s with tasks := s.tasks ++ [{ ticket := s.nextTicket, topic, payload }],
               nextTicket := s.nextTicket + 1 }
  | drop (topic : String) (payload : Bytes) (hshut : s.sender = false) :
    Step s (.dispatch (.message topic payload)) [.dropped topic payload] s
  | connected :
    Step s (.dispatch .connected) []
      { s with loops := s.loops ++ [{ number := s.nextLoop }], nextLoop := s.nextLoop + 1 }
  | lost (reason : String) : Step s (.dispatch (.lost reason)) [] s
  -- tasks
  | reject {ticket : Nat} {task : Task} (htask : s.task? ticket = some task)
    (hphase : task.phase = .fresh)
    (hjudge : ∀ command, judge task.topic task.payload ≠ .command command) :
    Step s (.judge ticket) [.rejected ticket] (s.endTask ticket)
  | ask {ticket : Nat} {task : Task} {command : Command} (htask : s.task? ticket = some task)
    (hphase : task.phase = .fresh) (hjudge : judge task.topic task.payload = .command command) :
    Step s (.judge ticket) [.asked ticket (lockKey command)]
      (s.setTask ticket (.locking command))
  | refuse {ticket : Nat} {task : Task} {command : Command}
    {answer : Except Lock.StoreError Bool} (htask : s.task? ticket = some task)
    (hphase : task.phase = .locking command) (hanswer : answer ≠ .ok true) :
    Step s (.lockReply ticket answer) [.answered ticket answer] (s.endTask ticket)
  | acquire {ticket : Nat} {task : Task} {command : Command} (htask : s.task? ticket = some task)
    (hphase : task.phase = .locking command) :
    Step s (.lockReply ticket (.ok true)) [.answered ticket (.ok true)]
      (s.setTask ticket (.locked command))
  | queueUp {ticket : Nat} {task : Task} {command : Command} (htask : s.task? ticket = some task)
    (hphase : task.phase = .locked command) :
    Step s (.queueUp ticket) []
      { s.endTask ticket with line := s.line ++ [{ ticket, topic := task.topic, command }] }
  -- the queue
  | forward {waiter : Waiter} {line : List Waiter} (hline : s.line = waiter :: line)
    (hreceiver : s.receiver = true) (hroom : s.queue.length < queueCapacity) :
    Step s .send [.forwarded waiter.ticket waiter.command]
      { s with line, queue := s.queue ++ [(waiter.ticket, waiter.command)] }
  | discard {waiter : Waiter} {line : List Waiter} (hline : s.line = waiter :: line)
    (hreceiver : s.receiver = false) :
    Step s .send [.discarded waiter.ticket waiter.command] { s with line }
  | receive {ticket : Nat} {command : Command} {queue : List (Nat × Command)}
    (hqueue : s.queue = (ticket, command) :: queue) (hreceiver : s.receiver = true) :
    Step s .receive [.received ticket command] { s with queue }
  | dropReceiver (hreceiver : s.receiver = true) :
    Step s .dropReceiver (s.queue.map fun e => .lost e.1 e.2)
      { s with receiver := false, queue := [] }
  -- loops
  | giveUp {number : Nat} {loop : Loop} (hloop : s.loop? number = some loop)
    (hphase : loop.phase = .checking) (hunsubscribed : s.unsubscribed = true) :
    Step s (.check number) [] (s.endLoop number)
  | goOn {number : Nat} {loop : Loop} (hloop : s.loop? number = some loop)
    (hphase : loop.phase = .checking) (hunsubscribed : s.unsubscribed = false) :
    Step s (.check number) [] (s.setLoop number .calling)
  | subscribe {number : Nat} {loop : Loop} (hloop : s.loop? number = some loop)
    (hphase : loop.phase = .calling) :
    Step s (.subscribe number) [] (s.setLoop number .waiting)
  | subscribed {number : Nat} {loop : Loop} (hloop : s.loop? number = some loop)
    (hphase : loop.phase = .waiting) :
    Step s (.subscribeReply number (.ok ())) [] (s.endLoop number)
  | notSubscribed {number : Nat} {loop : Loop} {e : Transport.Error}
    (hloop : s.loop? number = some loop) (hphase : loop.phase = .waiting) :
    Step s (.subscribeReply number (.error e)) [] (s.setLoop number .pausing)
  | wake {number : Nat} {loop : Loop} (hloop : s.loop? number = some loop)
    (hphase : loop.phase = .pausing) :
    Step s (.wake number) [] (s.setLoop number .checking)
  -- calls that close the handler
  | close :
    Step s .close []
      { s with returns := s.returns ++ [none], turns := s.turns ++ [s.returns.length] }
  | enterClosed {call : Nat} {turns : List Nat} (hfree : s.closing? = none)
    (hturns : s.turns = call :: turns) (hclosed : s.closed = true) :
    Step s .enter [] ({ s with turns }.finish call (.ok ()))
  | enter {call : Nat} {turns : List Nat} (hfree : s.closing? = none)
    (hturns : s.turns = call :: turns) (hopen : s.closed = false) :
    Step s .enter [] { s with turns, closing? := some (call, .unsubscribing) }
  | unsubscribed {call : Nat} (hclosing : s.closing? = some (call, .unsubscribing)) :
    Step s (.unsubscribeReply (.ok ())) [] { s with closing? := some (call, .marking) }
  | notUnsubscribed {call : Nat} {e : Transport.Error}
    (hclosing : s.closing? = some (call, .unsubscribing)) :
    Step s (.unsubscribeReply (.error e)) []
      (s.finish call (.error (.unsubscribe commandFilter e)))
  | mark {call : Nat} (hclosing : s.closing? = some (call, .marking)) :
    Step s .mark [] { s with unsubscribed := true, closing? := some (call, .detaching) }
  | detach {call : Nat} (hclosing : s.closing? = some (call, .detaching)) :
    Step s .detach [] { s with sender := false, closing? := some (call, .draining) }
  | drained {call : Nat} (hclosing : s.closing? = some (call, .draining))
    (hdone : s.inFlight = 0) :
    Step s .drained [] { s with closing? := some (call, .disconnecting) }
  | disconnected {call : Nat} {reply : Except Transport.Error Unit}
    (hclosing : s.closing? = some (call, .disconnecting)) :
    Step s (.disconnectReply reply) [] ({ s with closed := true }.finish call (.ok ()))

variable {s s' : State} {a : Action} {es : List Entry} {ticket number t : Nat}

theorem ofAnswer_eq_acquired {answer : Except Lock.StoreError Bool} :
    Lock.Outcome.ofAnswer answer = .acquired ↔ answer = .ok true := by
  cases answer with
  | error e => simp [Lock.Outcome.ofAnswer]
  | ok won => cases won <;> simp [Lock.Outcome.ofAnswer]

theorem State.step_sendFirst (h : s.sendFirst? = some s') :
    s.Step .send (s.entries .send) s' := by
  unfold State.sendFirst? at h
  cases hline : s.line with
  | nil => simp [hline] at h
  | cons waiter line =>
    cases hreceiver : s.receiver with
    | false =>
      -- nobody receives, so there is no need to wait for room
      simp only [hline, hreceiver, Bool.not_false, if_true, Option.some.injEq] at h
      subst h
      simpa [State.entries, hline, hreceiver] using State.Step.discard hline hreceiver
    | true =>
      simp only [hline, hreceiver, Bool.not_true, Bool.false_eq_true, if_false] at h
      split at h
      · next hroom =>
        obtain rfl := Option.some.inj h
        simpa [State.entries, hline, hreceiver] using State.Step.forward hline hreceiver hroom
      · simp at h

theorem State.step_judge (h : s.step? (.judge ticket) = some s') :
    s.Step (.judge ticket) (s.entries (.judge ticket)) s' := by
  simp only [State.step?, Option.bind_eq_bind, Option.bind_eq_some_iff] at h
  obtain ⟨task, htask, h⟩ := h
  cases hphase : task.phase with
  | fresh =>
    simp only [hphase] at h
    cases hjudge : judge task.topic task.payload with
    | command command =>
      simp only [hjudge, Option.some.injEq] at h
      subst h
      simpa [State.entries, htask, hjudge] using State.Step.ask htask hphase hjudge
    | _ =>
      simp only [hjudge, Option.some.injEq] at h
      subst h
      simpa [State.entries, htask, hjudge] using
        State.Step.reject htask hphase (by simp [hjudge])
  | _ => simp [hphase] at h

theorem State.step_lockReply {answer : Except Lock.StoreError Bool}
    (h : s.step? (.lockReply ticket answer) = some s') :
    s.Step (.lockReply ticket answer) [.answered ticket answer] s' := by
  simp only [State.step?, Option.bind_eq_bind, Option.bind_eq_some_iff] at h
  obtain ⟨task, htask, h⟩ := h
  cases hphase : task.phase with
  | locking command =>
    simp only [hphase] at h
    by_cases hanswer : answer = .ok true
    · subst hanswer
      obtain rfl := Option.some.inj h
      exact .acquire htask hphase
    · -- whether somebody else holds the lock or the store has failed makes no difference
      have hrefused : Lock.Outcome.ofAnswer answer ≠ .acquired :=
        fun heq => hanswer (ofAnswer_eq_acquired.mp heq)
      split at h
      · next heq => exact absurd heq hrefused
      · obtain rfl := Option.some.inj h
        exact .refuse htask hphase hanswer
  | _ => simp [hphase] at h

theorem State.step_check (h : s.step? (.check number) = some s') :
    s.Step (.check number) [] s' := by
  simp only [State.step?, Option.bind_eq_bind, Option.bind_eq_some_iff] at h
  obtain ⟨loop, hloop, h⟩ := h
  split at h
  · next hphase =>
    split at h
    · next hunsubscribed =>
      obtain rfl := Option.some.inj h
      exact .giveUp hloop hphase hunsubscribed
    · next hunsubscribed =>
      obtain rfl := Option.some.inj h
      exact .goOn hloop hphase (by simpa using hunsubscribed)
  · simp at h

theorem State.step_subscribeReply {reply : Except Transport.Error Unit}
    (h : s.step? (.subscribeReply number reply) = some s') :
    s.Step (.subscribeReply number reply) [] s' := by
  simp only [State.step?, Option.bind_eq_bind, Option.bind_eq_some_iff] at h
  obtain ⟨loop, hloop, h⟩ := h
  split at h
  · next hphase =>
    cases reply with
    | ok answer =>
      obtain rfl := Option.some.inj h
      exact .subscribed hloop hphase
    | error e =>
      obtain rfl := Option.some.inj h
      exact .notSubscribed hloop hphase
  · simp at h

theorem State.step_enter (h : s.step? .enter = some s') :
    s.Step .enter [] s' := by
  simp only [State.step?, State.enter?] at h
  split at h
  · next hfree hturns =>
    split at h
    · next hclosed =>
      obtain rfl := Option.some.inj h
      exact .enterClosed hfree hturns hclosed
    · next hopen =>
      obtain rfl := Option.some.inj h
      exact .enter hfree hturns (by simpa using hopen)
  · simp at h

theorem State.step_unsubscribeReply {reply : Except Transport.Error Unit}
    (h : s.step? (.unsubscribeReply reply) = some s') :
    s.Step (.unsubscribeReply reply) [] s' := by
  simp only [State.step?] at h
  split at h
  · next hclosing =>
    cases reply with
    | ok answer =>
      obtain rfl := Option.some.inj h
      exact .unsubscribed hclosing
    | error e =>
      obtain rfl := Option.some.inj h
      exact .notUnsubscribed hclosing
  · simp at h

/-- Every step is one of the cases, and writes down what it does. -/
theorem State.step_cases (h : s.step? a = some s') :
    s.Step a (s.entries a) s' := by
  cases a with
  | dispatch event =>
    obtain rfl := Option.some.inj h
    cases event with
    | connected => exact .connected
    | lost reason => exact .lost reason
    | message topic payload =>
      cases hsender : s.sender with
      | true => simpa [State.entries, State.dispatch, hsender] using
          State.Step.accept topic payload hsender
      | false => simpa [State.entries, State.dispatch, hsender] using
          State.Step.drop topic payload hsender
  | judge ticket => exact State.step_judge h
  | lockReply ticket answer => exact State.step_lockReply h
  | queueUp ticket =>
    simp only [State.step?, Option.bind_eq_bind, Option.bind_eq_some_iff] at h
    obtain ⟨task, htask, h⟩ := h
    cases hphase : task.phase with
    | locked command =>
      simp only [hphase, Option.some.injEq] at h
      subst h
      exact .queueUp htask hphase
    | _ => simp [hphase] at h
  | send => exact State.step_sendFirst h
  | receive =>
    simp only [State.step?] at h
    split at h
    · next hreceiver hqueue =>
      obtain rfl := Option.some.inj h
      simpa [State.entries, hqueue] using State.Step.receive hqueue hreceiver
    · simp at h
  | dropReceiver =>
    simp only [State.step?] at h
    split at h
    · next hreceiver =>
      obtain rfl := Option.some.inj h
      exact .dropReceiver hreceiver
    · simp at h
  | check number => exact State.step_check h
  | subscribe number =>
    simp only [State.step?, Option.bind_eq_bind, Option.bind_eq_some_iff] at h
    obtain ⟨loop, hloop, h⟩ := h
    split at h
    · next hphase =>
      obtain rfl := Option.some.inj h
      exact .subscribe hloop hphase
    · simp at h
  | subscribeReply number reply => exact State.step_subscribeReply h
  | wake number =>
    simp only [State.step?, Option.bind_eq_bind, Option.bind_eq_some_iff] at h
    obtain ⟨loop, hloop, h⟩ := h
    split at h
    · next hphase =>
      obtain rfl := Option.some.inj h
      exact .wake hloop hphase
    · simp at h
  | close =>
    obtain rfl := Option.some.inj h
    exact .close
  | enter => exact State.step_enter h
  | unsubscribeReply reply => exact State.step_unsubscribeReply h
  | mark =>
    simp only [State.step?] at h
    split at h
    · next hclosing =>
      obtain rfl := Option.some.inj h
      exact .mark hclosing
    · simp at h
  | detach =>
    simp only [State.step?] at h
    split at h
    · next hclosing =>
      obtain rfl := Option.some.inj h
      exact .detach hclosing
    · simp at h
  | drained =>
    simp only [State.step?] at h
    split at h
    · next hclosing =>
      split at h
      · next hdone =>
        obtain rfl := Option.some.inj h
        exact .drained hclosing hdone
      · simp at h
    · simp at h
  | disconnectReply reply =>
    simp only [State.step?] at h
    split at h
    · next hclosing =>
      obtain rfl := Option.some.inj h
      exact .disconnected hclosing
    · simp at h

/-- Every case is a step that is possible. -/
theorem State.Step.possible (h : s.Step a es s') : s.step? a = some s' := by
  cases h with
  | accept topic payload hopen => simp [State.step?, State.dispatch, hopen]
  | drop topic payload hshut => simp [State.step?, State.dispatch, hshut]
  | connected | lost | close => rfl
  | reject htask hphase hjudge =>
    simp only [State.step?, htask, hphase, Option.bind_eq_bind, Option.bind_some]
  | ask htask hphase hjudge => simp [State.step?, htask, hphase, hjudge]
  | refuse htask hphase hanswer =>
    simp only [State.step?, htask, hphase, Option.bind_eq_bind, Option.bind_some]
    split
    · next heq => exact absurd (ofAnswer_eq_acquired.mp heq) hanswer
    · rfl
  | acquire htask hphase =>
    simp [State.step?, htask, hphase, ofAnswer_eq_acquired.mpr rfl]
  | queueUp htask hphase => simp [State.step?, htask, hphase, State.endTask]
  | forward hline hreceiver hroom =>
    simp [State.step?, State.sendFirst?, hline, hreceiver, hroom]
  | discard hline hreceiver => simp [State.step?, State.sendFirst?, hline, hreceiver]
  | receive hqueue hreceiver => simp [State.step?, hqueue, hreceiver]
  | dropReceiver hreceiver => simp [State.step?, hreceiver]
  | giveUp hloop hphase hunsubscribed | goOn hloop hphase hunsubscribed =>
    simp [State.step?, hloop, hphase, hunsubscribed]
  | subscribe hloop hphase | subscribed hloop hphase | notSubscribed hloop hphase
  | wake hloop hphase => simp [State.step?, hloop, hphase]
  | enterClosed hfree hturns hclosed | enter hfree hturns hclosed =>
    simp [State.step?, State.enter?, hfree, hturns, hclosed]
  | unsubscribed hclosing | notUnsubscribed hclosing | mark hclosing | detach hclosing
  | disconnected hclosing => simp [State.step?, hclosing]
  | drained hclosing hdone => simp [State.step?, hclosing, hdone]

/-! ### What the cases say -/

/-- An answer is written down when it comes. -/
theorem State.Step.eq_lockReply (h : s.Step a es s') {answer : Except Lock.StoreError Bool}
    (hmem : .answered t answer ∈ es) : a = .lockReply t answer := by
  cases h with
  | refuse | acquire =>
    simp only [List.mem_singleton, Entry.answered.injEq] at hmem
    obtain ⟨rfl, rfl⟩ := hmem
    rfl
  | _ => simp at hmem

/-- Whoever receives has received all along, and while somebody receives no command comes to
    nothing on its way. -/
theorem State.Step.receiver (h : s.Step a es s') (hreceiver : s'.receiver = true) :
    s.receiver = true ∧ ∀ command, .discarded t command ∉ es ∧ .lost t command ∉ es := by
  cases h with
  | discard hline hnobody =>
    have hsome : s.receiver = true := hreceiver
    simp [hsome] at hnobody
  | receive hqueue hreceives => exact ⟨hreceives, by simp⟩
  | dropReceiver hreceives => simp at hreceiver
  | _ => exact ⟨hreceiver, by simp⟩

end LoraBridge.Handler
