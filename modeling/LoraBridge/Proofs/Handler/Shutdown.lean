import LoraBridge.Proofs.Handler.Gate
import Mathlib.Data.List.Basic

/-! # Closing a handler

  A call that closes the handler takes the queue's sender away, waits until nothing is in flight,
  and only then drops the sender and ends the session. What holds on the way is
  `State.Orderly`; what holds ever after some call has returned without an error is `State.Quiet`.

  - `State.Orderly.step`: every step goes about it in this order.
  - `State.Quiet.step`: a handler that is quiet stays so, and puts nothing on the queue.
  - `sender_of_detached`: the sender does not come back.
-/

namespace LoraBridge.Handler

variable {s s' : State} {a : Action} {es : List Entry} {steps more : List (State × Action)}
  {call : Nat}

/-! ### Handlers that are closed -/

/-- A handler that is closed does not handle any messages. -/
structure State.Quiet (s : State) : Prop where
  sender : s.sender = false
  tasks : s.tasks = []
  line : s.line = []
  closing : s.closing? = none
  closed : s.closed = true

/-- Whether an entry is about what a closed handler does: it drops messages, and what is on its
    queue may still be received. -/
def Entry.isLate : Entry → Bool
  | .dropped _ _ => true
  | .received _ _ => true
  | .lost _ _ => true
  | _ => false

theorem State.Quiet.inFlight (hs : s.Quiet) : s.inFlight = 0 :=
  State.inFlight_eq_zero.mpr ⟨hs.tasks, hs.line⟩

theorem State.Quiet.task? (hs : s.Quiet) (ticket : Nat) : s.task? ticket = none := by
  simp [State.task?, hs.tasks]

/-- A handler that is closed remains so. -/
theorem State.Quiet.step (hs : s.Quiet) (h : s.Step a es s') :
    s'.Quiet ∧ ∀ e ∈ es, e.isLate = true := by
  -- there is no task, nobody in line and no call whose turn it is that could take a step
  cases h with
  | accept topic payload hopen => simp [hs.sender] at hopen
  | reject htask | ask htask | refuse htask | acquire htask | queueUp htask =>
    simp [hs.task?] at htask
  | forward hline | discard hline => simp [hs.line] at hline
  | enter hfree hturns hopen => simp [hs.closed] at hopen
  | unsubscribed hclosing | notUnsubscribed hclosing | mark hclosing | detach hclosing
  | drained hclosing | disconnected hclosing => simp [hs.closing] at hclosing
  | enterClosed hfree hturns hclosed =>
    exact ⟨⟨hs.sender, hs.tasks, hs.line, rfl, hclosed⟩, by simp⟩
  | drop topic payload hshut => exact ⟨hs, by simp [Entry.isLate]⟩
  | receive hqueue hreceiver =>
    exact ⟨⟨hs.sender, hs.tasks, hs.line, hs.closing, hs.closed⟩, by simp [Entry.isLate]⟩
  | dropReceiver hreceiver =>
    refine ⟨⟨hs.sender, hs.tasks, hs.line, hs.closing, hs.closed⟩, ?_⟩
    intro e he
    obtain ⟨waiting, -, rfl⟩ := List.mem_map.mp he
    rfl
  | _ => exact ⟨⟨hs.sender, hs.tasks, hs.line, hs.closing, hs.closed⟩, by simp⟩

theorem State.Quiet.of_run (hs : s.Quiet) (h : Run State.step? s more s') :
    s'.Quiet ∧ ∀ e ∈ record more, e.isLate = true := by
  induction h with
  | refl => exact ⟨hs, by simp⟩
  | step _ now ih =>
    obtain ⟨hquiet, hlate⟩ := ih.1.step (State.step_cases now)
    refine ⟨hquiet, ?_⟩
    intro e he
    rw [record_append, record_single, List.mem_append] at he
    exact he.elim (ih.2 e) (hlate e)

/-! ### How they get there -/

/-- What a call that closes the handler has done so far. -/
structure State.Orderly (s : State) : Prop where
  /-- While it waits, the sender has been taken away. -/
  shut : ∀ call, s.closing? = some (call, .draining) ∨ s.closing? = some (call, .disconnecting) →
    s.sender = false
  /-- While it ends the session, nothing is in flight. -/
  idle : ∀ call, s.closing? = some (call, .disconnecting) → s.inFlight = 0
  quiet : s.closed = true → s.Quiet
  /-- Calls return when the handler is closed, or with an error. -/
  returned : ∀ call : Nat, s.returns[call]? = some (some (.ok ())) → s.closed = true

theorem State.Orderly.start : State.Orderly {} := by
  constructor <;> simp

/-- Nobody closes a handler that has something in flight, or one that takes messages. -/
theorem State.Orderly.of_busy (hs : s.Orderly) (hbusy : s.inFlight ≠ 0 ∨ s.sender = true)
    (hsender : s'.sender = s.sender) (hclosing : s'.closing? = s.closing?)
    (hclosed : s'.closed = s.closed) (hreturns : s'.returns = s.returns) : s'.Orderly := by
  have hopen : s.closed = false := by
    cases hclosed : s.closed with
    | false => rfl
    | true =>
      have hquiet := hs.quiet hclosed
      rcases hbusy with hbusy | hbusy
      · exact absurd hquiet.inFlight hbusy
      · simp [hquiet.sender] at hbusy
  constructor
  · intro call h
    rw [hsender]
    exact hs.shut call (hclosing ▸ h)
  · intro call h
    rw [hclosing] at h
    rcases hbusy with hbusy | hbusy
    · exact absurd (hs.idle call h) hbusy
    · simp [hs.shut call (.inr h)] at hbusy
  · intro h
    simp [hclosed, hopen] at h
  · intro call h
    rw [hclosed]
    exact hs.returned call (hreturns ▸ h)

theorem State.inFlight_of_task {ticket : Nat} {task : Task} (h : s.task? ticket = some task) :
    s.inFlight ≠ 0 := by
  intro hidle
  have hmem := (ticket_of_task? h).1
  simp [(State.inFlight_eq_zero.mp hidle).1] at hmem

theorem State.inFlight_of_line {waiter : Waiter} {line : List Waiter}
    (h : s.line = waiter :: line) : s.inFlight ≠ 0 := by
  intro hidle
  simp [(State.inFlight_eq_zero.mp hidle).2] at h

/-- A handler whose call is not over is not closed. -/
theorem State.Orderly.not_closed (hs : s.Orderly) {closing : Nat × Closing}
    (h : s.closing? = some closing) : s.closed = false := by
  cases hclosed : s.closed with
  | false => rfl
  | true => simp [(hs.quiet hclosed).closing] at h

/-- What a call has returned, after one of them has. -/
theorem returned_of_set {returns : List (Option (Except Error Unit))} {number : Nat}
    {result : Except Error Unit}
    (h : (returns.set number (some result))[call]? = some (some (.ok ()))) :
    result = .ok () ∨ returns[call]? = some (some (.ok ())) := by
  rw [List.getElem?_set] at h
  split at h
  · split at h
    · exact .inl (by simpa using h)
    · simp at h
  · exact .inr h

theorem State.Orderly.step (hs : s.Orderly) (h : s.Step a es s') : s'.Orderly := by
  cases h with
  | accept topic payload hopen => exact hs.of_busy (.inr hopen) rfl rfl rfl rfl
  -- what handles messages only takes steps before the call has come to its end
  | reject htask | ask htask | refuse htask | acquire htask | queueUp htask =>
    exact hs.of_busy (.inl (State.inFlight_of_task htask)) rfl rfl rfl rfl
  | forward hline | discard hline =>
    exact hs.of_busy (.inl (State.inFlight_of_line hline)) rfl rfl rfl rfl
  | drop topic payload hshut => exact hs
  | close =>
    refine ⟨hs.shut, hs.idle, ?_, ?_⟩
    · intro hclosed
      have hquiet := hs.quiet hclosed
      exact ⟨hquiet.sender, hquiet.tasks, hquiet.line, hquiet.closing, hclosed⟩
    · intro call hreturned
      rw [List.getElem?_append] at hreturned
      split at hreturned
      · exact hs.returned call hreturned
      · have hnew := List.mem_of_getElem? hreturned
        simp at hnew
  | enterClosed hfree hturns hclosed =>
    have hquiet := hs.quiet hclosed
    refine ⟨by simp [State.finish], by simp [State.finish], ?_, fun _ _ => hclosed⟩
    intro _
    exact ⟨hquiet.sender, hquiet.tasks, hquiet.line, rfl, hclosed⟩
  | enter hfree hturns hopen =>
    exact ⟨by simp, by simp, by simp [hopen], hs.returned⟩
  | unsubscribed hclosing | mark hclosing =>
    have hopen := hs.not_closed hclosing
    exact ⟨by simp, by simp, by simp [hopen], hs.returned⟩
  | notUnsubscribed hclosing =>
    have hopen := hs.not_closed hclosing
    refine ⟨by simp [State.finish], by simp [State.finish], by simp [State.finish, hopen], ?_⟩
    intro call hreturned
    rcases returned_of_set hreturned with herror | hreturned
    · simp at herror
    · exact hs.returned call hreturned
  | detach hclosing =>
    have hopen := hs.not_closed hclosing
    exact ⟨fun _ _ => rfl, by simp, by simp [hopen], hs.returned⟩
  | drained hclosing hdone =>
    have hopen := hs.not_closed hclosing
    have hshut := hs.shut _ (.inl hclosing)
    exact ⟨fun _ _ => hshut, fun _ _ => hdone, by simp [hopen], hs.returned⟩
  | disconnected hclosing =>
    -- the sender was taken away and nothing was in flight when the session was to be ended
    have hshut := hs.shut _ (.inr hclosing)
    obtain ⟨htasks, hline⟩ := State.inFlight_eq_zero.mp (hs.idle _ hclosing)
    refine ⟨by simp [State.finish], by simp [State.finish], ?_, fun _ _ => rfl⟩
    intro _
    exact ⟨hshut, htasks, hline, rfl, rfl⟩
  | _ =>
    -- loops and the network server have no part in it
    refine ⟨hs.shut, hs.idle, ?_, hs.returned⟩
    intro hclosed
    have hquiet := hs.quiet hclosed
    exact ⟨hquiet.sender, hquiet.tasks, hquiet.line, hquiet.closing, hclosed⟩

theorem orderly_of_run (h : Run State.step? {} steps s) : s.Orderly :=
  h.invariant State.Orderly.start fun hs now => hs.step (State.step_cases now)

/-- Once a call has returned without an error, the handler is quiet. -/
theorem quiet_of_returned (h : Run State.step? {} steps s)
    (hreturned : s.returns[call]? = some (some (.ok ()))) : s.Quiet := by
  have horderly := orderly_of_run h
  exact horderly.quiet (horderly.returned call hreturned)

/-! ### The sender -/

theorem State.Step.sender (h : s.Step a es s') (hshut : s.sender = false) :
    s'.sender = false := by
  cases h with
  | detach hclosing => rfl
  | _ => exact hshut

/-- The sender that was taken away does not come back. -/
theorem sender_of_detached {start r : State} (h : Run State.step? start steps s)
    (hmem : (r, .detach) ∈ steps) : s.sender = false := by
  induction h with
  | refl => cases hmem
  | @step steps s a s' _ now ih =>
    have hcase := State.step_cases now
    rcases List.mem_append.mp hmem with hmem | hmem
    · exact hcase.sender (ih hmem)
    · obtain ⟨-, rfl⟩ := Prod.mk.inj (List.mem_singleton.mp hmem)
      cases hcase with
      | detach hclosing => rfl

/-! ### What the network server sees -/

/-- The command that an entry says was received. -/
def Entry.received? : Entry → Option (Nat × Command)
  | .received ticket command => some (ticket, command)
  | _ => none

/-- What has been received since, followed by what is left, is what was on the queue. -/
theorem State.Quiet.received_eq (hs : s.Quiet) (h : Run State.step? s more s')
    (hreceiver : s'.receiver = true) :
    (record more).filterMap Entry.received? ++ s'.queue = s.queue := by
  -- nothing comes to the queue, and nothing is lost as long as somebody receives
  have hlate := (hs.of_run h).2
  have hforwarded : (record more).filterMap Entry.forwarded? = [] := by
    rw [List.filterMap_eq_nil_iff]
    intro e he
    cases e with
    | forwarded ticket command => simpa [Entry.isLate] using hlate _ he
    | _ => rfl
  have htaken : (record more).filterMap Entry.taken? =
      (record more).filterMap Entry.received? := by
    apply List.filterMap_congr
    intro e he
    cases e with
    | lost ticket command => exact absurd he (not_discarded h hreceiver ticket command).2
    | _ => rfl
  have hqueue := forwarded_eq h
  rw [hforwarded, htaken, List.append_nil] at hqueue
  exact hqueue.symm

theorem State.Quiet.look (hs : s.Quiet) (hreceiver : s.receiver = true) :
    s.look = match s.queue with
      | (_, command) :: _ => .command command
      | [] => .ended := by
  have hnobody : s.hasSender = false := by
    simp [State.hasSender, hs.sender, hs.tasks, hs.line, hs.closing]
  cases hqueue : s.queue <;> simp [State.look, hreceiver, hnobody, hqueue]

theorem State.step?_receive {e : Nat × Command} {queue : List (Nat × Command)}
    (hreceiver : s.receiver = true) (hqueue : s.queue = e :: queue) :
    s.step? .receive = some { s with queue } := by
  simp [State.step?, hreceiver, hqueue]

/-- What may still happen to a handler from some state on, if nothing is handled any more. -/
structure Aftermath (s : State) (more : List (State × Action)) (s' : State) : Prop where
  idle : s'.inFlight = 0
  /-- Nothing is put on the queue. -/
  not_forwarded : ∀ ticket command, .forwarded ticket command ∉ record more
  /-- The lock store is not asked for anything. -/
  not_asked : ∀ ticket key, .asked ticket key ∉ record more
  /-- What was on the queue is received in order. -/
  received : s'.receiver = true →
    (record more).filterMap Entry.received? ++ s'.queue = s.queue
  /-- The network server sees what is left of it, and then the end. -/
  look : s'.receiver = true → s'.look = match s'.queue with
    | (_, command) :: _ => .command command
    | [] => .ended
  /-- It can receive what it sees. -/
  receive : s'.receiver = true → ∀ e queue, s'.queue = e :: queue →
    s'.step? .receive = some { s' with queue }

theorem State.Quiet.aftermath (hs : s.Quiet) (h : Run State.step? s more s') :
    Aftermath s more s' := by
  obtain ⟨hquiet, hlate⟩ := hs.of_run h
  constructor
  case idle => exact hquiet.inFlight
  case not_forwarded =>
    intro ticket command he
    simpa [Entry.isLate] using hlate _ he
  case not_asked =>
    intro ticket key he
    simpa [Entry.isLate] using hlate _ he
  case received => exact hs.received_eq h
  case look => exact hquiet.look
  case receive => exact fun hreceiver e queue hqueue => State.step?_receive hreceiver hqueue

/-! ### Messages that come too late -/

/-- A handler whose sender was taken away drops messages, and nothing changes by that. -/
theorem State.step?_dispatch_of_shut (hshut : s.sender = false) (topic : String)
    (payload : Bytes) :
    s.step? (.dispatch (.message topic payload)) = some s ∧
      s.entries (.dispatch (.message topic payload)) = [.dropped topic payload] := by
  simp [State.step?, State.dispatch, State.entries, hshut]

end LoraBridge.Handler
