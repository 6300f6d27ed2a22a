import LoraBridge.Proofs.Handler.Sharing
import LoraBridge.Proofs.Handler.Shutdown

/-! # What a closed handler leaves to others

  A handler whose sender was taken away drops messages without asking for their locks. So a
  command that it drops is still free for every other handler that receives it.

  - `exists_forward`: what waits in line can be forwarded while somebody receives.
  - `Peers.exists_run_of_part`: a handler can do among others what it can do alone.
  - `Peers.exists_forward`: a handler that is open can forward a command whose lock is free.
  - `close_is_final`: what closing a handler ends, and what it leaves to others.
-/

namespace LoraBridge.Handler

/-! ### From the line to the queue -/

/-- Whether an action is not an answer of the lock store. -/
def Action.isOwn : Action → Bool
  | .lockReply _ _ => false
  | _ => true

section

variable {s : State} {ticket : Nat} {task : Task} {waiter : Waiter} {topic : String}
  {payload : Bytes} {command : Command}

/-- The network server can receive everything that is on the queue. -/
theorem exists_room (hreceiver : s.receiver = true) :
    ∃ more, Run State.step? s more { s with queue := [] } ∧ ∀ e ∈ more, e.2.isOwn = true := by
  -- by induction on the queue, from which one command after the other is received
  obtain ⟨queue, hqueue⟩ : ∃ queue, s.queue = queue := ⟨_, rfl⟩
  induction queue generalizing s with
  | nil =>
    have hsame : s = { s with queue := [] } := hqueue ▸ rfl
    exact ⟨[], hsame ▸ .refl, by simp⟩
  | cons e queue ih =>
    have hstep : s.step? .receive = some { s with queue } := State.step?_receive hreceiver hqueue
    obtain ⟨more, hrun, hown⟩ := ih (s := { s with queue }) hreceiver rfl
    refine ⟨(s, .receive) :: more, (Run.single hstep).append hrun, ?_⟩
    exact List.forall_mem_cons.mpr ⟨rfl, hown⟩

theorem State.step?_send {line : List Waiter} (hline : s.line = waiter :: line)
    (hreceiver : s.receiver = true) (hqueue : s.queue = []) :
    s.step? .send = some { s with line, queue := [(waiter.ticket, waiter.command)] } := by
  simp [State.step?, State.sendFirst?, hline, hreceiver, hqueue, queueCapacity]

/-- While the network server receives, what waits in line can be forwarded. -/
theorem exists_forward (hreceiver : s.receiver = true) (hline : waiter ∈ s.line) :
    ∃ more s', Run State.step? s more s' ∧ (∀ e ∈ more, e.2.isOwn = true) ∧
      .forwarded waiter.ticket waiter.command ∈ record more := by
  -- by induction on those that stand before it in line
  obtain ⟨before, after, hsplit⟩ := List.append_of_mem hline
  induction before generalizing s with
  | nil =>
    obtain ⟨more, hroom, hown⟩ := exists_room hreceiver
    have hsend := State.step?_send (s := { s with queue := [] }) hsplit hreceiver rfl
    refine ⟨_, _, .step hroom hsend, ?_, ?_⟩
    · exact List.forall_mem_append.mpr ⟨hown, by simp [Action.isOwn]⟩
    · rw [record_append, record_single]
      simp [State.entries, hsplit, hreceiver]
  | cons first before ih =>
    -- whoever is first in line goes first
    obtain ⟨more, hroom, hown⟩ := exists_room hreceiver
    have hsend := State.step?_send (s := { s with queue := [] }) hsplit hreceiver rfl
    obtain ⟨rest, s', hrun, hown', hforwarded⟩ := ih
      (s := { s with line := before ++ waiter :: after, queue := [(first.ticket, first.command)] })
      hreceiver (by simp) rfl
    refine ⟨_, s', (Run.step hroom hsend).append hrun, ?_, ?_⟩
    · refine List.forall_mem_append.mpr ⟨List.forall_mem_append.mpr ⟨hown, ?_⟩, hown'⟩
      simp [Action.isOwn]
    · rw [record_append]
      exact List.mem_append_right _ hforwarded

/-- A task that has its lock can put its command on the queue. -/
theorem exists_forward_of_locked (htask : s.task? ticket = some task)
    (hphase : task.phase = .locked command) (hreceiver : s.receiver = true) :
    ∃ more s', Run State.step? s more s' ∧ (∀ e ∈ more, e.2.isOwn = true) ∧
      .forwarded ticket command ∈ record more := by
  let waiter : Waiter := { ticket, topic := task.topic, command }
  let s₁ : State := { s.endTask ticket with line := s.line ++ [waiter] }
  have hqueueUp : s.step? (.queueUp ticket) = some s₁ := by
    simp [State.step?, htask, hphase, s₁, waiter, State.endTask]
  have hline : waiter ∈ s₁.line := List.mem_append_right _ (List.mem_singleton_self _)
  obtain ⟨more, s', hrun, hown, hforwarded⟩ := exists_forward (s := s₁) hreceiver hline
  refine ⟨(s, .queueUp ticket) :: more, s', (Run.single hqueueUp).append hrun, ?_, ?_⟩
  · exact List.forall_mem_cons.mpr ⟨rfl, hown⟩
  · exact List.mem_append_right _ hforwarded

/-- A handler that takes messages accepts a command and asks for its lock. -/
theorem exists_asking (hn : s.Numbered) (hopen : s.sender = true)
    (hjudge : judge topic payload = .command command) :
    ∃ more s', Run State.step? s more s' ∧ (∀ e ∈ more, e.2.isOwn = true) ∧
      .accepted s.nextTicket topic payload ∈ record more ∧ s'.receiver = s.receiver ∧
      s'.task? s.nextTicket =
        some { ticket := s.nextTicket, topic, payload, phase := .locking command } := by
  let task : Task := { ticket := s.nextTicket, topic, payload }
  let s₁ : State := { s with tasks := s.tasks ++ [task], nextTicket := s.nextTicket + 1 }
  have hdispatch : s.step? (.dispatch (.message topic payload)) = some s₁ := by
    simp [State.step?, State.dispatch, hopen, s₁, task]
  have htask : s₁.task? s.nextTicket = some task := hn.task?_next task _ rfl
  have hask : s₁.step? (.judge s.nextTicket) =
      some (s₁.setTask s.nextTicket (.locking command)) := by
    simp [State.step?, htask, hjudge, task]
  refine ⟨_, _, (Run.single hdispatch).append (Run.single hask), ?_, ?_, rfl, ?_⟩
  · simp [Action.isOwn]
  · rw [record_append, record_single]
    simp [State.entries, hopen]
  · exact State.task?_setTask_self htask

end

/-! ### Alone and among others -/

namespace Peers

variable {p : Peers} {i j : Nat} {s s' : State} {a : Handler.Action}

theorem set_self (hi : p.handlers[i]? = some s) :
    { p with handlers := p.handlers.set i s } = p := by
  rw [set_of_getElem? hi]

theorem step?_handler (hi : p.handlers[i]? = some s) (hallows : p.allows i a = true)
    (hstep : s.step? a = some s') :
    p.step? (.handler i a) = some { p with handlers := p.handlers.set i s' } := by
  simp [step?, hi, hallows, hstep]

theorem step?_call {ticket : Nat} {key : String} (hasking : p.asking? i ticket = some key)
    (hfree : p.store.isLive key p.now = false) :
    p.step? (.call i ticket) = some (p.carryOut i ticket key (.ok true)
      (p.store.lock key (p.now + Lock.commandTtl.millis))) := by
  simp [step?, hasking, p.store.setIfAbsent_of_not_live hfree]

theorem allows_of_isOwn (h : a.isOwn = true) : p.allows i a = true := by
  cases a with
  | lockReply ticket answer => simp [Action.isOwn] at h
  | _ => rfl

/-- A handler can do among others what it can do alone, as long as it needs no answers. -/
theorem exists_run_of_part (hi : p.handlers[i]? = some s) {more : List (State × Handler.Action)}
    (h : Run State.step? s more s') (hown : ∀ e ∈ more, e.2.isOwn = true) :
    ∃ steps, Run step? p steps { p with handlers := p.handlers.set i s' } ∧
      part i steps = more := by
  have hlt : i < p.handlers.length := (List.getElem?_eq_some_iff.mp hi).1
  induction h with
  | refl =>
    refine ⟨[], ?_, rfl⟩
    rw [set_self hi]
    exact .refl
  | @step before t b u _ now ih =>
    obtain ⟨hbefore, hlast⟩ := List.forall_mem_append.mp hown
    obtain ⟨steps, hrun, hpart⟩ := ih hbefore
    have ht : (p.handlers.set i t)[i]? = some t := List.getElem?_set_self hlt
    have hstep := step?_handler (p := { p with handlers := p.handlers.set i t }) ht
      (allows_of_isOwn (hlast _ (List.mem_singleton_self _))) now
    refine ⟨_, .step hrun (by simpa using hstep), ?_⟩
    rw [part_append, hpart]
    simp [part, part?, ht]

/-! ### What is left to others -/

variable {n : Nat} {store : Lock.Register} {now : Int} {steps : List (Peers × Action)}
  {topic : String} {payload : Bytes} {command : Command}

/-- A message that a handler has not got yet has not called the store. -/
theorem hasCalled_next (h : Run step? (start n store now) steps p)
    (hi : p.handlers[i]? = some s) : p.hasCalled i s.nextTicket = false := by
  have hrun : Run State.step? {} (part i steps) s := by
    simpa [hi] using run_part h i
  have hstory := story_of_run hrun s.nextTicket
  rw [(numbered_of_run hrun).place_next] at hstory
  rw [hasCalled, List.any_eq_false]
  intro x hx hcall
  obtain ⟨rfl, hticket⟩ : x.handler = i ∧ x.ticket = s.nextTicket := by simpa using hcall
  have hasked := mem_about_part (asked_of_call h hx) rfl
  rw [hticket] at hasked
  generalize about s.nextTicket (Handler.record (part x.handler steps)) = es at hstory hasked
  cases hstory
  cases hasked

/-- A handler that takes messages can forward a command whose lock is free. -/
theorem exists_forward (h : Run step? (start n store now) steps p)
    (hi : p.handlers[i]? = some s) (hopen : s.sender = true) (hreceiver : s.receiver = true)
    (hjudge : judge topic payload = .command command)
    (hfree : p.store.isLive (lockKey command) p.now = false) :
    ∃ more p', Run step? p more p' ∧
      (i, .accepted s.nextTicket topic payload) ∈ record more ∧
      (i, .forwarded s.nextTicket command) ∈ record more := by
  have hlt : i < p.handlers.length := (List.getElem?_eq_some_iff.mp hi).1
  have hn : s.Numbered := numbered_of_run (by simpa [hi] using run_part h i)
  -- the message is accepted and asks for its lock
  obtain ⟨more₁, s₁, hrun₁, hown₁, haccepted, hreceiver₁, htask₁⟩ :=
    exists_asking hn hopen hjudge
  obtain ⟨steps₁, hpeers₁, hpart₁⟩ := exists_run_of_part hi hrun₁ hown₁
  -- the store grants it
  let p₁ : Peers := { p with handlers := p.handlers.set i s₁ }
  have hi₁ : p₁.handlers[i]? = some s₁ := List.getElem?_set_self hlt
  have hcalled : p.hasCalled i s.nextTicket = false := hasCalled_next h hi
  have hasking : p₁.asking? i s.nextTicket = some (lockKey command) :=
    asking?_eq_some.mpr ⟨s₁, _, command, hi₁, htask₁, rfl, hcalled, rfl⟩
  have hcall := step?_call hasking hfree
  generalize hp₂ : p₁.carryOut i s.nextTicket (lockKey command) (.ok true) _ = p₂ at hcall
  -- it gets the answer
  let s₂ := s₁.setTask s.nextTicket (.locked command)
  have hanswer : s₁.step? (.lockReply s.nextTicket (.ok true)) = some s₂ := by
    simp [State.step?, htask₁, Lock.Outcome.ofAnswer, s₂]
  have hallows : p₂.allows i (.lockReply s.nextTicket (.ok true)) = true := by
    simp [allows, ← hp₂, carryOut]
  have hi₂ : p₂.handlers[i]? = some s₁ := hp₂ ▸ hi₁
  have hreply := step?_handler hi₂ hallows hanswer
  -- and the rest is up to the handler
  have htask₂ : s₂.task? s.nextTicket =
      some { ticket := s.nextTicket, topic, payload, phase := .locked command } :=
    State.task?_setTask_self htask₁
  obtain ⟨more₂, s₃, hrun₂, hown₂, hforwarded⟩ :=
    exists_forward_of_locked htask₂ rfl (hreceiver₁.trans hreceiver)
  have hi₃ : (p₂.handlers.set i s₂)[i]? = some s₂ :=
    List.getElem?_set_self (List.getElem?_eq_some_iff.mp hi₂).1
  obtain ⟨steps₂, hpeers₂, hpart₂⟩ :=
    exists_run_of_part (p := { p₂ with handlers := p₂.handlers.set i s₂ }) hi₃ hrun₂ hown₂
  refine ⟨_, _, ((hpeers₁.step hcall).step hreply).append hpeers₂, ?_, ?_⟩
  · have hmem : (i, .accepted s.nextTicket topic payload) ∈ record steps₁ :=
      mem_record_part.mp (hpart₁ ▸ haccepted)
    simp only [record_append, List.mem_append]
    exact .inl (.inl (.inl hmem))
  · have hmem : (i, .forwarded s.nextTicket command) ∈ record steps₂ :=
      mem_record_part.mp (hpart₂ ▸ hforwarded)
    simp only [record_append, List.mem_append]
    exact .inr hmem

end Peers

/-- Once a call that closes a handler has returned without an error, nothing is in flight, and
    whatever happens from then on is an `Aftermath`. Already when the sender has been taken away,
    a message that is dispatched is dropped and changes nothing, neither in the handler nor in the
    lock store; so every other handler that takes messages can forward its command, if it is one
    whose lock is free. -/
theorem close_is_final {steps : List (State × Action)} {s : State}
    (h : Run State.step? {} steps s) :
    (∀ call : Nat, s.returns[call]? = some (some (.ok ())) →
        s.inFlight = 0 ∧ ∀ more s', Run State.step? s more s' → Aftermath s more s') ∧
      ∀ r, (r, .detach) ∈ steps → ∀ topic payload,
        s.step? (.dispatch (.message topic payload)) = some s ∧
        s.entries (.dispatch (.message topic payload)) = [.dropped topic payload] ∧
        ∀ n store now others p i, Run Peers.step? (.start n store now) others p →
          p.handlers[i]? = some s →
          p.step? (.handler i (.dispatch (.message topic payload))) = some p ∧
          ∀ j sibling command, p.handlers[j]? = some sibling → sibling.sender = true →
            sibling.receiver = true → judge topic payload = .command command →
            p.store.isLive (lockKey command) p.now = false →
            ∃ more p', Run Peers.step? p more p' ∧
              (j, .accepted sibling.nextTicket topic payload) ∈ Peers.record more ∧
              (j, .forwarded sibling.nextTicket command) ∈ Peers.record more := by
  constructor
  · intro call hreturned
    have hquiet := quiet_of_returned h hreturned
    exact ⟨hquiet.inFlight, fun more s' => hquiet.aftermath⟩
  · intro r hdetach topic payload
    obtain ⟨hstep, hdropped⟩ :=
      State.step?_dispatch_of_shut (sender_of_detached h hdetach) topic payload
    refine ⟨hstep, hdropped, ?_⟩
    intro n store now others p i hothers hi
    constructor
    · rw [Peers.step?_handler hi rfl hstep, Peers.set_self hi]
    · intro j sibling command hj hopen hreceiver hjudge hfree
      exact Peers.exists_forward hothers hj hopen hreceiver hjudge hfree

/-! ### An example -/

/-- A handler is closed while it has a command. It puts the command on the queue before the call
    returns. -/
def closedWithCommand : List Action :=
  [.dispatch (.message sampleTopic samplePayload), .judge 0, .close, .enter,
    .unsubscribeReply (.ok ()), .mark, .detach, .lockReply 0 (.ok true), .queueUp 0, .send,
    .drained, .disconnectReply (.ok ())]

/-- The handler in the end. -/
def closedState : State :=
  { sender := false, queue := [(0, sampleCommand)], nextTicket := 1, unsubscribed := true,
    closed := true, returns := [some (.ok ())] }

/-- The same, with another handler at its side, until the lock has expired. -/
def closedBesideOther : List Peers.Action :=
  (closedWithCommand.take 2).map (.handler 0 ·) ++ [.call 0 0] ++
    (closedWithCommand.drop 2).map (.handler 0 ·) ++ [.tick 100]

theorem close_is_final_withCommand :
    ∃ steps, Run State.step? {} steps closedState ∧ closedState.inFlight = 0 ∧
      (∀ more s', Run State.step? closedState more s' → Aftermath closedState more s') ∧
      closedState.step? (.dispatch (.message sampleTopic samplePayload)) = some closedState ∧
      ∃ others p more p', Run Peers.step? (.start 2 ⟨fun _ => none⟩ 0) others p ∧
        p.handlers[0]? = some closedState ∧ Run Peers.step? p more p' ∧
        (1, .forwarded 0 sampleCommand) ∈ Peers.record more := by
  have halone : (Run.steps? State.step? {} closedWithCommand).map (fun run =>
      ((run.1.map (·.2))[6]?, run.2)) = some (some .detach, closedState) := rfl
  have hbeside : (Run.steps? Peers.step? (.start 2 ⟨fun _ => none⟩ 0) closedBesideOther).map
      (fun run => (run.2.handlers, run.2.store.isLive (lockKey sampleCommand) run.2.now)) =
      some ([closedState, {}], false) := rfl
  obtain ⟨⟨steps, s⟩, hrun, hfacts⟩ := Option.map_eq_some_iff.mp halone
  simp only [Prod.mk.injEq] at hfacts
  obtain ⟨hsixth, rfl⟩ := hfacts
  obtain ⟨⟨others, p⟩, hothers, hfacts⟩ := Option.map_eq_some_iff.mp hbeside
  simp only [Prod.mk.injEq] at hfacts
  obtain ⟨hhandlers, hfree⟩ := hfacts
  obtain ⟨⟨r, a⟩, hdetach, rfl⟩ := List.mem_map.mp (List.mem_of_getElem? hsixth)
  have h := Run.of_steps? hrun
  have h' := Run.of_steps? hothers
  have hfirst : p.handlers[0]? = some closedState := by rw [hhandlers]; rfl
  have hsecond : p.handlers[1]? = some ({} : State) := by rw [hhandlers]; rfl
  obtain ⟨hreturned, hlate⟩ := close_is_final h
  obtain ⟨hidle, haftermath⟩ := hreturned 0 rfl
  obtain ⟨hdropped, -, hleft⟩ := hlate r hdetach sampleTopic samplePayload
  obtain ⟨-, hsibling⟩ := hleft _ _ _ _ _ _ h' hfirst
  obtain ⟨more, p', hmore, -, hforwarded⟩ := hsibling 1 _ sampleCommand hsecond rfl rfl rfl hfree
  exact ⟨steps, h, hidle, haftermath, hdropped, others, p, more, p', h', hfirst, hmore, hforwarded⟩

end LoraBridge.Handler
