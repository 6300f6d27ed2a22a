import LoraBridge.Proofs.Handler.Shutdown

/-! # Where acquired commands are

  A command whose lock was acquired is the handler's own: no other handler will forward it. From
  then on it is held by its task, waits in line, is on the queue, or has left the handler, and it
  can leave in two ways only. The network server receives it, or the network server has stopped
  receiving.

  - `State.Step.balance`: what a step acquires, and what it lets go.
  - `acquired_accounted`: after any run, every command that was acquired is in one of these places.
-/

namespace LoraBridge.Handler

variable {s s' : State} {a : Action} {es : List Entry} {steps : List (State × Action)}

/-! ### Commands in the hands of the handler -/

/-- The command whose lock a step acquires, with the ticket of its message. -/
def State.acquired? (s : State) : Action → Option (Nat × Command)
  | .lockReply ticket answer =>
    match s.task? ticket, Lock.Outcome.ofAnswer answer with
    | some { phase := .locking command, .. }, .acquired => some (ticket, command)
    | _, _ => none
  | _ => none

/-- The commands whose locks were acquired in a run. -/
def acquired (steps : List (State × Action)) : List (Nat × Command) :=
  steps.filterMap fun p => p.1.acquired? p.2

/-- The command that a task holds, if it has acquired the lock. -/
def Task.held? (task : Task) : Option (Nat × Command) :=
  match task.phase with
  | .locked command => some (task.ticket, command)
  | _ => none

/-- The command of a task in line. -/
def Waiter.held (waiter : Waiter) : Nat × Command := (waiter.ticket, waiter.command)

/-- The commands in flight: their locks are acquired, and they are not on the queue yet. -/
def State.held (s : State) : List (Nat × Command) :=
  s.tasks.filterMap Task.held? ++ s.line.map Waiter.held

/-- The command that an entry says came to nothing, since nobody receives. -/
def Entry.discarded? : Entry → Option (Nat × Command)
  | .discarded ticket command => some (ticket, command)
  | .lost ticket command => some (ticket, command)
  | _ => none

/-- The ticket that an entry says got its lock. -/
def Entry.granted? : Entry → Option Nat
  | .answered ticket (.ok true) => some ticket
  | _ => none

/-! ### Steps -/

theorem filterMap_lost_received (queue : List (Nat × Command)) :
    (queue.map fun e => Entry.lost e.1 e.2).filterMap Entry.received? = [] := by
  simp [List.filterMap_map, Function.comp_def, Entry.received?]

theorem filterMap_lost_discarded (queue : List (Nat × Command)) :
    (queue.map fun e => Entry.lost e.1 e.2).filterMap Entry.discarded? = queue := by
  simp [List.filterMap_map, Function.comp_def, Entry.discarded?]

theorem State.acquired?_of_task {ticket : Nat} {task : Task} {command : Command}
    (htask : s.task? ticket = some task) (hphase : task.phase = .locking command) :
    s.acquired? (.lockReply ticket (.ok true)) = some (ticket, command) := by
  obtain ⟨number, topic, payload, phase⟩ := task
  dsimp only at hphase
  subst hphase
  simp [State.acquired?, htask, Lock.Outcome.ofAnswer]

theorem State.acquired?_of_refused {ticket : Nat} {answer : Except Lock.StoreError Bool}
    (hanswer : answer ≠ .ok true) : s.acquired? (.lockReply ticket answer) = none := by
  have hrefused : Lock.Outcome.ofAnswer answer ≠ .acquired :=
    fun heq => hanswer (ofAnswer_eq_acquired.mp heq)
  simp only [State.acquired?]
  split
  · next heq => exact absurd heq hrefused
  · rfl

/-- A task that ends, or gets in line, lets go what it holds. -/
theorem State.Numbered.held_endTask (hn : s.Numbered) {ticket : Nat} {task : Task}
    (htask : s.task? ticket = some task) :
    s.held.Perm (task.held?.toList ++ (s.endTask ticket).held) := by
  have hends := (filterMap_of_find? Task.ticket hn.nodup_tasks htask Task.held?).1
  simpa [State.held, State.endTask] using hends.append_right (s.line.map Waiter.held)

/-- A task that goes on holds what it holds in its new phase. -/
theorem State.Numbered.held_setTask (hn : s.Numbered) {ticket : Nat} {task : Task}
    (htask : s.task? ticket = some task) (phase : Task.Phase) :
    (s.setTask ticket phase).held.Perm
      (({ task with phase } : Task).held?.toList ++ (s.endTask ticket).held) := by
  have hgoes := (filterMap_of_find? Task.ticket hn.nodup_tasks htask Task.held?).2
    fun task => { task with phase }
  simpa [State.held, State.setTask, State.endTask] using
    hgoes.append_right (s.line.map Waiter.held)

/-- A task that holds nothing may end without loss. -/
theorem State.Numbered.held_endTask_of_none (hn : s.Numbered) {ticket : Nat} {task : Task}
    (htask : s.task? ticket = some task) (hnone : task.held? = none) :
    s.held.Perm (s.endTask ticket).held := by
  simpa [hnone] using hn.held_endTask htask

/-- What a step acquires comes to what the handler has; what it has no more was received or came
    to nothing. -/
theorem State.Step.balance (h : s.Step a es s') (hn : s.Numbered) :
    ((s.acquired? a).toList ++ (s.queue ++ s.held)).Perm
      (es.filterMap Entry.received? ++ (es.filterMap Entry.discarded? ++
        (s'.queue ++ s'.held))) := by
  cases h with
  | accept topic payload hopen =>
    have hheld : State.held { s with
        tasks := s.tasks ++ [{ ticket := s.nextTicket, topic, payload }],
        nextTicket := s.nextTicket + 1 } = s.held := by
      simp [State.held, List.filterMap_cons, Task.held?]
    show (s.queue ++ s.held).Perm (s.queue ++ State.held _)
    rw [hheld]
  | @reject ticket task htask hphase hjudge =>
    have hnone : task.held? = none := by simp [Task.held?, hphase]
    exact (hn.held_endTask_of_none htask hnone).append_left s.queue
  | @ask ticket task command htask hphase hjudge =>
    have hnone : task.held? = none := by simp [Task.held?, hphase]
    have hset := hn.held_setTask htask (.locking command)
    exact ((hn.held_endTask_of_none htask hnone).trans hset.symm).append_left s.queue
  | @refuse ticket task command answer htask hphase hanswer =>
    have hnone : task.held? = none := by simp [Task.held?, hphase]
    rw [State.acquired?_of_refused hanswer]
    exact (hn.held_endTask_of_none htask hnone).append_left s.queue
  | @acquire ticket task command htask hphase =>
    have hnone : task.held? = none := by simp [Task.held?, hphase]
    have hset := hn.held_setTask htask (.locked command)
    have hnow : ({ task with phase := .locked command } : Task).held? = some (ticket, command) := by
      simp [Task.held?, (ticket_of_task? htask).2]
    rw [hnow] at hset
    rw [State.acquired?_of_task htask hphase]
    -- what the task holds now is what it has acquired
    have hheld := ((hn.held_endTask_of_none htask hnone).cons (ticket, command)).trans hset.symm
    have hmiddle : ((ticket, command) :: (s.queue ++ s.held)).Perm
        (s.queue ++ (ticket, command) :: s.held) := List.perm_middle.symm
    exact hmiddle.trans (hheld.append_left s.queue)
  | @queueUp ticket task command htask hphase =>
    have hend := hn.held_endTask htask
    have hnow : task.held? = some (ticket, command) := by
      simp [Task.held?, hphase, (ticket_of_task? htask).2]
    rw [hnow] at hend
    -- the command goes from the task to the end of the line
    have hlast : State.held { s.endTask ticket with
        line := s.line ++ [{ ticket, topic := task.topic, command }] } =
        (s.endTask ticket).held ++ [(ticket, command)] := by
      simp [State.held, Waiter.held, State.endTask]
    show (s.queue ++ s.held).Perm (s.queue ++ State.held _)
    rw [hlast]
    exact (hend.trans (List.perm_append_singleton _ _).symm).append_left s.queue
  | @forward waiter line hline hreceiver hroom =>
    have hfirst : s.held.Perm (waiter.held :: State.held { s with line }) := by
      simp only [State.held, hline, List.map_cons]
      exact List.perm_middle
    show (s.queue ++ s.held).Perm (s.queue ++ [waiter.held] ++ State.held { s with line })
    rw [List.append_assoc]
    exact hfirst.append_left s.queue
  | @discard waiter line hline hreceiver =>
    have hfirst : s.held.Perm (waiter.held :: State.held { s with line }) := by
      simp only [State.held, hline, List.map_cons]
      exact List.perm_middle
    exact (hfirst.append_left s.queue).trans List.perm_middle
  | receive hqueue hreceiver =>
    rw [hqueue]
    exact .refl _
  | dropReceiver hreceiver =>
    rw [filterMap_lost_received, filterMap_lost_discarded]
    exact .refl _
  | _ => exact .refl _

theorem Entry.granted?_of_refused {ticket : Nat} {answer : Except Lock.StoreError Bool}
    (hanswer : answer ≠ .ok true) : Entry.granted? (.answered ticket answer) = none := by
  unfold Entry.granted?
  split
  · next heq => exact absurd (Entry.answered.inj heq).2 hanswer
  · rfl

/-- What a step acquires is of a message whose lock was granted. -/
theorem State.Step.acquired_ticket (h : s.Step a es s') :
    (s.acquired? a).toList.map (·.1) = es.filterMap Entry.granted? := by
  cases h with
  | refuse htask hphase hanswer =>
    rw [State.acquired?_of_refused hanswer, List.filterMap_cons_none
      (Entry.granted?_of_refused hanswer)]
    rfl
  | acquire htask hphase =>
    rw [State.acquired?_of_task htask hphase]
    rfl
  | dropReceiver hreceiver =>
    simp [State.acquired?, List.filterMap_map, Function.comp_def, Entry.granted?]
  | _ => rfl

/-- Commands are received in steps that receive them. -/
theorem State.Step.received_eq_nil (h : s.Step a es s') (ha : a ≠ .receive) :
    es.filterMap Entry.received? = [] := by
  cases h with
  | receive hqueue hreceiver => exact absurd rfl ha
  | dropReceiver hreceiver => exact filterMap_lost_received s.queue
  | _ => rfl

/-- Only the network server stops receiving. -/
theorem State.Step.receiver_eq (h : s.Step a es s') (ha : a ≠ .dropReceiver) :
    s'.receiver = s.receiver := by
  cases h with
  | dropReceiver hreceiver => exact absurd rfl ha
  | _ => rfl

/-- The queue never holds more than it can. -/
theorem State.Step.queue_le (h : s.Step a es s') (hroom : s.queue.length ≤ queueCapacity) :
    s'.queue.length ≤ queueCapacity := by
  cases h with
  | forward hline hreceiver hfree =>
    rw [List.length_append]
    exact hfree
  | receive hqueue hreceiver =>
    rw [hqueue] at hroom
    exact Nat.le_of_succ_le hroom
  | dropReceiver hreceiver => exact Nat.zero_le _
  | _ => exact hroom

/-! ### Runs -/

theorem acquired_step (steps : List (State × Action)) (s : State) (a : Action) :
    acquired (steps ++ [(s, a)]) = acquired steps ++ (s.acquired? a).toList := by
  cases h : s.acquired? a <;> simp [acquired, h]

theorem acquired_perm (h : Run State.step? {} steps s) :
    (acquired steps).Perm ((record steps).filterMap Entry.received? ++
      ((record steps).filterMap Entry.discarded? ++ (s.queue ++ s.held))) := by
  induction h with
  | refl => exact .refl _
  | @step steps r a s hbefore now ih =>
    have hbalance := (State.step_cases now).balance (numbered_of_run hbefore)
    rw [acquired_step, record_append, record_single, List.filterMap_append, List.filterMap_append,
      List.perm_iff_count]
    -- every command is accounted for before the step, and by the step
    intro e
    have hbefore := ih.count_eq e
    have hnow := hbalance.count_eq e
    simp only [List.count_append] at hbefore hnow ⊢
    omega

theorem Story.count_granted_le {t : Nat} {p : Place} (h : Story t p es) :
    (es.filterMap Entry.granted?).count t ≤ 1 := by
  cases h with
  | refused hjudge hanswer =>
    have hrest : ∀ es, List.filterMap Entry.granted? (.answered t _ :: es) =
        List.filterMap Entry.granted? es :=
      fun es => List.filterMap_cons_none (Entry.granted?_of_refused hanswer)
    simp [List.filterMap_cons, hrest, Entry.granted?]
  | _ => simp [Handler.granted, List.filterMap_cons, Entry.granted?]

/-- No message acquires a lock twice. -/
theorem nodup_acquired (h : Run State.step? {} steps s) : ((acquired steps).map (·.1)).Nodup := by
  have hgranted : (acquired steps).map (·.1) = (record steps).filterMap Entry.granted? := by
    induction h with
    | refl => rfl
    | step _ now ih =>
      rw [acquired_step, List.map_append, ih, (State.step_cases now).acquired_ticket,
        record_append, record_single, List.filterMap_append]
  rw [hgranted]
  refine nodup_record ?_ (fun t p es hs => hs.count_granted_le) h
  intro e t he
  unfold Entry.granted? at he
  split at he
  · simpa [Entry.ticket?] using he
  · simp at he

/-- Nothing has come to nothing as long as somebody receives. -/
theorem discarded_eq_nil {start : State} (h : Run State.step? start steps s)
    (hreceiver : s.receiver = true) : (record steps).filterMap Entry.discarded? = [] := by
  rw [List.filterMap_eq_nil_iff]
  intro e he
  cases e with
  | discarded ticket command => exact absurd he (not_discarded h hreceiver ticket command).1
  | lost ticket command => exact absurd he (not_discarded h hreceiver ticket command).2
  | _ => rfl

/-- After any run, the commands whose locks were acquired, each for a message of its own, are
    exactly those that were received, those on the queue, those that tasks hold or wait in line
    with, and those that came to nothing because nobody receives. There are none of the last kind
    as long as somebody receives. Once a call has closed the handler, none is held either. -/
theorem acquired_accounted (h : Run State.step? {} steps s) :
    (acquired steps).Perm ((record steps).filterMap Entry.received? ++
        ((record steps).filterMap Entry.discarded? ++ (s.queue ++ s.held))) ∧
      ((acquired steps).map (·.1)).Nodup ∧
      s.queue.length ≤ queueCapacity ∧
      (s.receiver = true → (record steps).filterMap Entry.discarded? = []) ∧
      (∀ call : Nat, s.returns[call]? = some (some (.ok ())) → s.receiver = true →
        (acquired steps).Perm ((record steps).filterMap Entry.received? ++ s.queue)) := by
  refine ⟨acquired_perm h, nodup_acquired h, ?_, discarded_eq_nil h, ?_⟩
  · exact h.invariant (I := fun s => s.queue.length ≤ queueCapacity) (Nat.zero_le _)
      fun hroom now => (State.step_cases now).queue_le hroom
  · intro call hreturned hreceiver
    have hquiet := quiet_of_returned h hreturned
    have hnone : s.held = [] := by simp [State.held, hquiet.tasks, hquiet.line]
    have hperm := acquired_perm h
    rwa [discarded_eq_nil h hreceiver, hnone, List.append_nil] at hperm

/-! ### An example -/

/-- Two commands arrive and get their locks. The first one is received; while a call closes the
    handler, the second one gets onto the queue. -/
def closeWithTwo : List Action :=
  [.dispatch (.message sampleTopic samplePayload), .dispatch (.message sampleTopic samplePayload),
    .judge 0, .judge 1, .lockReply 0 (.ok true), .queueUp 0, .send, .receive,
    .lockReply 1 (.ok true), .close, .enter, .unsubscribeReply (.ok ()), .mark, .detach, .queueUp 1,
    .send, .drained, .disconnectReply (.ok ())]

theorem acquired_accounted_closeWithTwo :
    ∃ steps s, Run State.step? {} steps s ∧ s.returns = [some (.ok ())] ∧ s.receiver = true ∧
      acquired steps = [(0, sampleCommand), (1, sampleCommand)] ∧
      s.queue = [(1, sampleCommand)] ∧
      (acquired steps).Perm ((record steps).filterMap Entry.received? ++ s.queue) := by
  have hcomputed : (Run.steps? State.step? {} closeWithTwo).map (fun run =>
      (run.2.returns, run.2.receiver, acquired run.1, run.2.queue)) =
      some ([some (.ok ())], true, [(0, sampleCommand), (1, sampleCommand)],
        [(1, sampleCommand)]) := rfl
  obtain ⟨⟨steps, s⟩, hrun, hfacts⟩ := Option.map_eq_some_iff.mp hcomputed
  simp only [Prod.mk.injEq] at hfacts
  obtain ⟨hreturns, hreceiver, hacquired, hqueue⟩ := hfacts
  obtain ⟨-, -, -, -, hclosed⟩ := acquired_accounted (Run.of_steps? hrun)
  exact ⟨steps, s, Run.of_steps? hrun, hreturns, hreceiver, hacquired, hqueue,
    hclosed 0 (by simp [hreturns]) hreceiver⟩

end LoraBridge.Handler
