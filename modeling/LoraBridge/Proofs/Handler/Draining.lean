import LoraBridge.Proofs.Handler.Custody
import LoraBridge.Proofs.Handler.Progress
import Mathlib.Data.Nat.Find

/-! # The drain ends

  A call that closes the handler takes the queue's sender away and then waits until nothing is in
  flight. No new task begins after that, every step of a task and every command that is received
  leaves less to do, and there is always something to do: the tasks wait for nothing but the store
  and the network server. So the call goes on to end the session.

  - `State.Detached.of_run`: while something is in flight, the call waits.
  - `State.exists_task_step`: the tasks are not in each other's way.
  - `drain_of_run`: what holds along every run after the sender was taken away.
  - `drain_ends`: nothing is in flight after a bounded number of steps.
-/

namespace LoraBridge.Handler

variable {s s' t : State} {a : Action} {es : List Entry} {steps more : List (State × Action)}
  {call : Nat}

/-! ### Who waits -/

/-- Whoever has taken the sender away waits, or is done with waiting. -/
def State.Detached (s : State) : Prop :=
  s.sender = false → s.closed = true ∨
    ∃ call, s.closing? = some (call, .draining) ∨ s.closing? = some (call, .disconnecting)

theorem State.Detached.step (hs : s.Detached) (ho : s.Orderly) (h : s.Step a es s') :
    s'.Detached := by
  intro hshut
  -- the sender had been taken away before by nobody else than the call whose turn it is
  have hopen (closing : Nat × Closing) (hclosing : s.closing? = some closing)
      (hshut : s.sender = false) : closing.2 = .draining ∨ closing.2 = .disconnecting := by
    rcases hs hshut with hclosed | ⟨call, hdraining | hdisconnecting⟩
    · simp [ho.not_closed hclosing] at hclosed
    · exact .inl (by rw [Option.some.inj (hclosing.symm.trans hdraining)])
    · exact .inr (by rw [Option.some.inj (hclosing.symm.trans hdisconnecting)])
  cases h with
  | accept topic payload hsender => simp [hsender] at hshut
  | enterClosed hfree hturns hclosed => exact .inl hclosed
  | enter hfree hturns hclosed =>
    rcases hs hshut with hover | ⟨call, hclosing | hclosing⟩
    · simp [hclosed] at hover
    · simp [hfree] at hclosing
    · simp [hfree] at hclosing
  | unsubscribed hclosing | notUnsubscribed hclosing | mark hclosing =>
    rcases hopen _ hclosing hshut with h | h <;> cases h
  | @detach call hclosing => exact .inr ⟨call, .inl rfl⟩
  | @drained call hclosing hdone => exact .inr ⟨call, .inr rfl⟩
  | disconnected hclosing => exact .inl rfl
  | _ => exact hs hshut

theorem State.Detached.of_run (h : Run State.step? {} steps s) : s.Detached := by
  induction h with
  | refl => exact fun h => by cases h
  | step hbefore now ih => exact ih.step (orderly_of_run hbefore) (State.step_cases now)

/-- While something is in flight after the sender was taken away, the call waits. -/
theorem exists_draining (h : Run State.step? {} steps s) (hshut : s.sender = false)
    (hbusy : s.inFlight ≠ 0) : ∃ call, s.closing? = some (call, .draining) := by
  have ho := orderly_of_run h
  rcases State.Detached.of_run h hshut with hclosed | ⟨call, hdraining | hdisconnecting⟩
  · exact absurd (ho.quiet hclosed).inFlight hbusy
  · exact ⟨call, hdraining⟩
  · exact absurd (ho.idle call hdisconnecting) hbusy

/-! ### What is in flight -/

/-- Whether an action is a step of a task. -/
def Action.isTask : Action → Bool
  | .judge _ => true
  | .lockReply _ _ => true
  | .queueUp _ => true
  | .send => true
  | _ => false

theorem Action.carries_of_isTask (h : a.isTask = true) : a.carries = true := by
  cases a <;> first | rfl | cases h

/-- After the sender was taken away, nothing is in flight that was not so before. -/
theorem State.Step.inFlight_le (h : s.Step a es s') (hn : s.Numbered) (hshut : s.sender = false) :
    s'.inFlight ≤ s.inFlight := by
  cases h with
  | accept topic payload hopen => simp [hshut] at hopen
  | reject htask | refuse htask =>
    exact Nat.add_le_add_right (List.length_filter_le _ _) _
  | ask htask | acquire htask => simp [State.inFlight, State.setTask]
  | queueUp htask hphase =>
    obtain ⟨before, after, hsplit, hend, -⟩ := hn.tasks_split htask
    simp only [State.inFlight, hsplit, hend, List.length_append, List.length_cons, List.length_nil]
    omega
  | forward hline | discard hline =>
    simp only [State.inFlight, hline, List.length_cons]
    omega
  | _ => exact Nat.le_refl _

theorem State.Step.not_accepted (h : s.Step a es s') (hshut : s.sender = false) (ticket : Nat)
    (topic : String) (payload : Bytes) : .accepted ticket topic payload ∉ es := by
  cases h with
  | accept topic payload hopen => simp [hshut] at hopen
  | _ => simp

theorem loadOf_bounds (tasks : List Task) :
    3 * tasks.length ≤ loadOf tasks ∧ loadOf tasks ≤ 5 * tasks.length := by
  induction tasks with
  | nil => exact ⟨Nat.le_refl _, Nat.le_refl _⟩
  | cons task tasks ih =>
    have hphase : 3 ≤ task.phase.load ∧ task.phase.load ≤ 5 := by
      cases task.phase <;> simp [Task.Phase.load]
    rw [loadOf, List.length_cons]
    omega

/-- What is in flight and what is to do for it bound each other. -/
theorem State.load_bounds (hroom : s.queue.length ≤ queueCapacity) :
    2 * s.inFlight ≤ s.load ∧ s.load ≤ 5 * s.inFlight + 1 := by
  have hbounds := loadOf_bounds s.tasks
  simp only [State.inFlight, State.load, queueCapacity] at *
  omega

/-! ### Nobody is blocked -/

/-- A task that is not in line can take its step, whatever the store answers. -/
theorem State.exists_step_of_task {ticket : Nat} {task : Task} (h : s.task? ticket = some task) :
    ∃ a s', a.isTask = true ∧ s.step? a = some s' := by
  have possible {b : Action} {es : List Entry} {t : State} (htask : b.isTask = true)
      (hstep : s.Step b es t) : ∃ a s', a.isTask = true ∧ s.step? a = some s' :=
    ⟨b, t, htask, hstep.possible⟩
  cases hphase : task.phase with
  | fresh =>
    by_cases hjudge : ∃ command, judge task.topic task.payload = .command command
    · obtain ⟨command, hjudge⟩ := hjudge
      exact possible rfl (.ask h hphase hjudge)
    · exact possible rfl (.reject h hphase fun command heq => hjudge ⟨command, heq⟩)
  | locking command => exact possible rfl (.acquire h hphase)
  | locked command => exact possible rfl (.queueUp h hphase)

/-- While the queue has room, or nobody receives, some task can take a step. -/
theorem State.exists_task_step (hbusy : s.inFlight ≠ 0)
    (hroom : s.queue.length < queueCapacity ∨ s.receiver = false) :
    ∃ a s', a.isTask = true ∧ s.step? a = some s' := by
  cases htasks : s.tasks with
  | cons task tasks =>
    have hfirst : s.task? task.ticket = some task := by simp [State.task?, htasks]
    exact State.exists_step_of_task hfirst
  | nil =>
    have hline : s.line ≠ [] := fun hline => hbusy (State.inFlight_eq_zero.mpr ⟨htasks, hline⟩)
    obtain ⟨waiter, line, hline⟩ := List.exists_cons_of_ne_nil hline
    cases hreceiver : s.receiver with
    | false => exact ⟨.send, _, rfl, (State.Step.discard hline hreceiver).possible⟩
    | true =>
      have hfree : s.queue.length < queueCapacity := by simpa [hreceiver] using hroom
      exact ⟨.send, _, rfl, (State.Step.forward hline hreceiver hfree).possible⟩

/-- When the queue has no room, the network server can make some. -/
theorem State.exists_receive (hfull : queueCapacity ≤ s.queue.length)
    (hreceiver : s.receiver = true) : ∃ s', s.step? .receive = some s' := by
  cases hqueue : s.queue with
  | nil => simp [hqueue, queueCapacity] at hfull
  | cons e queue => exact ⟨_, State.step?_receive hreceiver hqueue⟩

/-! ### Runs -/

theorem queue_le_of_run (h : Run State.step? {} steps s) : s.queue.length ≤ queueCapacity :=
  h.invariant (I := fun s => s.queue.length ≤ queueCapacity) (Nat.zero_le _)
    fun hroom now => (State.step_cases now).queue_le hroom

/-- The sender does not come back, and nothing new is accepted. -/
theorem shut_of_run (h : Run State.step? s more t) (hshut : s.sender = false) :
    t.sender = false ∧ ∀ ticket topic payload, .accepted ticket topic payload ∉ record more := by
  induction h with
  | refl => exact ⟨hshut, by simp⟩
  | step _ now ih =>
    obtain ⟨hbefore, hnone⟩ := ih
    have hstep := State.step_cases now
    refine ⟨hstep.sender hbefore, ?_⟩
    intro ticket topic payload hmem
    rw [record_append, record_single, List.mem_append] at hmem
    exact hmem.elim (hnone ticket topic payload) (hstep.not_accepted hbefore ticket topic payload)

/-- What is to do grows less with every step of a task and with every command that is received, and
    no step makes it more. -/
theorem load_of_run (hpast : Run State.step? {} steps s) (h : Run State.step? s more t)
    (hshut : s.sender = false) :
    t.inFlight ≤ s.inFlight ∧ t.load + more.countP (·.2.carries) ≤ s.load := by
  induction h with
  | refl => exact ⟨Nat.le_refl _, Nat.le_refl _⟩
  | @step more r a t hbefore now ih =>
    obtain ⟨hflight, hload⟩ := ih
    have hn := numbered_of_run (hpast.append hbefore)
    have hstep := State.step_cases now
    have hr := (shut_of_run hbefore hshut).1
    refine ⟨Nat.le_trans (hstep.inFlight_le hn hr) hflight, ?_⟩
    rw [List.countP_append, List.countP_singleton]
    cases hcarries : a.carries with
    | true =>
      have hlt := hstep.load_lt hn hcarries
      rw [if_pos rfl]
      omega
    | false =>
      have hle : t.load ≤ r.load := by
        rcases hstep.load_le hn with hle | ⟨topic, payload, -, hes, -⟩
        · exact hle
        · exact absurd (by simp [hes]) (hstep.not_accepted hr r.nextTicket topic payload)
      rw [if_neg Bool.false_ne_true]
      omega

/-- A call that waits does so until nothing is in flight and it goes on. -/
theorem draining_of_run (h : Run State.step? s more t)
    (hdraining : s.closing? = some (call, .draining)) :
    t.closing? = some (call, .draining) ∨ ∃ r, (r, .drained) ∈ more := by
  induction h with
  | refl => exact .inl hdraining
  | @step more r a t _ now ih =>
    rcases ih with hr | ⟨q, hq⟩
    · have hstep := State.step_cases now
      generalize r.entries a = es at hstep
      cases hstep with
      | drained hclosing hdone => exact .inr ⟨r, by simp⟩
      | enterClosed hfree | enter hfree => simp [hr] at hfree
      | unsubscribed hclosing | notUnsubscribed hclosing | mark hclosing | detach hclosing
      | disconnected hclosing => simp [hr] at hclosing
      | _ => exact .inl hr
    · exact .inr ⟨q, List.mem_append_left _ hq⟩

/-- What is so along a run from a state in which the sender has been taken away. -/
structure Drain (s : State) (more : List (State × Action)) (t : State) : Prop where
  /-- No new task begins. -/
  not_accepted : ∀ ticket topic payload, .accepted ticket topic payload ∉ record more
  inFlight_le : t.inFlight ≤ s.inFlight
  /-- Every step of a task and every command that is received leaves less to do, and no other step
      leaves more. -/
  load_le : t.load + more.countP (·.2.carries) ≤ s.load
  /-- After so many of them nothing is in flight. -/
  idle : 6 * s.inFlight ≤ more.countP (·.2.carries) → t.inFlight = 0
  /-- Until then some task can take a step, if the queue has room or nobody receives. -/
  task : t.inFlight ≠ 0 → t.queue.length < queueCapacity ∨ t.receiver = false →
    ∃ a u, a.isTask = true ∧ t.step? a = some u
  /-- If it has no room, whoever receives can make some. -/
  receive : queueCapacity ≤ t.queue.length → t.receiver = true → ∃ u, t.step? .receive = some u
  /-- Until then the call waits, -/
  waits : t.inFlight ≠ 0 → ∃ call, t.closing? = some (call, .draining)
  /-- and then it asks the transport to end the session. -/
  goesOn : ∀ call, t.closing? = some (call, .draining) → t.inFlight = 0 →
    t.step? .drained = some { t with closing? := some (call, .disconnecting) }
  /-- Nothing else ends the waiting. -/
  keeps : ∀ call, s.closing? = some (call, .draining) →
    t.closing? = some (call, .draining) ∨ ∃ r, (r, .drained) ∈ more

theorem drain_of_run (hpast : Run State.step? {} steps s) (hshut : s.sender = false)
    (h : Run State.step? s more t) : Drain s more t := by
  have hall := hpast.append h
  obtain ⟨hstill, hnone⟩ := shut_of_run h hshut
  obtain ⟨hflight, hload⟩ := load_of_run hpast h hshut
  constructor
  case not_accepted => exact hnone
  case inFlight_le => exact hflight
  case load_le => exact hload
  case idle =>
    intro hmany
    have hbefore := (State.load_bounds (queue_le_of_run hpast)).2
    have hafter := (State.load_bounds (queue_le_of_run hall)).1
    omega
  case task => exact State.exists_task_step
  case receive => exact State.exists_receive
  case waits => exact exists_draining hall hstill
  case goesOn =>
    intro call hdraining hidle
    exact (State.Step.drained hdraining hidle).possible
  case keeps => exact fun call => draining_of_run h

/-! ### Schedules -/

/-- A schedule on which nobody is forgotten: while tasks can take steps or commands can be received,
    this is done again, and a call that need not wait any longer goes on. -/
structure Fair (σ : Endless State.step? s) : Prop where
  carries : ∀ n a t, a.carries = true → (σ.state n).step? a = some t →
    ∃ m, n ≤ m ∧ (σ.action m).carries = true
  drained : ∀ n t, (σ.state n).step? .drained = some t → ∃ m, n ≤ m ∧ σ.action m = .drained

/-- On such a schedule nothing is in flight sooner or later. -/
theorem Fair.exists_idle {σ : Endless State.step? s} (hσ : Fair σ)
    (hpast : Run State.step? {} steps s) (hshut : s.sender = false) :
    ∃ n, (σ.state n).inFlight = 0 := by
  by_contra hnever
  have hbusy : ∀ n, (σ.state n).inFlight ≠ 0 := fun n hidle => hnever ⟨n, hidle⟩
  -- then there is always something to do, and more is done than there ever was
  have hagain : ∀ n, ∃ m, n ≤ m ∧ (σ.action m).carries = true := by
    intro n
    have hdrain := drain_of_run hpast hshut (σ.run n)
    by_cases hroom : (σ.state n).queue.length < queueCapacity ∨ (σ.state n).receiver = false
    · obtain ⟨a, t, htask, hstep⟩ := hdrain.task (hbusy n) hroom
      exact hσ.carries n a t (Action.carries_of_isTask htask) hstep
    · rw [not_or, Nat.not_lt, Bool.not_eq_false] at hroom
      obtain ⟨t, hstep⟩ := hdrain.receive hroom.1 hroom.2
      exact hσ.carries n .receive t rfl hstep
  obtain ⟨n, hmany⟩ := σ.exists_countP hagain (6 * s.inFlight)
  exact hbusy n ((drain_of_run hpast hshut (σ.run n)).idle hmany)

/-- After the sender was taken away, every step of a task and every command that is received brings
    the drain closer to its end, and as long as it is not over, such a step is possible. So however
    steps are scheduled, nothing is in flight after at most six of them for every message that was
    in flight, and then the call that waits for it goes on to end the session. -/
theorem drain_ends (h : Run State.step? {} steps s) (hshut : s.sender = false) :
    (∀ more t, Run State.step? s more t → Drain s more t) ∧
    ∀ σ : Endless State.step? s, Fair σ →
      ∃ n, (σ.steps n).countP (·.2.carries) ≤ 6 * s.inFlight ∧ (σ.state n).inFlight = 0 ∧
        ∀ call, (σ.state n).closing? = some (call, .draining) →
          ∃ m, n ≤ m ∧ σ.action m = .drained := by
  refine ⟨fun more t => drain_of_run h hshut, ?_⟩
  intro σ hσ
  have hexists := hσ.exists_idle h hshut
  -- the first time is soon enough
  have hidle := Nat.find_spec hexists
  have hfirst := fun m => Nat.find_min hexists (m := m)
  generalize Nat.find hexists = n at hidle hfirst
  refine ⟨n, ?_, hidle, ?_⟩
  · cases n with
    | zero => exact Nat.zero_le _
    | succ n =>
      have hbusy := mt (drain_of_run h hshut (σ.run n)).idle (hfirst n (Nat.lt_succ_self n))
      rw [Endless.steps, List.countP_append, List.countP_singleton]
      split <;> omega
  · intro call hdraining
    exact hσ.drained n _ ((drain_of_run h hshut (σ.run n)).goesOn call hdraining hidle)

/-- Three commands arrive. When a call that closes the handler takes the sender away, the first one
    is on the queue, the second one waits in line, and the third one has not been judged. -/
def closeWithThree : List Action :=
  [.dispatch (.message sampleTopic samplePayload), .dispatch (.message sampleTopic samplePayload),
    .dispatch (.message sampleTopic samplePayload), .judge 0, .judge 1, .lockReply 0 (.ok true),
    .lockReply 1 (.ok true), .queueUp 0, .send, .queueUp 1, .close, .enter,
    .unsubscribeReply (.ok ()), .mark, .detach]

/-- One more message comes too late. The commands are received, save for the third one, which does
    not get its lock, and the call goes on. -/
def drainThree : List Action :=
  [.dispatch (.message sampleTopic samplePayload), .judge 2, .receive, .send,
    .lockReply 2 (.ok false), .receive, .drained]

theorem drain_ends_closeWithThree :
    ∃ steps s, Run State.step? {} steps s ∧ s.sender = false ∧ s.inFlight = 2 ∧
      ∃ more t, Run State.step? s more t ∧ t.load + 5 ≤ s.load ∧
        (∀ ticket topic payload, .accepted ticket topic payload ∉ record more) ∧
        ∃ σ : Endless State.step? s, Fair σ ∧
          ∃ n, (σ.steps n).countP (·.2.carries) ≤ 12 ∧ (σ.state n).inFlight = 0 := by
  have hcomputed : (Run.steps? State.step? {} closeWithThree).bind (fun run =>
      (Run.steps? State.step? run.2 drainThree).map fun rest =>
        ((run.2.sender, run.2.inFlight), rest.1.countP (·.2.carries), rest.1[5]?.map (·.2),
          rest.1[6]?.map fun e => (e.1.load, e.2), rest.1[7]?.isNone, rest.2.load,
          rest.2.closing?)) =
      some ((false, 2), 5, some .receive, some (0, .drained), true, 0,
        some (0, .disconnecting)) := rfl
  obtain ⟨⟨steps, s⟩, hrun, hrest⟩ := Option.bind_eq_some_iff.mp hcomputed
  obtain ⟨⟨more, t⟩, hmore, hfacts⟩ := Option.map_eq_some_iff.mp hrest
  simp only [Prod.mk.injEq] at hfacts
  obtain ⟨⟨hshut, hflight⟩, hcarried, hlast, hdrained, hseven, hleft, hclosing⟩ := hfacts
  obtain ⟨⟨r, a⟩, hsix, hr⟩ := Option.map_eq_some_iff.mp hdrained
  obtain ⟨hnothing, hdrained⟩ := Prod.mk.inj hr
  rw [Option.isNone_iff_eq_none] at hseven
  have hpast := Run.of_steps? hrun
  have hafter := Run.of_steps? hmore
  obtain ⟨hdrain, hschedules⟩ := drain_ends hpast hshut
  have hdone := hdrain more t hafter
  have hidle : t.step? (.dispatch (.lost "")) = some t := rfl
  let σ : Endless State.step? s := hafter.endless hidle
  have hend (n : Nat) (hn : 7 ≤ n) : σ.state n = t := by
    have hnone : more[n]? = none :=
      List.getElem?_eq_none (Nat.le_trans (List.getElem?_eq_none_iff.mp hseven) hn)
    show (more[n]?.map (·.1)).getD t = t
    rw [hnone]
    rfl
  have hload (n : Nat) (hn : 6 ≤ n) : (σ.state n).load = 0 := by
    rcases Nat.eq_or_lt_of_le hn with rfl | hn
    · show ((more[6]?.map (·.1)).getD t).load = 0
      rw [hsix]
      exact hnothing
    · rw [hend n hn, hleft]
  have hfair : Fair σ := by
    constructor
    case carries =>
      intro n a u hcarries hstep
      by_cases hn : n ≤ 5
      · refine ⟨5, hn, ?_⟩
        show Action.carries ((more[5]?.map (·.2)).getD (.dispatch (.lost ""))) = true
        rw [hlast]
        rfl
      · have hlt := (State.step_cases hstep).load_lt (numbered_of_run (hpast.append (σ.run n)))
          hcarries
        rw [hload n (by omega)] at hlt
        omega
    case drained =>
      intro n u hstep
      by_cases hn : n ≤ 6
      · refine ⟨6, hn, ?_⟩
        show (more[6]?.map (·.2)).getD (.dispatch (.lost "")) = .drained
        rw [hsix]
        exact hdrained
      · simp [hend n (by omega), State.step?, hclosing] at hstep
  obtain ⟨n, hfew, hidle, -⟩ := hschedules σ hfair
  refine ⟨steps, s, hpast, hshut, hflight, more, t, hafter, ?_, hdone.not_accepted, σ, hfair, n, ?_,
    hidle⟩
  · rw [← hcarried]
    exact hdone.load_le
  · rw [hflight] at hfew
    exact hfew

end LoraBridge.Handler
