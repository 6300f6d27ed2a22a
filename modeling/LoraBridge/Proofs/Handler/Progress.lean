import LoraBridge.Proofs.Handler.Sibling

/-! # Messages that are carried on

  From its acceptance on, a message is carried from place to place until the handler is done with
  it. Its `load` counts the steps that this takes at most. No other step of the handler adds to the
  load of all messages, and as long as a message is not done, some message can be carried on.

  - `Action.carries`: the steps that carry a message on.
  - `State.Step.load_lt`, `State.Step.load_le`: what steps do to the load.
  - `State.exists_carrying`: as long as a message is not done, there is something to do.
-/

namespace LoraBridge.Handler

variable {s s' : State} {a : Action} {es : List Entry} {ticket : Nat} {task : Task}

/-! ### Loads -/

/-- Whether an action carries a message on. -/
def Action.carries : Action → Bool
  | .judge _ => true
  | .lockReply _ _ => true
  | .queueUp _ => true
  | .send => true
  | .receive => true
  | _ => false

/-- The steps that are left for a message in this phase. -/
def Task.Phase.load : Task.Phase → Nat
  | .fresh => 5
  | .locking _ => 4
  | .locked _ => 3

theorem Task.Phase.load_pos (phase : Task.Phase) : 0 < phase.load := by
  cases phase <;> simp [load]

/-- The steps that are left for all messages that have tasks. -/
def loadOf : List Task → Nat
  | [] => 0
  | task :: tasks => task.phase.load + loadOf tasks

/-- The steps that are left for all messages. -/
def State.load (s : State) : Nat := loadOf s.tasks + 2 * s.line.length + s.queue.length

theorem loadOf_append (tasks more : List Task) :
    loadOf (tasks ++ more) = loadOf tasks + loadOf more := by
  induction tasks with
  | nil => simp [loadOf]
  | cons task tasks ih => rw [List.cons_append, loadOf, loadOf, ih, Nat.add_assoc]

theorem State.Numbered.loadOf_endTask (hn : s.Numbered) (h : s.task? ticket = some task) :
    loadOf s.tasks = loadOf (s.endTask ticket).tasks + task.phase.load := by
  obtain ⟨before, after, hsplit, hend, -⟩ := hn.tasks_split h
  rw [hsplit, hend, loadOf_append, loadOf_append, loadOf]
  omega

theorem State.Numbered.loadOf_setTask (hn : s.Numbered) (h : s.task? ticket = some task)
    (phase : Task.Phase) :
    loadOf (s.setTask ticket phase).tasks + task.phase.load = loadOf s.tasks + phase.load := by
  obtain ⟨before, after, hsplit, -, hset⟩ := hn.tasks_split h
  simp only [hsplit, hset phase, loadOf_append, loadOf]
  omega

theorem State.Numbered.load_endTask_lt (hn : s.Numbered) (h : s.task? ticket = some task) :
    (s.endTask ticket).load < s.load := by
  have hload := hn.loadOf_endTask h
  have hpos := task.phase.load_pos
  simp only [State.load] at *
  simp only [State.endTask] at *
  omega

theorem State.Numbered.load_setTask_lt (hn : s.Numbered) (h : s.task? ticket = some task)
    {phase : Task.Phase} (hless : phase.load < task.phase.load) :
    (s.setTask ticket phase).load < s.load := by
  have hload := hn.loadOf_setTask h phase
  simp only [State.load, State.setTask] at *
  omega

/-- A step that carries a message on leaves less to do. -/
theorem State.Step.load_lt (h : s.Step a es s') (hn : s.Numbered) (hcarries : a.carries = true) :
    s'.load < s.load := by
  cases h with
  | reject htask hphase hjudge | refuse htask hphase hanswer => exact hn.load_endTask_lt htask
  | ask htask hphase hjudge | acquire htask hphase =>
    exact hn.load_setTask_lt htask (by simp [hphase, Task.Phase.load])
  | queueUp htask hphase =>
    have hload := hn.loadOf_endTask htask
    rw [hphase, Task.Phase.load] at hload
    simp only [State.load, State.endTask, List.length_append, List.length_singleton] at *
    omega
  | forward hline hreceiver hroom =>
    simp only [State.load, hline, List.length_append, List.length_cons, List.length_nil]
    omega
  | discard hline hreceiver =>
    simp only [State.load, hline, List.length_cons]
    omega
  | receive hqueue hreceiver =>
    simp only [State.load, hqueue, List.length_cons]
    omega
  | _ => simp [Action.carries] at hcarries

/-- Only a message that is accepted adds to the load. -/
theorem State.Step.load_le (h : s.Step a es s') (hn : s.Numbered) :
    s'.load ≤ s.load ∨ ∃ topic payload, a = .dispatch (.message topic payload) ∧
      es = [.accepted s.nextTicket topic payload] ∧ s'.load ≤ s.load + 5 := by
  cases hcarries : a.carries with
  | true => exact .inl (Nat.le_of_lt (h.load_lt hn hcarries))
  | false =>
    cases h with
    | accept topic payload hopen =>
      refine .inr ⟨topic, payload, rfl, rfl, ?_⟩
      simp only [State.load, loadOf_append, loadOf, Task.Phase.load]
      omega
    | dropReceiver hreceiver => exact .inl (by simp [State.load])
    | reject | ask | refuse | acquire | queueUp | forward | discard | receive =>
      simp [Action.carries] at hcarries
    | _ => exact .inl (Nat.le_refl _)

/-! ### Something to do -/

/-- The command whose lock a task waits for. -/
def State.locking? (s : State) (ticket : Nat) : Option Command := do
  let task ← s.task? ticket
  let .locking command := task.phase | none
  some command

theorem State.locking?_eq_some {command : Command} : s.locking? ticket = some command ↔
    ∃ task, s.task? ticket = some task ∧ task.phase = .locking command := by
  simp only [State.locking?, Option.bind_eq_bind, Option.bind_eq_some_iff]
  constructor
  · rintro ⟨task, htask, h⟩
    cases hphase : task.phase with
    | locking found =>
      simp only [hphase, Option.some.injEq] at h
      exact ⟨task, htask, by rw [hphase, h]⟩
    | _ => simp [hphase] at h
  · rintro ⟨task, htask, hphase⟩
    exact ⟨task, htask, by simp [hphase]⟩

/-- A message is not done as long as it has a place with the handler. -/
def Place.isHeld : Place → Bool
  | .unborn => false
  | .gone => false
  | _ => true

theorem State.cases_of_isHeld (h : (s.place ticket).isHeld = true) :
    (∃ task, s.task? ticket = some task) ∨ s.line ≠ [] ∨ s.queue ≠ [] := by
  cases htask : s.task? ticket with
  | some task => exact .inl ⟨task, rfl⟩
  | none =>
    cases hwaiter : s.waiter? ticket with
    | some waiter =>
      exact .inr (.inl (List.ne_nil_of_mem (List.mem_of_find?_eq_some hwaiter)))
    | none =>
      cases hqueued : s.queued? ticket with
      | some command =>
        obtain ⟨e, hfound, -⟩ := Option.map_eq_some_iff.mp hqueued
        exact .inr (.inr (List.ne_nil_of_mem (List.mem_of_find?_eq_some hfound)))
      | none =>
        simp only [State.place, htask, hwaiter, hqueued] at h
        split at h <;> simp [Place.isHeld] at h

/-- While the network server receives, a message that is not done is no reason to stand still: it
    waits for its lock, or some message can be carried on without an answer from the store. -/
theorem State.exists_carrying (h : (s.place ticket).isHeld = true)
    (hreceiver : s.receiver = true) :
    (∃ command, s.locking? ticket = some command) ∨
      ∃ a s', a.carries = true ∧ a.isOwn = true ∧ s.step? a = some s' := by
  have possible {b : Action} {es : List Entry} {t : State} (hcarries : b.carries = true)
      (hown : b.isOwn = true) (hstep : s.Step b es t) :
      ∃ a s', a.carries = true ∧ a.isOwn = true ∧ s.step? a = some s' :=
    ⟨b, t, hcarries, hown, hstep.possible⟩
  rcases s.cases_of_isHeld h with ⟨task, htask⟩ | hline | hqueue
  · cases hphase : task.phase with
    | fresh =>
      right
      by_cases hjudge : ∃ command, judge task.topic task.payload = .command command
      · obtain ⟨command, hjudge⟩ := hjudge
        exact possible rfl rfl (.ask htask hphase hjudge)
      · exact possible rfl rfl
          (.reject htask hphase fun command heq => hjudge ⟨command, heq⟩)
    | locking command => exact .inl ⟨command, State.locking?_eq_some.mpr ⟨task, htask, hphase⟩⟩
    | locked command => exact .inr (possible rfl rfl (.queueUp htask hphase))
  · -- the first in line can go, or something is on the queue that makes no room for it
    obtain ⟨waiter, line, hline⟩ := List.exists_cons_of_ne_nil hline
    right
    cases hqueue : s.queue with
    | nil =>
      exact possible rfl rfl (.forward hline hreceiver (by simp [hqueue, queueCapacity]))
    | cons e queue => exact possible rfl rfl (.receive hqueue hreceiver)
  · obtain ⟨e, queue, hqueue⟩ := List.exists_cons_of_ne_nil hqueue
    exact .inr (possible rfl rfl (.receive hqueue hreceiver))

end LoraBridge.Handler
