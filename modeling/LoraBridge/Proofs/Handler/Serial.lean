import LoraBridge.Handler.Turn
import LoraBridge.Proofs.Handler.Gate

/-! # Messages one after another

  On a `Bench` stand handlers that share a lock store of any kind, and every message is handled
  before the next one comes. Between messages the handlers may do anything else, and others may
  use the store. What a message does to its handler and to the store can then be said at once.

  - `Bench.run` is what happens and what is written down of it, item by item.
  - `Bench.follows_run`: what each of the handlers does there is a run of its own.
  - `Bench.handle_dropped`, `Bench.handle_rejected`, `Bench.handle_refused`,
    `Bench.handle_acquired`: what comes of a message; `Bench.handled` puts them together.
  - `Bench.Idle.run`: no message is left half done.
-/

namespace LoraBridge.Handler

/-- Whether an action is not about a message that is being judged or waits for its lock. The line
    and the queue may move on at any time. -/
def Action.isAside : Action → Bool
  | .dispatch (.message _ _) | .judge _ | .lockReply _ _ | .queueUp _ => false
  | _ => true

/-- Handlers and the store that they share. -/
structure Bench (σ : Type) where
  handlers : List State
  store : σ

namespace Bench

/-- What happens next on a bench. -/
inductive Item (σ : Type) where
  /-- A message comes to a handler, and is handled while the clock shows this time. -/
  | message (i : Nat) (now : Int) (topic : String) (payload : Bytes)
  /-- A handler does something else. -/
  | aside (i : Nat) (action : Action)
  /-- Somebody else uses the store. -/
  | outside (change : σ → σ)

/-- How a store takes the lock of a key at some time. It may be of any kind. -/
abbrev Ask (σ : Type) : Type :=
  σ → Int → String → Duration → Except Lock.StoreError Bool × σ

/-- What has been written down, by which handler, and the bench afterwards. -/
abbrev Outcome (σ : Type) : Type := List (Nat × Entry) × Bench σ

variable {σ : Type} (ask : Ask σ) (b : Bench σ)

/-- The bench with a handler in another state. -/
def put (i : Nat) (s : State) : Bench σ := { b with handlers := b.handlers.set i s }

/-- A handler takes a step. A step that is not possible does nothing. -/
def act (i : Nat) (a : Action) : Outcome σ :=
  match b.handlers[i]? with
  | none => ([], b)
  | some s =>
    match s.step? a with
    | none => ([], b)
    | some s' => ((s.entries a).map (i, ·), b.put i s')

/-- The first task of a handler takes its turn. If it waits for its lock, the store is asked. -/
def turn (i : Nat) (now : Int) (b : Bench σ) : Outcome σ :=
  match b.handlers[i]?.bind (·.tasks.head?) with
  | none => ([], b)
  | some task =>
    match task.turn with
    | .own a => b.act i a
    | .lock ticket command =>
      let reply := ask b.store now (lockKey command) Lock.commandTtl
      act { b with store := reply.2 } i (.lockReply ticket reply.1)
    | _ => ([], b)

/-- One thing after another. -/
def andThen (r : Outcome σ) (next : Bench σ → Outcome σ) : Outcome σ :=
  (r.1 ++ (next r.2).1, (next r.2).2)

/-- A message is handled until it is done or stands in line. Its task takes three turns at
    most. -/
def handle (i : Nat) (now : Int) (topic : String) (payload : Bytes) : Outcome σ :=
  let arrived := b.act i (.dispatch (.message topic payload))
  andThen (andThen (andThen arrived (turn ask i now)) (turn ask i now)) (turn ask i now)

def step : Item σ → Outcome σ
  | .message i now topic payload => b.handle ask i now topic payload
  | .aside i action => if action.isAside then b.act i action else ([], b)
  | .outside change => ([], { b with store := change b.store })

/-- What is written down of each item, and the bench in the end. -/
def run : Bench σ → List (Item σ) → List (List (Nat × Entry)) × Bench σ
  | b, [] => ([], b)
  | b, item :: items =>
    let first := b.step ask item
    let rest := run first.2 items
    (first.1 :: rest.1, rest.2)

/-- Whether no message is being judged or waits for its lock. -/
def Idle : Prop := ∀ s ∈ b.handlers, s.tasks = []

variable {ask b} {i : Nat} {now : Int} {s s' : State} {topic : String} {payload : Bytes}
  {command : Command}

/-! ### What handlers do on a bench -/

/-- What has been written down from one bench to another is what a handler has done in a run. -/
def Follows (i : Nat) (b : Bench σ) (r : Outcome σ) : Prop :=
  ∀ s, b.handlers[i]? = some s → ∃ steps s', Run State.step? s steps s' ∧
    r.2.handlers[i]? = some s' ∧
    record steps = r.1.filterMap fun e => if e.1 = i then some e.2 else none

theorem Follows.refl (b : Bench σ) : Follows i b ([], b) :=
  fun s hi => ⟨[], s, .refl, hi, rfl⟩

theorem Follows.andThen {r : Outcome σ} {next : Bench σ → Outcome σ} (h : Follows i b r)
    (hnext : ∀ c, Follows i c (next c)) : Follows i b (andThen r next) := by
  intro s hi
  obtain ⟨steps, s', hrun, hi', hrecord⟩ := h s hi
  obtain ⟨more, s'', hmore, hi'', hrecord'⟩ := hnext r.2 s' hi'
  refine ⟨steps ++ more, s'', hrun.append hmore, hi'', ?_⟩
  rw [record_append, hrecord, hrecord', Bench.andThen, List.filterMap_append]

theorem follows_act (b : Bench σ) (j : Nat) (a : Action) : Follows i b (b.act j a) := by
  unfold act
  split
  · exact Follows.refl b
  · next t hj =>
    split
    · exact Follows.refl b
    · next t' hstep =>
      intro s hi
      by_cases hji : j = i
      · subst hji
        obtain rfl : t = s := Option.some.inj (hj.symm.trans hi)
        have hlt : j < b.handlers.length := (List.getElem?_eq_some_iff.mp hj).1
        refine ⟨_, t', Run.single hstep, List.getElem?_set_self hlt, ?_⟩
        rw [filterMap_numbered, if_pos rfl, record_single]
      · -- the step of another handler is none of this one's
        refine ⟨[], s, .refl, (List.getElem?_set_ne hji).trans hi, ?_⟩
        rw [filterMap_numbered, if_neg hji, record_nil]

theorem follows_turn (j : Nat) (now : Int) (b : Bench σ) :
    Follows i b (turn ask j now b) := by
  unfold turn
  split
  · exact Follows.refl b
  · split
    · exact follows_act b j _
    · next ticket command _ =>
      -- what becomes of the store is nothing to the handler
      let reply := ask b.store now (lockKey command) Lock.commandTtl
      exact follows_act { b with store := reply.2 } j (.lockReply ticket reply.1)
    · exact Follows.refl b

theorem follows_step (b : Bench σ) (item : Item σ) : Follows i b (b.step ask item) := by
  cases item with
  | message j now topic payload =>
    have harrived := follows_act (i := i) b j (.dispatch (.message topic payload))
    exact ((harrived.andThen (follows_turn j now)).andThen (follows_turn j now)).andThen
      (follows_turn j now)
  | aside j action =>
    simp only [step]
    split
    · exact follows_act b j action
    · exact Follows.refl b
  | outside change => exact Follows.refl b

/-- What a handler does on a bench is a run of its own. -/
theorem follows_run (b : Bench σ) (items : List (Item σ)) :
    Follows i b ((b.run ask items).1.flatten, (b.run ask items).2) := by
  induction items generalizing b with
  | nil => exact Follows.refl b
  | cons item items ih =>
    rw [run, List.flatten_cons]
    have hnext := ih (b.step ask item).2
    intro s hi
    obtain ⟨steps, s', hrun, hi', hrecord⟩ := follows_step b item s hi
    obtain ⟨more, s'', hmore, hi'', hrecord'⟩ := hnext s' hi'
    refine ⟨steps ++ more, s'', hrun.append hmore, hi'', ?_⟩
    rw [record_append, hrecord, hrecord', List.filterMap_append]

end Bench

/-! ### A handler with one message -/

namespace State

variable {s : State} {topic : String} {payload : Bytes} {phase : Task.Phase}

/-- A handler that has a message, in some phase, and no other. -/
def holding (s : State) (topic : String) (payload : Bytes) (phase : Task.Phase) : State :=
  { s with tasks := [{ ticket := s.nextTicket, topic, payload, phase }],
           nextTicket := s.nextTicket + 1 }

/-- A handler that has had one more message, which may have got in line. -/
def past (s : State) (waiters : List Waiter) : State :=
  { s with line := s.line ++ waiters, nextTicket := s.nextTicket + 1 }

theorem task?_holding (s : State) (topic : String) (payload : Bytes) (phase : Task.Phase) :
    (s.holding topic payload phase).task? s.nextTicket =
      some { ticket := s.nextTicket, topic, payload, phase } := by
  simp [holding, task?]

theorem setTask_holding (next : Task.Phase) :
    (s.holding topic payload phase).setTask s.nextTicket next = s.holding topic payload next := by
  simp [holding, setTask]

theorem endTask_holding (hidle : s.tasks = []) :
    (s.holding topic payload phase).endTask s.nextTicket = s.past [] := by
  simp [holding, endTask, past, hidle]

theorem step?_arrival (topic : String) (payload : Bytes) (hidle : s.tasks = [])
    (hopen : s.sender = true) :
    s.step? (.dispatch (.message topic payload)) = some (s.holding topic payload .fresh) := by
  simp [step?, dispatch, hopen, hidle, holding]

theorem step?_queueUp_holding (topic : String) (payload : Bytes) (command : Command)
    (hidle : s.tasks = []) :
    (s.holding topic payload (.locked command)).step? (.queueUp s.nextTicket) =
      some (s.past [{ ticket := s.nextTicket, topic, command }]) := by
  rw [(Step.queueUp (task?_holding s topic payload _) rfl).possible, endTask_holding hidle]
  simp [holding, past]

/-- What is not about tasks leaves them alone. -/
theorem tasks_of_aside {s s' : State} {a : Action} (haside : a.isAside = true)
    (hstep : s.step? a = some s') : s'.tasks = s.tasks := by
  have hcase := State.step_cases hstep
  generalize s.entries a = es at hcase
  cases hcase with
  | accept | reject | ask | refuse | acquire | queueUp => simp [Action.isAside] at haside
  | _ => rfl

end State

/-! ### What comes of a message -/

namespace Bench

variable {σ : Type} {ask : Ask σ} {b : Bench σ} {i : Nat} {now : Int} {s s' : State}
  {topic : String} {payload : Bytes} {command : Command} {store : σ}

theorem put_self (hi : b.handlers[i]? = some s) : b.put i s = b := by
  rw [put, set_of_getElem? hi]

theorem put_put (i : Nat) (s s' : State) : (b.put i s).put i s' = b.put i s' := by
  simp [put]

theorem put_handler (hlt : i < b.handlers.length) (s : State) :
    (b.put i s).handlers[i]? = some s :=
  List.getElem?_set_self hlt

theorem act_put (hlt : i < b.handlers.length) {a : Action} (hstep : s.step? a = some s') :
    (b.put i s).act i a = ((s.entries a).map (i, ·), b.put i s') := by
  simp only [act, put_handler hlt, hstep, put_put]

variable (ask now)

theorem turn_of_idle (hlt : i < b.handlers.length) (htasks : s.tasks = []) :
    turn ask i now (b.put i s) = ([], b.put i s) := by
  simp [turn, put_handler hlt, htasks]

theorem turn_of_own (hlt : i < b.handlers.length) {task : Task} (htasks : s.tasks = [task])
    {a : Action} (hturn : task.turn = .own a) (hstep : s.step? a = some s') :
    turn ask i now (b.put i s) = ((s.entries a).map (i, ·), b.put i s') := by
  simp [turn, put_handler hlt, htasks, hturn, act_put hlt hstep]

variable {ask now}

/-- A task that waits for its lock gets the answer of the store. -/
theorem turn_of_locking (hlt : i < b.handlers.length) {answer : Except Lock.StoreError Bool}
    (hask : ask b.store now (lockKey command) Lock.commandTtl = (answer, store))
    (hstep : (s.holding topic payload (.locking command)).step? (.lockReply s.nextTicket answer) =
      some s') :
    turn ask i now (b.put i (s.holding topic payload (.locking command))) =
      ([(i, .answered s.nextTicket answer)], { b with store }.put i s') := by
  have hact := act_put (b := { b with store }) hlt hstep
  have hstore : ask (b.put i (s.holding topic payload (.locking command))).store now
      (lockKey command) Lock.commandTtl = (answer, store) := hask
  unfold turn
  rw [put_handler hlt]
  -- the task is the only one, and its phase says that the store is asked
  simp only [State.holding, Task.turn, Option.bind_some, List.head?_cons] at hstore ⊢
  rw [hstore]
  exact hact

/-- A message that comes too late changes nothing. -/
theorem handle_dropped (hi : b.handlers[i]? = some s) (hidle : s.tasks = [])
    (hshut : s.sender = false) :
    b.handle ask i now topic payload = ([(i, .dropped topic payload)], b) := by
  have hlt : i < b.handlers.length := (List.getElem?_eq_some_iff.mp hi).1
  have hdrop := act_put (b := b) hlt (State.Step.drop topic payload hshut).possible
  have hrest := turn_of_idle (b := b) ask now hlt hidle
  rw [put_self hi] at hdrop hrest
  simp [handle, andThen, hdrop, hrest, State.entries, hshut]

/-- A handler that is open takes a message, whose task takes its turns. -/
theorem handle_of_open (hi : b.handlers[i]? = some s) (hidle : s.tasks = [])
    (hopen : s.sender = true) :
    b.handle ask i now topic payload =
      andThen (andThen (andThen ([(i, .accepted s.nextTicket topic payload)],
        b.put i (s.holding topic payload .fresh)) (turn ask i now)) (turn ask i now))
          (turn ask i now) := by
  have hlt : i < b.handlers.length := (List.getElem?_eq_some_iff.mp hi).1
  have harrival := act_put (b := b) hlt (State.step?_arrival topic payload hidle hopen)
  rw [put_self hi] at harrival
  unfold handle
  rw [harrival]
  simp [State.entries, hopen]

/-- Of a message that is no command, nothing remains but its number. The store is not asked. -/
theorem handle_rejected (hi : b.handlers[i]? = some s) (hidle : s.tasks = [])
    (hopen : s.sender = true) (hjudge : ∀ command, judge topic payload ≠ .command command) :
    b.handle ask i now topic payload =
      ([(i, .accepted s.nextTicket topic payload), (i, .rejected s.nextTicket)],
        b.put i (s.past [])) := by
  have hlt : i < b.handlers.length := (List.getElem?_eq_some_iff.mp hi).1
  -- the first turn ends the task, and there is none for the other two
  have hreject := (State.Step.reject (State.task?_holding s topic payload _) rfl hjudge).possible
  rw [State.endTask_holding hidle] at hreject
  have hentries : (s.holding topic payload .fresh).entries (.judge s.nextTicket) =
      [.rejected s.nextTicket] := by
    simp only [State.entries, State.task?_holding]
  have hturn := turn_of_own (b := b) ask now hlt rfl rfl hreject
  have hrest := turn_of_idle (b := b) (s := s.past []) ask now hlt hidle
  rw [handle_of_open hi hidle hopen]
  simp [andThen, hturn, hentries, hrest]

/-- A command asks for its lock in its first turn. -/
theorem turn_of_fresh (hlt : i < b.handlers.length)
    (hjudge : judge topic payload = .command command) :
    turn ask i now (b.put i (s.holding topic payload .fresh)) =
      ([(i, .asked s.nextTicket (lockKey command))],
        b.put i (s.holding topic payload (.locking command))) := by
  have hask := (State.Step.ask (State.task?_holding s topic payload _) rfl hjudge).possible
  rw [State.setTask_holding] at hask
  rw [turn_of_own ask now hlt rfl rfl hask]
  simp [State.entries, State.task?_holding, hjudge]

/-- A command that does not get its lock is dropped. -/
theorem handle_refused (hi : b.handlers[i]? = some s) (hidle : s.tasks = [])
    (hopen : s.sender = true) (hjudge : judge topic payload = .command command)
    {answer : Except Lock.StoreError Bool}
    (hask : ask b.store now (lockKey command) Lock.commandTtl = (answer, store))
    (hanswer : answer ≠ .ok true) :
    b.handle ask i now topic payload =
      ([(i, .accepted s.nextTicket topic payload), (i, .asked s.nextTicket (lockKey command)),
        (i, .answered s.nextTicket answer)], { b with store }.put i (s.past [])) := by
  have hlt : i < b.handlers.length := (List.getElem?_eq_some_iff.mp hi).1
  have hlocking := State.task?_holding s topic payload (.locking command)
  have hrefuse := (State.Step.refuse hlocking rfl hanswer).possible
  rw [State.endTask_holding hidle] at hrefuse
  -- the task has ended when it would have its third turn
  have hturn := turn_of_locking hlt hask hrefuse
  have hrest := turn_of_idle (b := { b with store }) (s := s.past []) ask now hlt hidle
  rw [handle_of_open hi hidle hopen]
  simp only [andThen, turn_of_fresh hlt hjudge, hturn, hrest]
  rfl

/-- A command that gets its lock gets in line. -/
theorem handle_acquired (hi : b.handlers[i]? = some s) (hidle : s.tasks = [])
    (hopen : s.sender = true) (hjudge : judge topic payload = .command command)
    (hask : ask b.store now (lockKey command) Lock.commandTtl = (.ok true, store)) :
    b.handle ask i now topic payload =
      ([(i, .accepted s.nextTicket topic payload), (i, .asked s.nextTicket (lockKey command)),
        (i, .answered s.nextTicket (.ok true))],
        { b with store }.put i (s.past [{ ticket := s.nextTicket, topic, command }])) := by
  have hlt : i < b.handlers.length := (List.getElem?_eq_some_iff.mp hi).1
  have hlocking := State.task?_holding s topic payload (.locking command)
  have hacquire := (State.Step.acquire hlocking rfl).possible
  rw [State.setTask_holding] at hacquire
  have hturn := turn_of_locking hlt hask hacquire
  have hqueueUp := turn_of_own (b := { b with store }) ask now hlt rfl rfl
    (State.step?_queueUp_holding topic payload command hidle)
  rw [handle_of_open hi hidle hopen]
  simp only [andThen, turn_of_fresh hlt hjudge, hturn, hqueueUp]
  rfl

/-- What can come of a message. -/
inductive Handled (ask : Ask σ) (b : Bench σ) (i : Nat) (now : Int) (topic : String)
    (payload : Bytes) : Outcome σ → Prop
  | nobody (hi : b.handlers[i]? = none) : Handled ask b i now topic payload ([], b)
  | dropped {s : State} (hi : b.handlers[i]? = some s) (hshut : s.sender = false) :
    Handled ask b i now topic payload ([(i, .dropped topic payload)], b)
  | rejected {s : State} (hi : b.handlers[i]? = some s) (hopen : s.sender = true)
    (hjudge : ∀ command, judge topic payload ≠ .command command) :
    Handled ask b i now topic payload
      ([(i, .accepted s.nextTicket topic payload), (i, .rejected s.nextTicket)],
        b.put i (s.past []))
  | refused {s : State} {command : Command} {answer : Except Lock.StoreError Bool} {store : σ}
    (hi : b.handlers[i]? = some s) (hopen : s.sender = true)
    (hjudge : judge topic payload = .command command)
    (hask : ask b.store now (lockKey command) Lock.commandTtl = (answer, store))
    (hanswer : answer ≠ .ok true) :
    Handled ask b i now topic payload
      ([(i, .accepted s.nextTicket topic payload), (i, .asked s.nextTicket (lockKey command)),
        (i, .answered s.nextTicket answer)], { b with store }.put i (s.past []))
  | acquired {s : State} {command : Command} {store : σ}
    (hi : b.handlers[i]? = some s) (hopen : s.sender = true)
    (hjudge : judge topic payload = .command command)
    (hask : ask b.store now (lockKey command) Lock.commandTtl = (.ok true, store)) :
    Handled ask b i now topic payload
      ([(i, .accepted s.nextTicket topic payload), (i, .asked s.nextTicket (lockKey command)),
        (i, .answered s.nextTicket (.ok true))],
        { b with store }.put i (s.past [{ ticket := s.nextTicket, topic, command }]))

theorem Idle.tasks (hb : b.Idle) (hi : b.handlers[i]? = some s) : s.tasks = [] :=
  hb s (List.mem_of_getElem? hi)

theorem handle_of_nobody (hi : b.handlers[i]? = none) :
    b.handle ask i now topic payload = ([], b) := by
  simp [handle, andThen, act, turn, hi]

theorem handled (hb : b.Idle) (ask : Ask σ) (i : Nat) (now : Int) (topic : String)
    (payload : Bytes) : Handled ask b i now topic payload (b.handle ask i now topic payload) := by
  cases hi : b.handlers[i]? with
  | none =>
    rw [handle_of_nobody hi]
    exact .nobody hi
  | some s =>
    have hidle := hb.tasks hi
    cases hopen : s.sender with
    | false =>
      rw [handle_dropped hi hidle hopen]
      exact .dropped hi hopen
    | true =>
      by_cases hjudge : ∃ command, judge topic payload = .command command
      · obtain ⟨command, hjudge⟩ := hjudge
        rcases hask : ask b.store now (lockKey command) Lock.commandTtl with ⟨answer, store⟩
        by_cases hanswer : answer = .ok true
        · subst hanswer
          rw [handle_acquired hi hidle hopen hjudge hask]
          exact .acquired hi hopen hjudge hask
        · rw [handle_refused hi hidle hopen hjudge hask hanswer]
          exact .refused hi hopen hjudge hask hanswer
      · have hnone : ∀ command, judge topic payload ≠ .command command :=
          fun command heq => hjudge ⟨command, heq⟩
        rw [handle_rejected hi hidle hopen hnone]
        exact .rejected hi hopen hnone

/-! ### No message is left half done -/

theorem Idle.put (hb : b.Idle) (hidle : s.tasks = []) (i : Nat) : (b.put i s).Idle := by
  intro t ht
  rcases List.mem_or_eq_of_mem_set ht with ht | rfl
  · exact hb t ht
  · exact hidle

theorem Idle.put_past (hb : b.Idle) (hi : b.handlers[i]? = some s) (waiters : List Waiter) :
    (b.put i (s.past waiters)).Idle :=
  hb.put (s := s.past waiters) (show s.tasks = [] from hb.tasks hi) i

theorem Idle.act (hb : b.Idle) {a : Action} (haside : a.isAside = true) (i : Nat) :
    (b.act i a).2.Idle := by
  unfold Bench.act
  split
  · exact hb
  · next s hi =>
    split
    · exact hb
    · next s' hstep =>
      refine hb.put ?_ i
      rw [State.tasks_of_aside haside hstep]
      exact hb.tasks hi

theorem Idle.step (hb : b.Idle) (ask : Ask σ) (item : Item σ) :
    (b.step ask item).2.Idle := by
  cases item with
  | message i now topic payload =>
    have hhandled := handled hb ask i now topic payload
    simp only [Bench.step]
    generalize b.handle ask i now topic payload = r at hhandled
    cases hhandled with
    | nobody | dropped => exact hb
    | rejected hi => exact hb.put_past hi _
    | refused hi | acquired hi => exact put_past (b := { b with store := _ }) hb hi _
  | aside i action =>
    simp only [Bench.step]
    split
    · next haside => exact hb.act haside i
    · exact hb
  | outside change => exact hb

theorem Idle.run (hb : b.Idle) (ask : Ask σ) (items : List (Item σ)) :
    (b.run ask items).2.Idle := by
  induction items generalizing b with
  | nil => exact hb
  | cons item items ih => exact ih (hb.step ask item)

end Bench

end LoraBridge.Handler
