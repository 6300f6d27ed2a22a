import LoraBridge.Proofs.Handler.Record

/-! # Where messages stand

  At any time a message that was accepted stands in one `Place`: it has a task, waits in line, is
  on the queue, or is gone. `State.Numbered` says that no two messages have the same ticket, and
  `State.Step.moves` that a step takes a message from its place along one of the `Moves`, or
  leaves it where it is and writes nothing down about it.
-/

namespace LoraBridge.Handler

variable {s s' : State} {a : Action} {es : List Entry} {ticket t : Nat}

/-! ### Things under keys -/

/-- To put a thing where it is changes nothing. -/
theorem set_of_getElem? {α : Type} {l : List α} {i : Nat} {x : α} (h : l[i]? = some x) :
    l.set i x = l := by
  rw [← (List.getElem?_eq_some_iff.mp h).2, List.set_getElem_self]

/-- Where things have different keys, what happens to the one under a key leaves all others as they
    are. -/
theorem split_of_find? {α : Type} (key : α → Nat) {l : List α} (hn : (l.map key).Nodup) {k : Nat}
    {x : α} (h : l.find? (fun y => key y = k) = some x) :
    ∃ before after, l = before ++ x :: after ∧
      l.filter (fun y => key y ≠ k) = before ++ after ∧
      ∀ f : α → α, l.map (fun y => if key y = k then f y else y) = before ++ f x :: after := by
  obtain ⟨hkey, before, after, hsplit, hbefore⟩ := List.find?_eq_some_iff_append.mp h
  have hkey : key x = k := by simpa using hkey
  have hbefore : ∀ y ∈ before, key y ≠ k := by simpa using hbefore
  -- the search stops at the first one under this key, and there is no second one
  have hafter : ∀ y ∈ after, key y ≠ k := by
    intro y hy heq
    rw [hsplit, List.map_append, List.map_cons] at hn
    have hnotin := (List.nodup_cons.mp (List.nodup_append.mp hn).2.1).1
    exact hnotin (List.mem_map.mpr ⟨y, hy, heq.trans hkey.symm⟩)
  refine ⟨before, after, hsplit, ?_, ?_⟩
  · have hkept : ∀ l : List α, (∀ y ∈ l, key y ≠ k) → l.filter (fun y => key y ≠ k) = l := by
      intro l hl
      exact List.filter_eq_self.mpr (by simpa using hl)
    rw [hsplit, List.filter_append, List.filter_cons_of_neg (by simp [hkey]),
      hkept before hbefore, hkept after hafter]
  · intro f
    have hkept : ∀ l : List α, (∀ y ∈ l, key y ≠ k) →
        l.map (fun y => if key y = k then f y else y) = l := by
      intro l hl
      exact (List.map_congr_left fun y hy => by simp [hl y hy]).trans l.map_id
    simp [hsplit, hkept before hbefore, hkept after hafter, hkey]

/-- What is read off such things, one by one, when one of them is taken out or changed. -/
theorem filterMap_of_find? {α β : Type} (key : α → Nat) {l : List α} (hn : (l.map key).Nodup)
    {k : Nat} {x : α} (h : l.find? (fun y => key y = k) = some x) (f : α → Option β) :
    (l.filterMap f).Perm ((f x).toList ++ (l.filter fun y => key y ≠ k).filterMap f) ∧
      ∀ g : α → α, ((l.map fun y => if key y = k then g y else y).filterMap f).Perm
        ((f (g x)).toList ++ (l.filter fun y => key y ≠ k).filterMap f) := by
  obtain ⟨before, after, hsplit, hend, hset⟩ := split_of_find? key hn h
  have hmiddle : ∀ y, ((before ++ y :: after).filterMap f).Perm
      ((f y).toList ++ (before ++ after).filterMap f) := by
    intro y
    rw [List.filterMap_append, List.filterMap_append, List.filterMap_cons]
    cases f y with
    | none => exact .refl _
    | some z => exact List.perm_middle
  refine ⟨?_, fun g => ?_⟩
  · rw [hend]
    exact hsplit ▸ hmiddle x
  · rw [hset g, hend]
    exact hmiddle (g x)

/-- Where the thing under a key has been taken out, the others are found as before. -/
theorem find?_filter_key {α : Type} (key : α → Nat) (k : Nat) (l : List α) (n : Nat) :
    (l.filter fun y => key y ≠ k).find? (fun y => key y = n) =
      if n = k then none else l.find? fun y => key y = n := by
  rw [List.find?_filter]
  split
  · next h =>
    subst h
    rw [List.find?_eq_none]
    simp
  · next h =>
    congr 1
    funext y
    by_cases heq : key y = n
    · simp [heq, h]
    · simp [heq]

/-- Where the thing under a key has been changed, it is found so. -/
theorem find?_map_key {α : Type} (key : α → Nat) (g : α → α) (hkey : ∀ y, key (g y) = key y)
    (k : Nat) (l : List α) (n : Nat) :
    (l.map fun y => if key y = k then g y else y).find? (fun y => key y = n) =
      (l.find? fun y => key y = n).map fun y => if n = k then g y else y := by
  have hsame : ((fun y => decide (key y = n)) ∘ fun y => if key y = k then g y else y) =
      fun y => decide (key y = n) := by
    funext y
    by_cases hy : key y = k <;> simp [hy, hkey]
  rw [List.find?_map, hsame]
  cases hfound : l.find? fun y => key y = n with
  | none => rfl
  | some y =>
    have hy : key y = n := by simpa using List.find?_some hfound
    simp [hy]

/-! ### Tickets -/

/-- The tickets of all messages that are not gone. -/
def State.tickets (s : State) : List Nat :=
  s.tasks.map (·.ticket) ++ (s.line.map (·.ticket) ++ s.queue.map (·.1))

/-- Messages have different tickets, and those of later messages are still to be given out. -/
structure State.Numbered (s : State) : Prop where
  nodup : s.tickets.Nodup
  lt_next : ∀ t ∈ s.tickets, t < s.nextTicket

theorem map_ticket_setTask (s : State) (ticket : Nat) (phase : Task.Phase) :
    (s.setTask ticket phase).tasks.map (·.ticket) = s.tasks.map (·.ticket) := by
  simp only [State.setTask, List.map_map]
  apply List.map_congr_left
  intro task _
  by_cases h : task.ticket = ticket <;> simp [h]

theorem ticket_of_task? {task : Task} (h : s.task? ticket = some task) :
    task ∈ s.tasks ∧ task.ticket = ticket :=
  ⟨List.mem_of_find?_eq_some h, by simpa using List.find?_some h⟩

theorem State.Numbered.next_not_mem (hn : s.Numbered) : s.nextTicket ∉ s.tickets :=
  fun hmem => Nat.lt_irrefl _ (hn.lt_next _ hmem)

theorem State.Numbered.nodup_tasks (hn : s.Numbered) : (s.tasks.map (·.ticket)).Nodup :=
  (List.nodup_append.mp hn.nodup).1

/-- A message that leaves, or only changes its place, takes no ticket. -/
theorem State.Numbered.of_sublist (hn : s.Numbered) {tickets : List Nat}
    (hperm : tickets.Perm s.tickets) (hsub : s'.tickets.Sublist tickets)
    (hnext : s'.nextTicket = s.nextTicket) : s'.Numbered := by
  refine ⟨(hperm.nodup_iff.mpr hn.nodup).sublist hsub, ?_⟩
  intro t ht
  rw [hnext]
  exact hn.lt_next t (hperm.mem_iff.mp (hsub.subset ht))

theorem State.Numbered.endTask (hn : s.Numbered) (ticket : Nat) : (s.endTask ticket).Numbered :=
  hn.of_sublist (.refl _) ((List.filter_sublist.map _).append (.refl _)) rfl

theorem State.Numbered.setTask (hn : s.Numbered) (ticket : Nat) (phase : Task.Phase) :
    (s.setTask ticket phase).Numbered := by
  refine hn.of_sublist (.refl _) ?_ rfl
  rw [State.tickets, map_ticket_setTask]
  exact .refl _

/-- A task that ends or goes on leaves all others as they are. -/
theorem State.Numbered.tasks_split (hn : s.Numbered) {task : Task}
    (h : s.task? ticket = some task) :
    ∃ before after, s.tasks = before ++ task :: after ∧
      (s.endTask ticket).tasks = before ++ after ∧
      ∀ phase, (s.setTask ticket phase).tasks = before ++ { task with phase } :: after := by
  obtain ⟨before, after, hsplit, hend, hset⟩ :=
    split_of_find? Task.ticket hn.nodup_tasks h
  exact ⟨before, after, hsplit, hend, fun phase => hset fun task => { task with phase }⟩

/-- No step gives a ticket twice. -/
theorem State.Step.numbered (h : s.Step a es s') (hn : s.Numbered) : s'.Numbered := by
  have hnodup := hn.nodup
  have hlt := hn.lt_next
  cases h with
  | accept topic payload hopen =>
    -- the new ticket comes to all others, and is greater than each of them
    have hnew := hn.next_not_mem
    have hperm : (State.tickets { s with
        tasks := s.tasks ++ [{ ticket := s.nextTicket, topic, payload }],
        nextTicket := s.nextTicket + 1 }).Perm (s.nextTicket :: s.tickets) := by
      simp only [State.tickets, List.map_append, List.map_cons, List.map_nil, List.append_assoc,
        List.singleton_append]
      exact List.perm_middle
    refine ⟨hperm.nodup_iff.mpr (List.nodup_cons.mpr ⟨hnew, hnodup⟩), ?_⟩
    intro t ht
    rcases List.mem_cons.mp (hperm.mem_iff.mp ht) with rfl | ht
    · exact Nat.lt_succ_self _
    · exact Nat.lt_succ_of_lt (hlt t ht)
  | drop topic payload hshut => exact hn
  | reject htask hphase hjudge => exact hn.endTask _
  | ask htask hphase hjudge => exact hn.setTask _ _
  | refuse htask hphase hanswer => exact hn.endTask _
  | acquire htask hphase => exact hn.setTask _ _
  | @queueUp ticket task command htask hphase =>
    obtain ⟨before, after, hsplit, hend, -⟩ := hn.tasks_split htask
    refine hn.of_sublist ?_ (.refl _) rfl
    have hticket := (ticket_of_task? htask).2
    simp only [State.tickets, hend, hsplit, List.map_append, List.map_cons, List.map_nil,
      List.append_assoc, hticket]
    -- the ticket goes from between the tasks to the end of the line
    have hmiddle : (after.map (·.ticket) ++ s.line.map (·.ticket) ++
        ticket :: s.queue.map (·.1)).Perm
          (ticket :: (after.map (·.ticket) ++ s.line.map (·.ticket) ++ s.queue.map (·.1))) :=
      List.perm_middle
    refine List.Perm.append_left _ ?_
    simpa only [State.endTask, List.append_assoc, List.nil_append, List.cons_append] using hmiddle
  | forward hline hreceiver hroom =>
    refine hn.of_sublist ?_ (.refl _) rfl
    simp only [State.tickets, hline, List.map_cons, List.map_append, List.map_nil,
      List.cons_append]
    -- the ticket goes from the head of the line to the end of the queue
    refine List.Perm.append_left _ ?_
    rw [← List.append_assoc]
    exact List.perm_append_singleton _ _
  | discard hline hreceiver =>
    refine hn.of_sublist (.refl _) ?_ rfl
    simp [State.tickets, hline]
  | receive hqueue hreceiver =>
    refine hn.of_sublist (.refl _) ?_ rfl
    simp [State.tickets, hqueue]
  | dropReceiver hreceiver =>
    refine hn.of_sublist (.refl _) ?_ rfl
    simp [State.tickets]
  | _ => exact ⟨hnodup, hlt⟩

/-! ### Places -/

/-- Where a message stands. -/
inductive Place where
  /-- No message has this ticket yet. -/
  | unborn
  | task (task : Task)
  | line (waiter : Waiter)
  | queue (command : Command)
  /-- The handler is done with it. -/
  | gone
deriving DecidableEq, Repr

/-- The message in line that has a ticket. -/
def State.waiter? (s : State) (ticket : Nat) : Option Waiter := s.line.find? (·.ticket = ticket)

/-- The command on the queue that has a ticket. -/
def State.queued? (s : State) (ticket : Nat) : Option Command :=
  (s.queue.find? (·.1 = ticket)).map (·.2)

/-- The place of the message that has a ticket. -/
def State.place (s : State) (ticket : Nat) : Place :=
  match s.task? ticket with
  | some task => .task task
  | none =>
    match s.waiter? ticket with
    | some waiter => .line waiter
    | none =>
      match s.queued? ticket with
      | some command => .queue command
      | none => if ticket < s.nextTicket then .gone else .unborn

theorem State.place_of_task {task : Task} (h : s.task? ticket = some task) :
    s.place ticket = .task task := by
  simp [State.place, h]

/-- A task is known by its ticket, its message and its phase. -/
theorem State.place_of_phase {task : Task} {phase : Task.Phase} (h : s.task? ticket = some task)
    (hphase : task.phase = phase) :
    s.place ticket = .task { ticket, topic := task.topic, payload := task.payload, phase } := by
  rw [State.place_of_task h, ← (ticket_of_task? h).2, ← hphase]

/-- In a list without two things of one key, a thing is all that there is under its key. -/
theorem filter_of_mem {α : Type} (key : α → Nat) {l : List α} (hn : (l.map key).Nodup) {x : α}
    (hx : x ∈ l) : l.filter (fun y => key y = key x) = [x] := by
  induction l with
  | nil => cases hx
  | cons y rest ih =>
    have hy : key y ∉ rest.map key := (List.nodup_cons.mp hn).1
    rcases List.mem_cons.mp hx with rfl | hx
    · have hrest : rest.filter (fun y => key y = key x) = [] := by
        rw [List.filter_eq_nil_iff]
        intro z hz heq
        exact hy (List.mem_map.mpr ⟨z, hz, by simpa using heq⟩)
      rw [List.filter_cons_of_pos (by simp), hrest]
    · have hne : key y ≠ key x := fun heq => hy (heq ▸ List.mem_map_of_mem hx)
      rw [List.filter_cons_of_neg (by simpa using hne)]
      exact ih (List.nodup_cons.mp hn).2 hx

theorem find?_of_mem {α : Type} (key : α → Nat) {l : List α} (hn : (l.map key).Nodup) {x : α}
    (hx : x ∈ l) : l.find? (fun y => key y = key x) = some x := by
  rw [← List.head?_filter, filter_of_mem key hn hx, List.head?_cons]

theorem find?_of_not_mem {α : Type} (key : α → Nat) {l : List α} (h : t ∉ l.map key) :
    l.find? (fun y => key y = t) = none := by
  rw [List.find?_eq_none]
  intro y hy heq
  exact h (List.mem_map.mpr ⟨y, hy, by simpa using heq⟩)

theorem State.task?_of_not_mem (h : t ∉ s.tasks.map (·.ticket)) : s.task? t = none :=
  find?_of_not_mem Task.ticket h

theorem State.waiter?_of_not_mem (h : t ∉ s.line.map (·.ticket)) : s.waiter? t = none :=
  find?_of_not_mem Waiter.ticket h

theorem State.queued?_of_not_mem (h : t ∉ s.queue.map (·.1)) : s.queued? t = none := by
  rw [State.queued?, find?_of_not_mem Prod.fst h, Option.map_none]

/-- A ticket that no message has any more, or none has yet. -/
theorem State.place_of_not_mem (h : t ∉ s.tickets) :
    s.place t = if t < s.nextTicket then .gone else .unborn := by
  simp only [State.tickets, List.mem_append, not_or] at h
  simp [State.place, State.task?_of_not_mem h.1, State.waiter?_of_not_mem h.2.1,
    State.queued?_of_not_mem h.2.2]

/-- The next message has not come yet. -/
theorem State.Numbered.place_next (hn : s.Numbered) : s.place s.nextTicket = .unborn := by
  rw [State.place_of_not_mem hn.next_not_mem, if_neg (Nat.lt_irrefl _)]

/-- The task of a new message is found among the others. -/
theorem State.Numbered.task?_next (hn : s.Numbered) (task : Task) (next : Nat)
    (h : task.ticket = s.nextTicket) :
    State.task? { s with tasks := s.tasks ++ [task], nextTicket := next } s.nextTicket =
      some task := by
  have hnone : s.tasks.find? (·.ticket = s.nextTicket) = none :=
    State.task?_of_not_mem fun hmem => hn.next_not_mem (List.mem_append_left _ hmem)
  simp [State.task?, List.find?_append, hnone, h]

/-- Where nothing has changed about a ticket, its message stands where it stood. -/
theorem State.place_congr (htask : s'.task? t = s.task? t) (hwaiter : s'.waiter? t = s.waiter? t)
    (hqueued : s'.queued? t = s.queued? t) (hnext : t < s'.nextTicket ↔ t < s.nextTicket) :
    s'.place t = s.place t := by
  simp only [State.place, htask, hwaiter, hqueued, hnext]

/-- No message in line has a task. -/
theorem State.Numbered.not_mem_of_line (hn : s.Numbered) (h : t ∈ s.line.map (·.ticket)) :
    t ∉ s.tasks.map (·.ticket) := by
  intro hmem
  exact (List.nodup_append.mp hn.nodup).2.2 t hmem t (List.mem_append_left _ h) rfl

/-- No message on the queue has a task or is in line. -/
theorem State.Numbered.not_mem_of_queue (hn : s.Numbered) (h : t ∈ s.queue.map (·.1)) :
    t ∉ s.tasks.map (·.ticket) ∧ t ∉ s.line.map (·.ticket) := by
  have hall := List.nodup_append.mp hn.nodup
  constructor
  · intro hmem
    exact hall.2.2 t hmem t (List.mem_append_right _ h) rfl
  · intro hmem
    exact (List.nodup_append.mp hall.2.1).2.2 t hmem t h rfl

theorem State.Numbered.nodup_queue (hn : s.Numbered) : (s.queue.map (·.1)).Nodup :=
  (List.nodup_append.mp (List.nodup_append.mp hn.nodup).2.1).2.1

theorem State.Numbered.place_of_line (hn : s.Numbered) (waiter : Waiter) (h : waiter ∈ s.line) :
    s.place waiter.ticket = .line waiter := by
  have hnodup := (List.nodup_append.mp (List.nodup_append.mp hn.nodup).2.1).1
  have htask : s.task? waiter.ticket = none :=
    State.task?_of_not_mem (hn.not_mem_of_line (List.mem_map_of_mem h))
  have hwaiter : s.waiter? waiter.ticket = some waiter :=
    find?_of_mem Waiter.ticket hnodup h
  simp [State.place, htask, hwaiter]

theorem State.Numbered.place_of_queue (hn : s.Numbered) (ticket : Nat) (command : Command)
    (h : (ticket, command) ∈ s.queue) : s.place ticket = .queue command := by
  obtain ⟨htasks, hline⟩ := hn.not_mem_of_queue (List.mem_map_of_mem h)
  have hqueued : s.queued? ticket = some command := by
    rw [State.queued?, find?_of_mem Prod.fst hn.nodup_queue h, Option.map_some]
  simp [State.place, State.task?_of_not_mem htasks, State.waiter?_of_not_mem hline, hqueued]

theorem State.inFlight_eq_zero : s.inFlight = 0 ↔ s.tasks = [] ∧ s.line = [] := by
  simp [State.inFlight]

/-- When nothing is in flight, messages are on the queue or gone. -/
theorem State.place_of_idle (h : s.inFlight = 0) (t : Nat) :
    s.place t = .unborn ∨ s.place t = .gone ∨ ∃ command, s.place t = .queue command := by
  obtain ⟨htasks, hline⟩ := State.inFlight_eq_zero.mp h
  have htask : s.task? t = none := by simp [State.task?, htasks]
  have hwaiter : s.waiter? t = none := by simp [State.waiter?, hline]
  cases hqueued : s.queued? t with
  | some command => exact .inr (.inr ⟨command, by simp [State.place, htask, hwaiter, hqueued]⟩)
  | none =>
    by_cases hlt : t < s.nextTicket
    · exact .inr (.inl (by simp [State.place, htask, hwaiter, hqueued, hlt]))
    · exact .inl (by simp [State.place, htask, hwaiter, hqueued, hlt])

/-! ### From place to place -/

/-- How a message gets from one place to another, and what is written down then. -/
inductive Moves (t : Nat) : Place → List Entry → Place → Prop
  | accept (topic : String) (payload : Bytes) :
    Moves t .unborn [.accepted t topic payload] (.task { ticket := t, topic, payload })
  | reject {topic : String} {payload : Bytes}
    (hjudge : ∀ command, judge topic payload ≠ .command command) :
    Moves t (.task { ticket := t, topic, payload }) [.rejected t] .gone
  | ask {topic : String} {payload : Bytes} {command : Command}
    (hjudge : judge topic payload = .command command) :
    Moves t (.task { ticket := t, topic, payload }) [.asked t (lockKey command)]
      (.task { ticket := t, topic, payload, phase := .locking command })
  | refuse {topic : String} {payload : Bytes} {command : Command}
    {answer : Except Lock.StoreError Bool} (hanswer : answer ≠ .ok true) :
    Moves t (.task { ticket := t, topic, payload, phase := .locking command })
      [.answered t answer] .gone
  | acquire {topic : String} {payload : Bytes} {command : Command} :
    Moves t (.task { ticket := t, topic, payload, phase := .locking command })
      [.answered t (.ok true)]
      (.task { ticket := t, topic, payload, phase := .locked command })
  | queueUp {topic : String} {payload : Bytes} {command : Command} :
    Moves t (.task { ticket := t, topic, payload, phase := .locked command }) []
      (.line { ticket := t, topic, command })
  | forward {topic : String} {command : Command} :
    Moves t (.line { ticket := t, topic, command }) [.forwarded t command] (.queue command)
  | discard {topic : String} {command : Command} :
    Moves t (.line { ticket := t, topic, command }) [.discarded t command] .gone
  | receive {command : Command} : Moves t (.queue command) [.received t command] .gone
  | lose {command : Command} : Moves t (.queue command) [.lost t command] .gone

theorem State.task?_endTask_of_ne (h : t ≠ ticket) : (s.endTask ticket).task? t = s.task? t :=
  (find?_filter_key Task.ticket ticket s.tasks t).trans (if_neg h)

theorem State.task?_setTask (ticket : Nat) (phase : Task.Phase) (t : Nat) :
    (s.setTask ticket phase).task? t =
      (s.task? t).map fun task => if t = ticket then { task with phase } else task :=
  find?_map_key Task.ticket (fun task => { task with phase }) (fun _ => rfl) ticket s.tasks t

theorem State.task?_setTask_self {task : Task} {phase : Task.Phase}
    (h : s.task? ticket = some task) :
    (s.setTask ticket phase).task? ticket = some { task with phase } := by
  simp [State.task?_setTask, h]

theorem State.task?_setTask_of_ne {phase : Task.Phase} (h : t ≠ ticket) :
    (s.setTask ticket phase).task? t = s.task? t := by
  simp [State.task?_setTask, h]

/-- A message whose ticket is no longer there is gone. -/
theorem State.Numbered.place_of_left (hn : s.Numbered) (h : s.tickets.Perm (t :: s'.tickets))
    (hnext : s'.nextTicket = s.nextTicket) : s'.place t = .gone := by
  have hnotin : t ∉ s'.tickets := (List.nodup_cons.mp (h.nodup_iff.mp hn.nodup)).1
  have hlt : t < s'.nextTicket := by
    rw [hnext]
    exact hn.lt_next t (h.mem_iff.mpr (List.mem_cons_self ..))
  rw [State.place_of_not_mem hnotin, if_pos hlt]

theorem State.Numbered.place_endTask (hn : s.Numbered) {task : Task}
    (h : s.task? ticket = some task) : (s.endTask ticket).place ticket = .gone := by
  obtain ⟨before, after, hsplit, hend, -⟩ := hn.tasks_split h
  refine hn.place_of_left ?_ rfl
  simp only [State.tickets, hsplit, hend, List.map_append, List.map_cons, List.append_assoc,
    (ticket_of_task? h).2]
  exact List.perm_middle

theorem State.place_setTask {task : Task} (h : s.task? ticket = some task)
    (phase : Task.Phase) : (s.setTask ticket phase).place ticket =
      .task { ticket, topic := task.topic, payload := task.payload, phase } := by
  rw [State.place_of_phase (State.task?_setTask_self h) rfl]

theorem State.place_endTask_of_ne (h : t ≠ ticket) : (s.endTask ticket).place t = s.place t :=
  State.place_congr (State.task?_endTask_of_ne h) rfl rfl Iff.rfl

theorem State.place_setTask_of_ne {phase : Task.Phase} (h : t ≠ ticket) :
    (s.setTask ticket phase).place t = s.place t :=
  State.place_congr (State.task?_setTask_of_ne h) rfl rfl Iff.rfl

theorem about_single_self {e : Entry} (h : e.ticket? = some t) : about t [e] = [e] := by
  simp [about, h]

theorem about_single_of_ne {e : Entry} (h : e.ticket? = some ticket) (hne : t ≠ ticket) :
    about t [e] = [] := by
  simp [about, h, Ne.symm hne]

theorem about_map_lost (t : Nat) (queue : List (Nat × Command)) :
    about t (queue.map fun e => .lost e.1 e.2) =
      (queue.filter (·.1 = t)).map fun e => .lost e.1 e.2 := by
  simp [about, List.filter_map, Function.comp_def, Entry.ticket?]

/-- A step leaves a message where it stands and writes nothing down about it, or the message
    moves. -/
theorem State.Step.moves (h : s.Step a es s') (hn : s.Numbered) (t : Nat) :
    (s'.place t = s.place t ∧ about t es = []) ∨
      Moves t (s.place t) (about t es) (s'.place t) := by
  have hn' := h.numbered hn
  -- a step is about one ticket; of the others, neither place nor record changes
  cases h with
  | accept topic payload hopen =>
    by_cases ht : t = s.nextTicket
    · subst ht
      right
      have htask := hn.task?_next { ticket := s.nextTicket, topic, payload } (s.nextTicket + 1) rfl
      rw [hn.place_next, about_single_self rfl, State.place_of_task htask]
      exact .accept topic payload
    · left
      refine ⟨State.place_congr ?_ rfl rfl ?_, about_single_of_ne rfl ht⟩
      · simp [State.task?, List.find?_append, Ne.symm ht]
      · show t < s.nextTicket + 1 ↔ t < s.nextTicket
        omega
  | drop topic payload hshut => exact .inl ⟨rfl, rfl⟩
  | @reject ticket task htask hphase hjudge =>
    by_cases ht : t = ticket
    · subst ht
      right
      rw [State.place_of_phase htask hphase, hn.place_endTask htask, about_single_self rfl]
      exact .reject hjudge
    · exact .inl ⟨State.place_endTask_of_ne ht, about_single_of_ne rfl ht⟩
  | @ask ticket task command htask hphase hjudge =>
    by_cases ht : t = ticket
    · subst ht
      right
      rw [State.place_of_phase htask hphase, State.place_setTask htask, about_single_self rfl]
      exact .ask hjudge
    · exact .inl ⟨State.place_setTask_of_ne ht, about_single_of_ne rfl ht⟩
  | @refuse ticket task command answer htask hphase hanswer =>
    by_cases ht : t = ticket
    · subst ht
      right
      rw [State.place_of_phase htask hphase, hn.place_endTask htask, about_single_self rfl]
      exact .refuse hanswer
    · exact .inl ⟨State.place_endTask_of_ne ht, about_single_of_ne rfl ht⟩
  | @acquire ticket task command htask hphase =>
    by_cases ht : t = ticket
    · subst ht
      right
      rw [State.place_of_phase htask hphase, State.place_setTask htask, about_single_self rfl]
      exact .acquire
    · exact .inl ⟨State.place_setTask_of_ne ht, about_single_of_ne rfl ht⟩
  | @queueUp ticket task command htask hphase =>
    by_cases ht : t = ticket
    · subst ht
      right
      have hplace := hn'.place_of_line { ticket := t, topic := task.topic, command }
        (List.mem_append_right _ (List.mem_singleton_self _))
      rw [State.place_of_phase htask hphase, hplace]
      exact .queueUp
    · left
      refine ⟨State.place_congr ?_ ?_ rfl Iff.rfl, rfl⟩
      · exact State.task?_endTask_of_ne ht
      · simp [State.waiter?, List.find?_append, Ne.symm ht]
  | @forward waiter line hline hreceiver hroom =>
    by_cases ht : t = waiter.ticket
    · subst ht
      right
      have hplace := hn'.place_of_queue waiter.ticket waiter.command
        (List.mem_append_right _ (List.mem_singleton_self _))
      rw [hn.place_of_line _ (hline ▸ List.mem_cons_self ..), hplace, about_single_self rfl]
      exact .forward
    · left
      refine ⟨State.place_congr rfl ?_ ?_ Iff.rfl, about_single_of_ne rfl ht⟩
      · simp [State.waiter?, hline, Ne.symm ht]
      · simp [State.queued?, List.find?_append, Ne.symm ht]
  | @discard waiter line hline hreceiver =>
    by_cases ht : t = waiter.ticket
    · subst ht
      right
      have hgone : State.place { s with line } waiter.ticket = .gone := by
        refine hn.place_of_left ?_ rfl
        simp only [State.tickets, hline, List.map_cons, List.cons_append]
        exact List.perm_middle
      rw [hn.place_of_line _ (hline ▸ List.mem_cons_self ..), hgone, about_single_self rfl]
      exact .discard
    · left
      refine ⟨State.place_congr rfl ?_ rfl Iff.rfl, about_single_of_ne rfl ht⟩
      simp [State.waiter?, hline, Ne.symm ht]
  | @receive ticket command queue hqueue hreceiver =>
    by_cases ht : t = ticket
    · subst ht
      right
      have hgone : State.place { s with queue } t = .gone := by
        refine hn.place_of_left ?_ rfl
        simp only [State.tickets, hqueue, List.map_cons, ← List.append_assoc]
        exact List.perm_middle
      rw [hn.place_of_queue _ _ (hqueue ▸ List.mem_cons_self ..), hgone, about_single_self rfl]
      exact .receive
    · left
      refine ⟨State.place_congr rfl rfl ?_ Iff.rfl, about_single_of_ne rfl ht⟩
      simp [State.queued?, hqueue, Ne.symm ht]
  | dropReceiver hreceiver =>
    -- only this step can be about several tickets, those on the queue
    by_cases ht : t ∈ s.queue.map (·.1)
    · right
      obtain ⟨⟨number, command⟩, hmem, rfl⟩ := List.mem_map.mp ht
      have hlt := hn.lt_next _ (List.mem_append_right _ (List.mem_append_right _ ht))
      have hgone : State.place { s with receiver := false, queue := [] } number = .gone := by
        rw [State.place_of_not_mem (by simpa [State.tickets] using hn.not_mem_of_queue ht),
          if_pos hlt]
      have hfilter := filter_of_mem Prod.fst hn.nodup_queue hmem
      rw [hn.place_of_queue _ _ hmem, hgone, about_map_lost, hfilter]
      exact .lose
    · left
      refine ⟨State.place_congr rfl rfl (State.queued?_of_not_mem ht).symm Iff.rfl, ?_⟩
      have hnone : ∀ e ∈ s.queue, ¬ e.1 = t := fun e he heq => ht (heq ▸ List.mem_map_of_mem he)
      rw [about_map_lost, List.filter_eq_nil_iff.mpr (by simpa using hnone), List.map_nil]
  | _ => exact .inl ⟨rfl, rfl⟩

end LoraBridge.Handler
