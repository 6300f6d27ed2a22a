import LoraBridge.Proofs.Handler.Place

/-! # The story of a message

  Wherever a message stands, the record says how it got there: a `Story` is the record of one
  ticket, from its acceptance on. `story_of_run` tells the stories of all tickets after any run.
-/

namespace LoraBridge.Handler

variable {s s' : State} {steps : List (State × Action)} {t : Nat} {p q : Place}
  {es es' : List Entry} {topic : String} {payload : Bytes} {command : Command}

/-- The record of a message up to the lock of its command. -/
def granted (t : Nat) (topic : String) (payload : Bytes) (command : Command) : List Entry :=
  [.accepted t topic payload, .asked t (lockKey command), .answered t (.ok true)]

/-- The record of a message in a place. -/
inductive Story (t : Nat) : Place → List Entry → Prop
  | unborn : Story t .unborn []
  | fresh (topic : String) (payload : Bytes) :
    Story t (.task { ticket := t, topic, payload }) [.accepted t topic payload]
  | rejected {topic : String} {payload : Bytes}
    (hjudge : ∀ command, judge topic payload ≠ .command command) :
    Story t .gone [.accepted t topic payload, .rejected t]
  | locking {topic : String} {payload : Bytes} {command : Command}
    (hjudge : judge topic payload = .command command) :
    Story t (.task { ticket := t, topic, payload, phase := .locking command })
      [.accepted t topic payload, .asked t (lockKey command)]
  | refused {topic : String} {payload : Bytes} {command : Command}
    {answer : Except Lock.StoreError Bool} (hjudge : judge topic payload = .command command)
    (hanswer : answer ≠ .ok true) :
    Story t .gone
      [.accepted t topic payload, .asked t (lockKey command), .answered t answer]
  | locked {topic : String} {payload : Bytes} {command : Command}
    (hjudge : judge topic payload = .command command) :
    Story t (.task { ticket := t, topic, payload, phase := .locked command })
      (granted t topic payload command)
  | inLine {topic : String} {payload : Bytes} {command : Command}
    (hjudge : judge topic payload = .command command) :
    Story t (.line { ticket := t, topic, command }) (granted t topic payload command)
  | queued {topic : String} {payload : Bytes} {command : Command}
    (hjudge : judge topic payload = .command command) :
    Story t (.queue command) (granted t topic payload command ++ [.forwarded t command])
  | discarded {topic : String} {payload : Bytes} {command : Command}
    (hjudge : judge topic payload = .command command) :
    Story t .gone (granted t topic payload command ++ [.discarded t command])
  | received {topic : String} {payload : Bytes} {command : Command}
    (hjudge : judge topic payload = .command command) :
    Story t .gone
      (granted t topic payload command ++ [.forwarded t command, .received t command])
  | lost {topic : String} {payload : Bytes} {command : Command}
    (hjudge : judge topic payload = .command command) :
    Story t .gone
      (granted t topic payload command ++ [.forwarded t command, .lost t command])

/-- A story goes on as its message moves. -/
theorem Story.moves (h : Story t p es) (hmoves : Moves t p es' q) : Story t q (es ++ es') := by
  cases hmoves with
  | accept topic payload =>
    cases h with
    | unborn => exact .fresh topic payload
  | reject hjudge =>
    cases h with
    | fresh topic payload => exact .rejected hjudge
  | ask hjudge =>
    cases h with
    | fresh topic payload => exact .locking hjudge
  | refuse hanswer =>
    cases h with
    | locking hjudge => exact .refused hjudge hanswer
  | acquire =>
    cases h with
    | locking hjudge => exact .locked hjudge
  | queueUp =>
    cases h with
    | locked hjudge =>
      rw [List.append_nil]
      exact .inLine hjudge
  | forward =>
    cases h with
    | inLine hjudge => exact .queued hjudge
  | discard =>
    cases h with
    | inLine hjudge => exact .discarded hjudge
  | receive =>
    cases h with
    | queued hjudge =>
      rw [List.append_assoc]
      exact .received hjudge
  | lose =>
    cases h with
    | queued hjudge =>
      rw [List.append_assoc]
      exact .lost hjudge

/-! ### Stories of a run -/

theorem numbered_start : State.Numbered {} := by
  constructor <;> simp [State.tickets]

theorem numbered_of_run (h : Run State.step? {} steps s) : s.Numbered :=
  h.invariant numbered_start fun hn now => (State.step_cases now).numbered hn

/-- After any run the record tells the story of every ticket. -/
theorem story_of_run (h : Run State.step? {} steps s) (t : Nat) :
    Story t (s.place t) (about t (record steps)) := by
  induction h with
  | refl => exact .unborn
  | @step steps s a s' hbefore now ih =>
    rw [record_append, record_single, about_append]
    -- the story goes on with what the step writes down about the ticket, if anything
    rcases (State.step_cases now).moves (numbered_of_run hbefore) t with ⟨hsame, hnone⟩ | hmoves
    · rw [hsame, hnone, List.append_nil]
      exact ih
    · exact ih.moves hmoves

/-- While the network server receives, no command has come to nothing on its way to it. -/
theorem not_discarded {start : State} (h : Run State.step? start steps s)
    (hreceiver : s.receiver = true) (t : Nat) (command : Command) :
    .discarded t command ∉ record steps ∧ .lost t command ∉ record steps := by
  induction h with
  | refl => simp
  | step _ now ih =>
    obtain ⟨hbefore, hnone⟩ := (State.step_cases now).receiver (t := t) hreceiver
    rw [record_append, record_single, List.mem_append, List.mem_append, not_or, not_or]
    exact ⟨⟨(ih hbefore).1, (hnone command).1⟩, (ih hbefore).2, (hnone command).2⟩

/-! ### What stories say -/

/-- A task that waits for the lock of a command has asked for it. -/
theorem Story.asked_of_locking {task : Task} (h : Story t (.task task) es)
    (hphase : task.phase = .locking command) : .asked t (lockKey command) ∈ es := by
  cases h with
  | locking hjudge =>
    obtain rfl := Task.Phase.locking.inj hphase
    exact List.mem_cons_of_mem _ (List.mem_singleton_self _)
  | _ => simp at hphase

/-- A message asks for one lock. -/
theorem Story.asked_unique (h : Story t p es) {key key' : String} (hmem : .asked t key ∈ es)
    (hmem' : .asked t key' ∈ es) : key = key' := by
  cases h <;> simp_all [granted]

/-- The lock that a message asks for is that of its command. -/
theorem Story.of_asked {key : String} (h : Story t p es) (hmem : .asked t key ∈ es) :
    ∃ topic payload command, .accepted t topic payload ∈ es ∧
      judge topic payload = .command command ∧ key = lockKey command := by
  cases h with
  | unborn => cases hmem
  | fresh | rejected => simp at hmem
  | locking hjudge | refused hjudge _ | locked hjudge | inLine hjudge | queued hjudge
  | discarded hjudge | received hjudge | lost hjudge =>
    exact ⟨_, _, _, by simp [granted], hjudge, by simpa [granted] using hmem⟩

/-- A message that has come to its end was refused, put on the queue or discarded, if it was a
    command. -/
theorem Story.of_done (h : Story t p es)
    (hplace : p = .unborn ∨ p = .gone ∨ ∃ command, p = .queue command)
    (haccepted : .accepted t topic payload ∈ es)
    (hjudge : judge topic payload = .command command) :
    .asked t (lockKey command) ∈ es ∧
      ((∃ answer, answer ≠ .ok true ∧ .answered t answer ∈ es) ∨
        (.answered t (.ok true) ∈ es ∧
          (.forwarded t command ∈ es ∨ .discarded t command ∈ es))) := by
  cases h with
  | unborn => cases haccepted
  | fresh | locking | locked | inLine => simp at hplace
  | rejected hnone =>
    obtain ⟨rfl, rfl⟩ : topic = _ ∧ payload = _ := by simpa using haccepted
    exact absurd hjudge (hnone command)
  | refused hjudge' hanswer =>
    obtain ⟨rfl, rfl⟩ : topic = _ ∧ payload = _ := by simpa using haccepted
    obtain rfl := Verdict.command.inj (hjudge.symm.trans hjudge')
    exact ⟨by simp, .inl ⟨_, hanswer, by simp⟩⟩
  | discarded hjudge' | queued hjudge' | received hjudge' | lost hjudge' =>
    obtain ⟨rfl, rfl⟩ : topic = _ ∧ payload = _ := by simpa [granted] using haccepted
    obtain rfl := Verdict.command.inj (hjudge.symm.trans hjudge')
    exact ⟨by simp [granted], .inr (by simp [granted])⟩

/-- A command that has been put on the queue is that of its message, and its message got the
    lock before. -/
theorem Story.of_forwarded (h : Story t p es) (hmem : .forwarded t command ∈ es) :
    ∃ topic payload, judge topic payload = .command command ∧
      granted t topic payload command ++ [.forwarded t command] <+: es := by
  -- three stories tell of it: the command is on the queue still, was received, or was lost
  cases h with
  | @queued topic payload command' hjudge =>
    obtain rfl : command = command' := by simpa [granted] using hmem
    exact ⟨topic, payload, hjudge, List.prefix_rfl⟩
  | @received topic payload command' hjudge =>
    obtain rfl : command = command' := by simpa [granted] using hmem
    exact ⟨topic, payload, hjudge, [.received t command], by simp⟩
  | @lost topic payload command' hjudge =>
    obtain rfl : command = command' := by simpa [granted] using hmem
    exact ⟨topic, payload, hjudge, [.lost t command], by simp⟩
  | _ => simp [granted] at hmem

/-- What was asked and put on the queue for a message is what it was judged to be. -/
theorem Story.judged (h : Story t p es) (haccepted : .accepted t topic payload ∈ es) :
    (∀ key, .asked t key ∈ es →
      ∃ command, judge topic payload = .command command ∧ key = lockKey command) ∧
      ∀ command, .forwarded t command ∈ es → judge topic payload = .command command := by
  cases h with
  | unborn => cases haccepted
  | fresh | rejected => simp
  | locking hjudge | refused hjudge _ | locked hjudge | inLine hjudge | discarded hjudge
  | queued hjudge | received hjudge | lost hjudge =>
    obtain ⟨rfl, rfl⟩ : topic = _ ∧ payload = _ := by simpa [granted] using haccepted
    simp [granted, hjudge]

/-- Of a message whose lock was not granted, nothing is put on the queue. -/
theorem Story.not_forwarded (h : Story t p es) {answer : Except Lock.StoreError Bool}
    (hmem : .answered t answer ∈ es) (hanswer : answer ≠ .ok true) (command : Command) :
    .forwarded t command ∉ es := by
  intro hforwarded
  cases h with
  | refused => simp at hforwarded
  | queued | received | lost =>
    obtain rfl : answer = .ok true := by simpa [granted] using hmem
    exact hanswer rfl
  | _ => simp [granted] at hforwarded

end LoraBridge.Handler
