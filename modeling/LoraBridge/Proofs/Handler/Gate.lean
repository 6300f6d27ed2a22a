import LoraBridge.Proofs.Handler.Story

/-! # What gets onto the queue

  Commands reach the network server by its queue alone. The queue is fed by messages whose topic
  and payload agree on a device and whose lock was granted, and each of these puts its own
  command there once.

  - `forwarded_eq`: the queue is first in, first out, and nothing else changes it.
  - `forwarded_passed_gate`: what is put on the queue has passed all checks.
-/

namespace LoraBridge.Handler

variable {s s' : State} {a : Action} {steps : List (State × Action)} {es : List Entry}

/-! ### Entries about the queue -/

/-- The command that an entry says was put on the queue. -/
def Entry.forwarded? : Entry → Option (Nat × Command)
  | .forwarded ticket command => some (ticket, command)
  | _ => none

/-- The command that an entry says was taken from the queue, by the network server or when that
    stopped receiving. -/
def Entry.taken? : Entry → Option (Nat × Command)
  | .received ticket command => some (ticket, command)
  | .lost ticket command => some (ticket, command)
  | _ => none

/-- The ticket of a message that an entry says was accepted. -/
def Entry.accepted? : Entry → Option Nat
  | .accepted ticket _ _ => some ticket
  | _ => none

theorem filterMap_lost_taken (queue : List (Nat × Command)) :
    (queue.map fun e => Entry.lost e.1 e.2).filterMap Entry.taken? = queue := by
  simp [List.filterMap_map, Function.comp_def, Entry.taken?]

theorem filterMap_lost_forwarded (queue : List (Nat × Command)) :
    (queue.map fun e => Entry.lost e.1 e.2).filterMap Entry.forwarded? = [] := by
  simp [List.filterMap_map, Function.comp_def, Entry.forwarded?]

/-- What is put on the queue comes after what is there, and what is taken was first. -/
theorem State.Step.queue_eq (h : s.Step a es s') :
    s.queue ++ es.filterMap Entry.forwarded? = es.filterMap Entry.taken? ++ s'.queue := by
  cases h with
  | forward hline hreceiver hroom => rfl
  | receive hqueue hreceiver => simp [hqueue, List.filterMap_cons, Entry.forwarded?, Entry.taken?]
  | dropReceiver hreceiver => rw [filterMap_lost_forwarded, filterMap_lost_taken]
  | _ => exact List.append_nil _

/-- What was put on the queue from a state on has been taken, or is there still. -/
theorem forwarded_eq {start : State} (h : Run State.step? start steps s) :
    start.queue ++ (record steps).filterMap Entry.forwarded? =
      (record steps).filterMap Entry.taken? ++ s.queue := by
  induction h with
  | refl => simp
  | step _ now ih =>
    rw [record_append, record_single, List.filterMap_append, List.filterMap_append,
      ← List.append_assoc, ih, List.append_assoc, (State.step_cases now).queue_eq,
      List.append_assoc]

/-! ### Once for each message -/

/-- To count entries of one ticket it is enough to look at the entries about it. -/
theorem count_filterMap_about {f : Entry → Option Nat}
    (hf : ∀ e t, f e = some t → e.ticket? = some t) (t : Nat) (es : List Entry) :
    (es.filterMap f).count t = ((about t es).filterMap f).count t := by
  induction es with
  | nil => rfl
  | cons e es ih =>
    by_cases he : e.ticket? = some t
    · have habout : about t (e :: es) = e :: about t es := by simp [about, he]
      rw [habout, List.filterMap_cons, List.filterMap_cons]
      cases f e with
      | none => exact ih
      | some u => rw [List.count_cons, List.count_cons, ih]
    · -- an entry of another ticket does not count
      have habout : about t (e :: es) = about t es := by simp [about, he]
      rw [habout, List.filterMap_cons, ← ih]
      cases hfe : f e with
      | none => rfl
      | some u =>
        have hne : u ≠ t := fun heq => he (heq ▸ hf e u hfe)
        exact List.count_cons_of_ne hne

theorem Story.count_accepted_le {t : Nat} {p : Place} (h : Story t p es) :
    (es.filterMap Entry.accepted?).count t ≤ 1 := by
  cases h <;> simp [granted, List.filterMap_cons, Entry.accepted?]

theorem Story.count_forwarded_le {t : Nat} {p : Place} (h : Story t p es) :
    (es.filterMap fun e => e.forwarded?.map (·.1)).count t ≤ 1 := by
  cases h <;> simp [granted, Entry.forwarded?]

/-- What every story says once at most, a record says once at most of every ticket. -/
theorem nodup_record {f : Entry → Option Nat} (hf : ∀ e t, f e = some t → e.ticket? = some t)
    (hstory : ∀ t p es, Story t p es → (es.filterMap f).count t ≤ 1)
    (h : Run State.step? {} steps s) : ((record steps).filterMap f).Nodup := by
  rw [List.nodup_iff_count]
  intro t
  rw [count_filterMap_about hf]
  exact hstory t _ _ (story_of_run h t)

theorem nodup_accepted (h : Run State.step? {} steps s) :
    ((record steps).filterMap Entry.accepted?).Nodup := by
  refine nodup_record ?_ (fun t p es hs => hs.count_accepted_le) h
  intro e t he
  cases e <;> simp_all [Entry.accepted?, Entry.ticket?]

theorem nodup_forwarded (h : Run State.step? {} steps s) :
    (((record steps).filterMap Entry.forwarded?).map (·.1)).Nodup := by
  rw [List.map_filterMap]
  refine nodup_record ?_ (fun t p es hs => hs.count_forwarded_le) h
  intro e t he
  cases e <;> simp_all [Entry.forwarded?, Entry.ticket?]

/-! ### The gate -/

theorem judge_eq_command {topic : String} {payload : Bytes} {command : Command} :
    judge topic payload = .command command ↔
      ∃ address, TopicAddress.ofCommandTopic? topic = some address ∧
        Command.decode payload = .ok command ∧ command.device = address.device := by
  unfold judge
  cases TopicAddress.ofCommandTopic? topic with
  | none => simp
  | some address =>
    cases Command.decode payload with
    | error e => simp
    | ok found =>
      dsimp only
      split <;> grind

/-- An entry in a record is one of its steps. -/
theorem mem_record {e : Entry} (h : e ∈ record steps) :
    ∃ r a, (r, a) ∈ steps ∧ e ∈ r.entries a := by
  obtain ⟨⟨r, a⟩, hstep, he⟩ := List.mem_flatMap.mp h
  exact ⟨r, a, hstep, he⟩

/-- A message is accepted when it is dispatched. -/
theorem dispatched_of_accepted {t : Nat} {topic : String} {payload : Bytes}
    (h : .accepted t topic payload ∈ record steps) :
    ∃ r, (r, .dispatch (.message topic payload)) ∈ steps ∧ r.nextTicket = t := by
  obtain ⟨r, a, hstep, he⟩ := mem_record h
  refine ⟨r, ?_⟩
  cases a with
  | dispatch event =>
    cases event with
    | message topic' payload' =>
      simp only [State.entries] at he
      split at he <;> simp at he
      obtain ⟨rfl, rfl, rfl⟩ := he
      exact ⟨hstep, rfl⟩
    | _ => simp [State.entries] at he
  | judge ticket =>
    simp only [State.entries] at he
    split at he <;> (try split at he) <;> simp at he
  | send =>
    simp only [State.entries] at he
    split at he <;> (try split at he) <;> simp at he
  | receive =>
    simp only [State.entries] at he
    split at he <;> simp at he
  | _ => simp [State.entries] at he

/-- After any run, what was ever put on the queue has been taken from it in this order, save for
    what is there still. Each command on it is that of a message of its own, which was dispatched,
    has the topic of a device and a payload that is this very command, and names the same device
    in both; and the store had granted its lock before. A message whose lock was not granted puts
    nothing there. -/
theorem forwarded_passed_gate (h : Run State.step? {} steps s) :
    (record steps).filterMap Entry.forwarded? =
        (record steps).filterMap Entry.taken? ++ s.queue ∧
      (((record steps).filterMap Entry.forwarded?).map (·.1)).Nodup ∧
      ((record steps).filterMap Entry.accepted?).Nodup ∧
      (∀ t command, .forwarded t command ∈ record steps →
        ∃ r topic payload address, (r, .dispatch (.message topic payload)) ∈ steps ∧
          r.nextTicket = t ∧ TopicAddress.ofCommandTopic? topic = some address ∧
          Command.decode payload = .ok command ∧ command.device = address.device ∧
          [.accepted t topic payload, .asked t (lockKey command), .answered t (.ok true),
            .forwarded t command].Sublist (record steps)) ∧
      (∀ t answer, .answered t answer ∈ record steps → answer ≠ .ok true →
        ∀ command, .forwarded t command ∉ record steps) := by
  refine ⟨?_, nodup_forwarded h, nodup_accepted h, ?_, ?_⟩
  · simpa using forwarded_eq h
  · -- the story of its message begins with the acceptance, and each entry of it is in the record
    intro t command hforwarded
    have hstory := story_of_run h t
    obtain ⟨topic, payload, hjudge, hbegin⟩ := hstory.of_forwarded (mem_about hforwarded rfl)
    have hsub := hbegin.sublist.trans (about_sublist t (record steps))
    obtain ⟨address, htopic, hdecode, hdevice⟩ := judge_eq_command.mp hjudge
    obtain ⟨r, hstep, hticket⟩ := dispatched_of_accepted
      (hsub.subset (List.mem_append_left _ (List.mem_cons_self ..)))
    exact ⟨r, topic, payload, address, hstep, hticket, htopic, hdecode, hdevice, hsub⟩
  · intro t answer hanswered hanswer command hforwarded
    exact (story_of_run h t).not_forwarded (mem_about hanswered rfl) hanswer command
      (mem_about hforwarded rfl)

/-! ### An example -/

/-- A command topic. -/
def sampleTopic : String := "application/a1/node/d1/tx"

/-- A command for the device of that topic. -/
def samplePayload : Bytes := Text.bytes "\x7b\"devEUI\":\"d1\",\"reference\":\"r1\"\x7d"

/-- The same command as a record. -/
def sampleCommand : Command := { reference := "r1", device := "d1" }

/-- A command arrives twice. Its second message gets the lock, and the first one does not. -/
def twoCopies : List Action :=
  [.dispatch (.message sampleTopic samplePayload), .dispatch (.message sampleTopic samplePayload),
    .judge 0, .judge 1, .lockReply 1 (.ok true), .lockReply 0 (.ok false), .queueUp 1, .send]

theorem forwarded_passed_gate_twoCopies :
    ∃ steps s, Run State.step? {} steps s ∧ s.queue = [(1, sampleCommand)] ∧
      (∃ r, (r, .dispatch (.message sampleTopic samplePayload)) ∈ steps ∧ r.nextTicket = 1) ∧
      ∀ command, .forwarded 0 command ∉ record steps := by
  have hcomputed : (Run.steps? State.step? {} twoCopies).map (fun run =>
      (run.2.queue, record run.1)) =
      some ([(1, sampleCommand)], [.accepted 0 sampleTopic samplePayload,
        .accepted 1 sampleTopic samplePayload, .asked 0 (lockKey sampleCommand),
        .asked 1 (lockKey sampleCommand), .answered 1 (.ok true), .answered 0 (.ok false),
        .forwarded 1 sampleCommand]) := rfl
  obtain ⟨⟨steps, s⟩, hrun, hfacts⟩ := Option.map_eq_some_iff.mp hcomputed
  simp only [Prod.mk.injEq] at hfacts
  obtain ⟨hqueue, hrecord⟩ := hfacts
  obtain ⟨-, -, -, hpassed, hrefused⟩ := forwarded_passed_gate (Run.of_steps? hrun)
  refine ⟨steps, s, Run.of_steps? hrun, hqueue, ?_, ?_⟩
  · obtain ⟨r, topic, payload, _, hstep, hticket, -, -, -, hsub⟩ :=
      hpassed 1 sampleCommand (by simp [hrecord])
    have haccepted := hsub.subset (List.mem_cons_self ..)
    rw [hrecord] at haccepted
    simp at haccepted
    obtain ⟨rfl, rfl⟩ := haccepted
    exact ⟨r, hstep, hticket⟩
  · exact hrefused 0 (.ok false) (by simp [hrecord]) (by simp)

end LoraBridge.Handler
