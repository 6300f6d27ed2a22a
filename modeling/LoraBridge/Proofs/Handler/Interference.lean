import LoraBridge.Lock.Store
import LoraBridge.Proofs.Handler.Serial

/-! # Messages that are no commands do not interfere

  Whoever may write to a command topic can send what is no command: under a topic that is none of
  a device, or with a payload that is none or names another device. Nothing comes of it. Of two
  runs one of which has such messages more, all else is the same, save that messages have other
  numbers.

  - `State.step?_unnumbered`: what a handler does between messages does not depend on numbers.
  - `Bench.Alike.step`: neither does what comes of a message.
  - `Bench.Item.Invalid.step`: what is no command leaves a number behind, and nothing else.
  - `Bench.invalid_messages_do_not_interfere`: so all else goes as it would have gone without.
-/

namespace LoraBridge.Handler

/-! ### Without numbers -/

/-- A handler without the numbers of its messages. -/
def State.unnumbered (s : State) : State :=
  { s with tasks := s.tasks.map fun task => { task with ticket := 0 },
           line := s.line.map fun waiter => { waiter with ticket := 0 },
           queue := s.queue.map fun e => (0, e.2),
           nextTicket := 0 }

/-- An entry without the number of its message. -/
def Entry.unnumbered : Entry → Entry
  | .accepted _ topic payload => .accepted 0 topic payload
  | .dropped topic payload => .dropped topic payload
  | .rejected _ => .rejected 0
  | .asked _ key => .asked 0 key
  | .answered _ answer => .answered 0 answer
  | .forwarded _ command => .forwarded 0 command
  | .discarded _ command => .discarded 0 command
  | .received _ command => .received 0 command
  | .lost _ command => .lost 0 command

variable {s s' : State} {a : Action}

@[simp] theorem State.unnumbered_loop? (number : Nat) :
    s.unnumbered.loop? number = s.loop? number := rfl

@[simp] theorem State.unnumbered_setLoop (number : Nat) (phase : LoopPhase) :
    (s.setLoop number phase).unnumbered = s.unnumbered.setLoop number phase := rfl

@[simp] theorem State.unnumbered_endLoop (number : Nat) :
    (s.endLoop number).unnumbered = s.unnumbered.endLoop number := rfl

/-- What is written down between messages is the same without numbers. -/
theorem State.entries_unnumbered (haside : a.isAside = true) :
    s.unnumbered.entries a = (s.entries a).map Entry.unnumbered := by
  cases a with
  | send =>
    cases hline : s.line with
    | nil => simp [entries, unnumbered, hline]
    | cons waiter line =>
      cases hreceiver : s.receiver <;>
        simp [entries, unnumbered, hline, hreceiver, Entry.unnumbered]
  | receive =>
    cases hqueue : s.queue <;> simp [entries, unnumbered, hqueue, Entry.unnumbered]
  | dropReceiver => simp [entries, unnumbered, Entry.unnumbered]
  | dispatch event =>
    cases event with
    | message => simp [Action.isAside] at haside
    | _ => rfl
  | judge | lockReply | queueUp => simp [Action.isAside] at haside
  | _ => rfl

/-- What happens between messages is the same without numbers. -/
theorem State.step?_unnumbered (haside : a.isAside = true) :
    s.unnumbered.step? a = (s.step? a).map State.unnumbered := by
  cases a with
  | judge | lockReply | queueUp => simp [Action.isAside] at haside
  | dispatch event =>
    cases event with
    | message => simp [Action.isAside] at haside
    | _ => rfl
  | send =>
    cases hline : s.line with
    | nil => simp [step?, sendFirst?, unnumbered, hline]
    | cons waiter line =>
      cases hreceiver : s.receiver with
      | false => simp [step?, sendFirst?, unnumbered, hline, hreceiver]
      | true =>
        by_cases hroom : s.queue.length < queueCapacity <;>
          simp [step?, sendFirst?, unnumbered, hline, hreceiver, hroom]
  | receive =>
    cases hreceiver : s.receiver <;> cases hqueue : s.queue <;>
      simp [step?, unnumbered, hqueue, hreceiver]
  | dropReceiver => cases hreceiver : s.receiver <;> simp [step?, unnumbered, hreceiver]
  -- loops and calls that close the handler know nothing of messages, save how many there are
  | check number =>
    cases hloop : s.loop? number with
    | none => simp [step?, hloop]
    | some loop =>
      have hunsubscribed : s.unnumbered.unsubscribed = s.unsubscribed := rfl
      cases hphase : loop.phase <;> cases hdone : s.unsubscribed <;>
        simp [step?, hloop, hphase, hunsubscribed, hdone]
  | subscribe number | wake number =>
    cases hloop : s.loop? number with
    | none => simp [step?, hloop]
    | some loop => cases hphase : loop.phase <;> simp [step?, hloop, hphase]
  | subscribeReply number reply =>
    cases hloop : s.loop? number with
    | none => simp [step?, hloop]
    | some loop => cases reply <;> cases hphase : loop.phase <;> simp [step?, hloop, hphase]
  | close => rfl
  | enter =>
    cases hclosing : s.closing? <;> cases hturns : s.turns <;> cases hclosed : s.closed <;>
      simp [step?, enter?, unnumbered, finish, hclosing, hturns, hclosed]
  | unsubscribeReply reply =>
    rcases hclosing : s.closing? with _ | ⟨call, phase⟩
    · simp [step?, unnumbered, hclosing]
    · cases reply <;> cases phase <;> simp [step?, unnumbered, finish, hclosing]
  | mark | detach | drained | disconnectReply =>
    rcases hclosing : s.closing? with _ | ⟨call, phase⟩
    · simp [step?, unnumbered, hclosing]
    · cases phase <;> simp [step?, unnumbered, finish, hclosing, inFlight]

theorem State.unnumbered_past (s : State) (waiters : List Waiter) :
    (s.past waiters).unnumbered =
      { s.unnumbered with
        line := s.unnumbered.line ++ waiters.map fun waiter => { waiter with ticket := 0 } } := by
  simp [past, unnumbered]

theorem State.sender_of_unnumbered {t : State} (h : s.unnumbered = t.unnumbered) :
    s.sender = t.sender := by
  have hsender : s.unnumbered.sender = t.unnumbered.sender := by rw [h]
  exact hsender

/-- Handlers stay alike when the same message gets in line in both, or in none. -/
theorem State.past_of_unnumbered {t : State} {waiters waiters' : List Waiter}
    (h : s.unnumbered = t.unnumbered)
    (hwaiters : waiters.map (fun waiter => { waiter with ticket := 0 }) =
      waiters'.map (fun waiter => { waiter with ticket := 0 })) :
    (s.past waiters).unnumbered = (t.past waiters').unnumbered := by
  rw [unnumbered_past, unnumbered_past, h, hwaiters]

namespace Bench

variable {σ : Type} {b c : Bench σ} {i : Nat} {now : Int} {t : State} {topic : String}
  {payload : Bytes} {item : Item σ}

/-! ### Benches that differ in numbers -/

/-- What has been written down, without the numbers of messages. -/
def unnumbered (es : List (Nat × Entry)) : List (Nat × Entry) :=
  es.map fun e => (e.1, e.2.unnumbered)

/-- Whether two benches differ in the numbers of messages at most. -/
structure Alike (b c : Bench σ) : Prop where
  store : b.store = c.store
  handlers : b.handlers.map State.unnumbered = c.handlers.map State.unnumbered

theorem Alike.refl (b : Bench σ) : b.Alike b := ⟨rfl, rfl⟩

theorem Alike.trans {d : Bench σ} (h : b.Alike c) (h' : c.Alike d) : b.Alike d :=
  ⟨h.store.trans h'.store, h.handlers.trans h'.handlers⟩

theorem Alike.handler (h : b.Alike c) (hi : b.handlers[i]? = some s) :
    ∃ t, c.handlers[i]? = some t ∧ s.unnumbered = t.unnumbered := by
  have hget := congrArg (·[i]?) h.handlers
  simp only [List.getElem?_map, hi, Option.map_some] at hget
  obtain ⟨t, ht, heq⟩ := Option.map_eq_some_iff.mp hget.symm
  exact ⟨t, ht, heq.symm⟩

theorem Alike.no_handler (h : b.Alike c) (hi : b.handlers[i]? = none) :
    c.handlers[i]? = none := by
  have hget := congrArg (·[i]?) h.handlers
  simpa [hi] using hget.symm

theorem Alike.put (h : b.Alike c) (hsame : s.unnumbered = t.unnumbered) (i : Nat) :
    (b.put i s).Alike (c.put i t) := by
  refine ⟨h.store, ?_⟩
  simp only [Bench.put, List.map_set, h.handlers, hsame]

/-- Whether two outcomes differ in the numbers of messages at most. -/
structure SameOutcome (r r' : Outcome σ) : Prop where
  entries : unnumbered r.1 = unnumbered r'.1
  alike : r.2.Alike r'.2

/-- What is not about numbers does not depend on them. -/
theorem Alike.act (h : b.Alike c) (haside : a.isAside = true) (i : Nat) :
    SameOutcome (b.act i a) (c.act i a) := by
  unfold Bench.act
  cases hi : b.handlers[i]? with
  | none =>
    rw [h.no_handler hi]
    exact ⟨rfl, h⟩
  | some s =>
    obtain ⟨t, ht, hsame⟩ := h.handler hi
    rw [ht]
    -- both take the step that they would take without numbers
    have hstep : (s.step? a).map State.unnumbered = (t.step? a).map State.unnumbered := by
      rw [← State.step?_unnumbered haside, ← State.step?_unnumbered haside, hsame]
    have hentries : (s.entries a).map Entry.unnumbered = (t.entries a).map Entry.unnumbered := by
      rw [← State.entries_unnumbered haside, ← State.entries_unnumbered haside, hsame]
    cases hs : s.step? a with
    | none =>
      have hnone : t.step? a = none := by simpa [hs] using hstep.symm
      simp only [hs, hnone]
      exact ⟨rfl, h⟩
    | some s' =>
      rw [hs, Option.map_some] at hstep
      obtain ⟨t', ht', hsame'⟩ := Option.map_eq_some_iff.mp hstep.symm
      simp only [hs, ht']
      refine ⟨?_, h.put hsame'.symm i⟩
      have hmap := congrArg (List.map (i, ·)) hentries
      simpa [unnumbered, Function.comp_def] using hmap

/-- What comes of a message does not depend on numbers. -/
theorem Alike.handle (h : b.Alike c) (hb : b.Idle) (hc : c.Idle) (ask : Ask σ) :
    SameOutcome (b.handle ask i now topic payload) (c.handle ask i now topic payload) := by
  have hhandled := handled hb ask i now topic payload
  generalize b.handle ask i now topic payload = r at hhandled
  cases hhandled with
  | nobody hi =>
    rw [handle_of_nobody (h.no_handler hi)]
    exact ⟨rfl, h⟩
  | dropped hi hshut =>
    obtain ⟨t, hi', hsame⟩ := h.handler hi
    rw [State.sender_of_unnumbered hsame] at hshut
    rw [handle_dropped hi' (hc.tasks hi') hshut]
    exact ⟨rfl, h⟩
  | rejected hi hopen hjudge =>
    obtain ⟨t, hi', hsame⟩ := h.handler hi
    rw [State.sender_of_unnumbered hsame] at hopen
    rw [handle_rejected hi' (hc.tasks hi') hopen hjudge]
    exact ⟨rfl, h.put (State.past_of_unnumbered hsame rfl) i⟩
  | @refused s command answer store hi hopen hjudge hask hanswer =>
    -- both stores are in the same state, and give the same answer
    obtain ⟨t, hi', hsame⟩ := h.handler hi
    rw [State.sender_of_unnumbered hsame] at hopen
    rw [h.store] at hask
    have hstore : Alike { b with store } { c with store } := ⟨rfl, h.handlers⟩
    rw [handle_refused hi' (hc.tasks hi') hopen hjudge hask hanswer]
    exact ⟨rfl, hstore.put (State.past_of_unnumbered hsame rfl) i⟩
  | @acquired s command store hi hopen hjudge hask =>
    obtain ⟨t, hi', hsame⟩ := h.handler hi
    rw [State.sender_of_unnumbered hsame] at hopen
    rw [h.store] at hask
    have hstore : Alike { b with store } { c with store } := ⟨rfl, h.handlers⟩
    rw [handle_acquired hi' (hc.tasks hi') hopen hjudge hask]
    refine ⟨rfl, hstore.put (State.past_of_unnumbered hsame ?_) i⟩
    rfl

/-- What happens does not depend on the numbers of messages, whatever it is. -/
theorem Alike.step (h : b.Alike c) (hb : b.Idle) (hc : c.Idle) (ask : Ask σ)
    (item : Item σ) : SameOutcome (b.step ask item) (c.step ask item) := by
  cases item with
  | message i now topic payload => exact h.handle hb hc ask
  | aside i action =>
    simp only [Bench.step]
    split
    · next haside => exact h.act haside i
    · exact ⟨rfl, h⟩
  | outside change => exact ⟨rfl, congrArg change h.store, h.handlers⟩

/-! ### Messages that are no commands -/

/-- Whether an item is a message that is no command. -/
inductive Item.Invalid : Item σ → Prop
  | badTopic {i : Nat} {now : Int} {topic : String} {payload : Bytes}
    (htopic : TopicAddress.ofCommandTopic? topic = none) :
    Invalid (.message i now topic payload)
  | undecodable {i : Nat} {now : Int} {topic : String} {payload : Bytes} {error : CodecError}
    (hdecode : Command.decode payload = .error error) :
    Invalid (.message i now topic payload)
  | wrongDevice {i : Nat} {now : Int} {topic : String} {payload : Bytes} {address : TopicAddress}
    {command : Command} (htopic : TopicAddress.ofCommandTopic? topic = some address)
    (hdecode : Command.decode payload = .ok command) (hdevice : command.device ≠ address.device) :
    Invalid (.message i now topic payload)

theorem Item.Invalid.exists_message (h : item.Invalid) :
    ∃ i now topic payload, item = .message i now topic payload ∧
      ∀ command, judge topic payload ≠ .command command := by
  cases h with
  | badTopic htopic =>
    refine ⟨_, _, _, _, rfl, fun command hjudge => ?_⟩
    obtain ⟨address, hfound, -⟩ := judge_eq_command.mp hjudge
    simp [htopic] at hfound
  | undecodable hdecode =>
    refine ⟨_, _, _, _, rfl, fun command hjudge => ?_⟩
    obtain ⟨address, -, hfound, -⟩ := judge_eq_command.mp hjudge
    simp [hdecode] at hfound
  | wrongDevice htopic hdecode hdevice =>
    refine ⟨_, _, _, _, rfl, fun command hjudge => ?_⟩
    obtain ⟨address, hfound, hcommand, hsame⟩ := judge_eq_command.mp hjudge
    rw [htopic] at hfound
    rw [hdecode] at hcommand
    obtain rfl := Option.some.inj hfound
    obtain rfl := Except.ok.inj hcommand
    exact hdevice hsame

/-- The commands that have been put on queues, each by its handler, in order. -/
def forwarded (es : List (Nat × Entry)) : List (Nat × Command) :=
  es.filterMap fun e => e.2.forwarded?.map fun f => (e.1, f.2)

theorem forwarded_append (es more : List (Nat × Entry)) :
    forwarded (es ++ more) = forwarded es ++ forwarded more := by
  simp [forwarded]

theorem forwarded_unnumbered (es : List (Nat × Entry)) :
    forwarded (unnumbered es) = forwarded es := by
  simp only [forwarded, unnumbered, List.filterMap_map]
  congr 1
  funext ⟨i, e⟩
  cases e <;> rfl

/-- What is no command leaves everything as it is, but for the numbers of messages. -/
theorem Item.Invalid.step (h : item.Invalid) (hb : b.Idle) (ask : Ask σ) :
    (b.step ask item).2.Alike b ∧ forwarded (b.step ask item).1 = [] := by
  obtain ⟨i, now, topic, payload, rfl, hnone⟩ := h.exists_message
  have hhandled := handled hb ask i now topic payload
  simp only [Bench.step]
  generalize b.handle ask i now topic payload = r at hhandled
  -- such a message never gets as far as the store
  cases hhandled with
  | nobody | dropped => exact ⟨Alike.refl b, rfl⟩
  | @rejected s hi =>
    have hpast : (s.past []).unnumbered = s.unnumbered := by simp [State.unnumbered_past]
    have halike := (Alike.refl b).put hpast i
    rw [put_self hi] at halike
    exact ⟨halike, rfl⟩
  | refused hi hopen hjudge | acquired hi hopen hjudge => exact absurd hjudge (hnone _)

/-! ### Two runs -/

/-- An item that happens in both of two runs, or is extra in one of them. -/
structure Scripted (σ : Type) where
  item : Item σ
  extra : Bool := false

/-- The items of a script. -/
def all (script : List (Scripted σ)) : List (Item σ) := script.map (·.item)

/-- The items of a script that are not extra. -/
def kept (script : List (Scripted σ)) : List (Item σ) :=
  (script.filter (!·.extra)).map (·.item)

/-- Of what is written down in a run of a script, that which belongs to items that are not extra,
    without the numbers of messages. -/
def ofKept (script : List (Scripted σ)) (history : List (List (Nat × Entry))) :
    List (List (Nat × Entry)) :=
  ((script.zip history).filter (!·.1.extra)).map fun e => unnumbered e.2

/-- By induction on the script: items that are not extra keep the two benches alike, and so do
    those that only one of them sees. -/
theorem Alike.run {script : List (Scripted σ)} (h : b.Alike c) (hb : b.Idle) (hc : c.Idle)
    (hextra : ∀ e ∈ script, e.extra = true → e.item.Invalid) (ask : Ask σ) :
    (b.run ask (all script)).2.Alike (c.run ask (kept script)).2 ∧
      ofKept script (b.run ask (all script)).1 = (c.run ask (kept script)).1.map unnumbered ∧
      forwarded (b.run ask (all script)).1.flatten =
        forwarded (c.run ask (kept script)).1.flatten := by
  induction script generalizing b c with
  | nil => exact ⟨h, rfl, rfl⟩
  | cons e script ih =>
    obtain ⟨hfirst, hrest⟩ := List.forall_mem_cons.mp hextra
    have hall : all (e :: script) = e.item :: all script := rfl
    have hb' := hb.step ask e.item
    rw [hall, Bench.run, List.flatten_cons, forwarded_append]
    cases he : e.extra with
    | true =>
      -- what is extra leaves its bench like the other one, where nothing happens meanwhile
      obtain ⟨halike, hnothing⟩ := (hfirst he).step hb ask
      obtain ⟨hend, hentries, hforwarded⟩ := ih (halike.trans h) hb' hc hrest
      have hkept : kept (e :: script) = kept script := by simp [kept, he]
      rw [hkept, hnothing]
      exact ⟨hend, by simpa [ofKept, he] using hentries, hforwarded⟩
    | false =>
      -- what is not extra happens on both benches
      have hsame := h.step hb hc ask e.item
      obtain ⟨hend, hentries, hforwarded⟩ := ih hsame.alike hb' (hc.step ask e.item) hrest
      have hkept : kept (e :: script) = e.item :: kept script := by simp [kept, he]
      rw [hkept, Bench.run, List.flatten_cons, forwarded_append]
      refine ⟨hend, ?_, ?_⟩
      · simpa [ofKept, he, hsame.entries] using hentries
      · rw [← forwarded_unnumbered, hsame.entries, forwarded_unnumbered, hforwarded]

/-- Whatever happens at any number of handlers that share any store, as long as messages are
    handled one after another: messages that are no commands, however many of them and wherever
    they come in between, change neither the store, nor what is put on the queues and in which
    order, nor what is written down of anything else, nor the handlers, but for the numbers of
    messages. -/
theorem invalid_messages_do_not_interfere (hb : b.Idle) {script : List (Scripted σ)}
    (hextra : ∀ e ∈ script, e.extra = true → e.item.Invalid) (ask : Ask σ) :
    (b.run ask (all script)).2.store = (b.run ask (kept script)).2.store ∧
      forwarded (b.run ask (all script)).1.flatten =
        forwarded (b.run ask (kept script)).1.flatten ∧
      ofKept script (b.run ask (all script)).1 = (b.run ask (kept script)).1.map unnumbered ∧
      (b.run ask (all script)).2.handlers.map State.unnumbered =
        (b.run ask (kept script)).2.handlers.map State.unnumbered ∧
      (∀ e ∈ script, e.extra = true → ∀ c : Bench σ, c.Idle →
        (c.step ask e.item).2.store = c.store) ∧
      (b.run ask (all script)).2.Idle ∧ (b.run ask (kept script)).2.Idle := by
  obtain ⟨halike, hentries, hforwarded⟩ := (Alike.refl b).run hb hb hextra ask
  refine ⟨halike.store, hforwarded, hentries, halike.handlers, ?_, hb.run ask _, hb.run ask _⟩
  intro e he hmarked c hc
  exact ((hextra e he hmarked).step hc ask).1.store

/-! ### An example -/

/-- Two handlers with an embedded store that is empty. -/
def twoHandlers : Bench Lock.Store :=
  { handlers := [{}, {}], store := .embedded .empty }

/-- A command that comes under the topic of another device, then under its own, and once more.
    In between comes what has no topic of a device at all. -/
def withIntruders : List (Scripted Lock.Store) :=
  [{ item := .message 0 0 "application/a1/node/d2/tx" samplePayload, extra := true },
    { item := .message 1 5 sampleTopic samplePayload },
    { item := .message 1 6 "application" [], extra := true },
    { item := .aside 1 .send },
    { item := .message 0 50 sampleTopic samplePayload }]

theorem invalid_messages_do_not_interfere_withIntruders :
    (twoHandlers.run Lock.Store.setIfAbsent (all withIntruders)).2.store =
        (twoHandlers.run Lock.Store.setIfAbsent (kept withIntruders)).2.store ∧
      forwarded (twoHandlers.run Lock.Store.setIfAbsent (all withIntruders)).1.flatten =
        [(1, sampleCommand)] := by
  have hidle : twoHandlers.Idle := by
    intro s hs
    simp [twoHandlers] at hs
    simp [hs]
  have hextra : ∀ e ∈ withIntruders, e.extra = true → e.item.Invalid := by
    intro e he hmarked
    simp only [withIntruders, List.mem_cons, List.not_mem_nil, or_false] at he
    rcases he with rfl | rfl | rfl | rfl | rfl
    · have htopic : TopicAddress.ofCommandTopic? "application/a1/node/d2/tx" =
        some ⟨"a1", "d2"⟩ := rfl
      have hdecode : Command.decode samplePayload = .ok sampleCommand := rfl
      exact .wrongDevice htopic hdecode (by decide)
    · cases hmarked
    · exact .badTopic rfl
    · cases hmarked
    · cases hmarked
  have hkept : forwarded (twoHandlers.run Lock.Store.setIfAbsent (kept withIntruders)).1.flatten =
      [(1, sampleCommand)] := rfl
  obtain ⟨hstore, hforwarded, -⟩ :=
    invalid_messages_do_not_interfere hidle hextra Lock.Store.setIfAbsent
  exact ⟨hstore, hforwarded.trans hkept⟩

end Bench

end LoraBridge.Handler
