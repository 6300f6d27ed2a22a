import LoraBridge.Broker.Link
import LoraBridge.Proofs.Run
import Mathlib.Data.List.Perm.Subperm

/-! # Steps of a client and its broker

  What can happen to the calls of a client. A request that is not answered yet is one that waits to
  be sent or one that the broker owes an answer to: `Link.asks` lists them, each with the kind of
  its answer and its call.

  - `Client.CallStep` lists what calls do, and when.
  - `Link.Step` lists what a step of a client or its broker does to the calls, to the slots for
    answers and to the requests that are not answered. Theorems about calls go through its cases
    and never look at `Link.step?` again.
-/

namespace LoraBridge.Broker

open Transport (Error Publication)

/-! ### Requests that are not answered -/

/-- The kind of answer that a request asks for, and its call. -/
def Request.asks? : Request → Option (Answer × Nat)
  | .subscribe call _ _ => some (.suback, call)
  | .unsubscribe call _ => some (.unsuback, call)
  | _ => none

/-- The kind of answer that a packet asks for. -/
def Packet.asks? : Packet → Option Answer
  | .subscribe .. => some .suback
  | .unsubscribe .. => some .unsuback
  | _ => none

/-- The requests for answers that have not been sent. -/
def Outbox.asks (o : Outbox) : List (Answer × Nat) :=
  (o.pending ++ o.requests).filterMap Request.asks?

/-- The requests for answers that have not been answered. -/
def Link.asks (l : Link) : List (Answer × Nat) :=
  l.client.outbox.asks ++ l.owed.map fun d => (d.answer, d.call)

/-- What an answer tells its call. -/
def Debt.result (d : Debt) : Except Error Unit :=
  match d.answer with
  | .suback => if d.refused then .error (.subscribeRefused "") else .ok ()
  | .unsuback => .ok ()

theorem filterMap_asks_cons (request : Request) (rest : List Request) :
    (request :: rest).filterMap Request.asks? =
      request.asks?.toList ++ rest.filterMap Request.asks? := by
  rw [List.filterMap_cons]
  cases request.asks? <;> rfl

namespace Outbox

variable (o : Outbox) {o' : Outbox} {dispatch : Dispatch}

theorem asks_push (request : Request) :
    (o.push request).asks = o.asks ++ request.asks?.toList := by
  unfold asks push
  rw [← List.append_assoc, List.filterMap_append]
  cases h : request.asks? <;> simp [h]

/-- What is sent again asks for no answers of calls. -/
theorem asks_again : o.again.filterMap Request.asks? = [] := by
  rw [List.filterMap_eq_nil_iff]
  intro request hmem
  rcases List.mem_append.mp hmem with hmem | hmem
  · obtain ⟨number, -, hp⟩ := List.mem_filterMap.mp hmem
    obtain ⟨p, -, rfl⟩ := Option.map_eq_some_iff.mp hp
    rfl
  · obtain ⟨number, -, rfl⟩ := List.mem_map.mp hmem
    rfl

/-- Requests outlive the session. -/
theorem asks_lose : o.lose.asks = o.asks := by
  simp [asks, lose, asks_again]

theorem asks_ping : o.ping.2.asks = o.asks := rfl

theorem asks_acknowledge (number : Nat) : (o.acknowledge number).2.asks = o.asks := by
  unfold acknowledge
  split
  · rfl
  · split
    · rfl
    · dsimp only
      split <;> rfl

theorem dispatchMessage_cases (number? : Option Nat) (p : Publication) :
    (o.dispatchMessage number? p).2.asks = o.asks ∧
      ∀ packet, (o.dispatchMessage number? p).1 = .send packet → packet.asks? = none := by
  unfold dispatchMessage
  split
  · exact ⟨rfl, fun packet h => by cases h; rfl⟩
  · -- whether the message had its number before makes no difference
    have hnumbered (number : Nat) :
        (if number?.isSome then o else { o with lastNumber := number }).asks = o.asks := by
      split <;> rfl
    specialize hnumbered (number?.getD o.nextNumber)
    dsimp only
    generalize (if number?.isSome then o else { o with lastNumber := number?.getD o.nextNumber }) =
      o' at hnumbered ⊢
    split
    · exact ⟨hnumbered, fun packet h => by cases h⟩
    · exact ⟨hnumbered, fun packet h => by cases h; rfl⟩

/-- A packet asks for what its request asks for. -/
theorem dispatch_cases (request : Request) :
    (o.dispatch request).2.asks = o.asks ∧
      ∀ packet, (o.dispatch request).1 = .send packet →
        packet.asks? = request.asks?.map (·.1) := by
  unfold Outbox.dispatch
  split
  · exact ⟨rfl, by simp⟩
  · cases request with
    | publish number? p => exact o.dispatchMessage_cases number? p
    | _ => exact ⟨rfl, fun packet h => by cases h; rfl⟩

/-- Of what is next, only a request that was first is taken out. -/
theorem next?_cases {request : Request} (h : o.next? = some (request, o')) :
    o.asks = request.asks?.toList ++ o'.asks := by
  unfold next? at h
  unfold asks
  split at h
  · next hpending =>
    obtain ⟨rfl, rfl⟩ := Prod.mk.inj (Option.some.inj h)
    rw [hpending, List.cons_append, filterMap_asks_cons]
  · next hpending hrequests =>
    split at h
    · obtain ⟨rfl, rfl⟩ := Prod.mk.inj (Option.some.inj h)
      rw [hpending, hrequests, List.nil_append, filterMap_asks_cons, List.nil_append]
    · simp at h
  · simp at h

/-- What is sent or dropped is no longer waiting, and a packet asks for what the first request
    asked for. -/
theorem take?_cases (h : o.take? = some (dispatch, o')) :
    (o'.asks = o.asks ∧ ∀ packet, dispatch = .send packet → packet.asks? = none) ∨
      ∃ request, o.head? = some request ∧ o.asks = request.asks?.toList ++ o'.asks ∧
        ∀ packet, dispatch = .send packet → packet.asks? = request.asks?.map (·.1) := by
  unfold take? at h
  split at h
  · obtain ⟨rfl, rfl⟩ := Prod.mk.inj (Option.some.inj h)
    exact .inl ⟨rfl, fun packet h => by cases h; rfl⟩
  · next hdue =>
    obtain ⟨⟨request, rest⟩, hnext, hdispatch⟩ := Option.map_eq_some_iff.mp h
    obtain ⟨hasks, hpacket⟩ := rest.dispatch_cases request
    dsimp only at hdispatch
    rw [hdispatch] at hasks hpacket
    refine .inr ⟨request, by simp [head?, hdue, hnext], ?_, hpacket⟩
    rw [o.next?_cases hnext, hasks]

end Outbox

/-! ### Clients whose calls stay as they are -/

/-- A client whose calls and slots are those of another one. -/
structure Client.SameCalls (c c' : Client) : Prop where
  calls : c'.calls = c.calls
  suback : c'.suback? = c.suback?
  unsuback : c'.unsuback? = c.unsuback?

/-- A client that has the same to do for its calls as another one. -/
structure Client.Same (c c' : Client) : Prop extends c.SameCalls c' where
  asks : c'.outbox.asks = c.outbox.asks
  delayed : c'.delayed = c.delayed

/-- The client after both slots were emptied, since the session was lost. -/
def Client.close (c : Client) : Client :=
  (c.resolve .suback (.error .closed)).resolve .unsuback (.error .closed)

namespace Client

variable {c c' c'' : Client}

theorem SameCalls.slot? (h : c.SameCalls c') (answer : Answer) : c'.slot? answer = c.slot? answer := by
  cases answer with
  | suback => exact h.suback
  | unsuback => exact h.unsuback

theorem Same.refl (c : Client) : c.Same c := ⟨⟨rfl, rfl, rfl⟩, rfl, rfl⟩

theorem Same.trans (h : c.Same c') (h' : c'.Same c'') : c.Same c'' :=
  ⟨⟨h'.calls.trans h.calls, h'.suback.trans h.suback, h'.unsuback.trans h.unsuback⟩,
    h'.asks.trans h.asks, h'.delayed.trans h.delayed⟩

/-- An answer changes calls and slots, and it depends on nothing else. -/
theorem SameCalls.resolve (h : c.SameCalls c') (answer : Answer) (result : Except Error Unit) :
    (c.resolve answer result).SameCalls (c'.resolve answer result) := by
  have hslot := h.slot? answer
  unfold Client.resolve
  rw [hslot]
  cases c.slot? answer with
  | none => exact h
  | some i =>
    cases answer with
    | suback => exact ⟨by simp [setSlot, h.calls], rfl, h.unsuback⟩
    | unsuback => exact ⟨by simp [setSlot, h.calls], h.suback, rfl⟩

/-- An answer concerns calls and slots alone. -/
theorem resolve_outbox (c : Client) (answer : Answer) (result : Except Error Unit) :
    (c.resolve answer result).outbox = c.outbox ∧ (c.resolve answer result).delayed = c.delayed := by
  unfold Client.resolve
  cases c.slot? answer with
  | none => exact ⟨rfl, rfl⟩
  | some i => cases answer <;> exact ⟨rfl, rfl⟩

theorem Same.resolve (h : c.Same c') (answer : Answer) (result : Except Error Unit) :
    (c.resolve answer result).Same (c'.resolve answer result) := by
  obtain ⟨houtbox, hdelayed⟩ := c.resolve_outbox answer result
  obtain ⟨houtbox', hdelayed'⟩ := c'.resolve_outbox answer result
  exact ⟨h.toSameCalls.resolve answer result, by rw [houtbox, houtbox', h.asks],
    by rw [hdelayed, hdelayed', h.delayed]⟩

theorem SameCalls.close (h : c.SameCalls c') : c.close.SameCalls c'.close :=
  (h.resolve _ _).resolve _ _

theorem Same.close (h : c.Same c') : c.close.Same c'.close := (h.resolve _ _).resolve _ _

theorem close_outbox (c : Client) : c.close.outbox = c.outbox ∧ c.close.delayed = c.delayed := by
  obtain ⟨houtbox, hdelayed⟩ := c.resolve_outbox .suback (.error .closed)
  obtain ⟨houtbox', hdelayed'⟩ :=
    (c.resolve .suback (.error .closed)).resolve_outbox .unsuback (.error .closed)
  exact ⟨houtbox'.trans houtbox, hdelayed'.trans hdelayed⟩

/-- A client whose calls were told at most that the session was lost. -/
def Kept (c c' : Client) : Prop := c.Same c' ∨ c.close.Same c'

theorem Same.kept (h : c.Same c') (h' : c'.Kept c'') : c.Kept c'' := by
  rcases h' with h' | h'
  · exact .inl (h.trans h')
  · exact .inr (h.close.trans h')

theorem Kept.asks (h : c.Kept c') : c'.outbox.asks = c.outbox.asks := by
  rcases h with h | h
  · exact h.asks
  · rw [h.asks, c.close_outbox.1]

theorem Kept.delayed (h : c.Kept c') : c'.delayed = c.delayed := by
  rcases h with h | h
  · exact h.delayed
  · rw [h.delayed, c.close_outbox.2]

/-! ### What the loop does -/

theorem same_down (c : Client) : c.Same c.down := by
  refine ⟨⟨rfl, rfl, rfl⟩, ?_, rfl⟩
  unfold down
  dsimp only
  split
  · exact c.outbox.asks_lose
  · rfl

/-- Whatever is neither an answer nor the loss of the session is nothing to calls. -/
theorem react_same (c : Client) {outcome : Outcome}
    (hnone : outcome = .connected ∨ (∃ topic payload, outcome = .message topic payload) ∨
      outcome = .other ∨ outcome = .left) : c.Same (c.react outcome) := by
  unfold react
  split
  · exact .refl c
  · rcases hnone with rfl | ⟨topic, payload, rfl⟩ | rfl | rfl <;>
      exact ⟨⟨rfl, rfl, rfl⟩, rfl, rfl⟩

theorem react_failed (c : Client) (fault : Transport.ConnectFault) :
    c.Kept (c.react (.failed fault)) := by
  unfold react
  split
  · exact .inl (.refl c)
  · have hdown := c.same_down
    dsimp only
    split
    · obtain ⟨⟨hcalls, hsuback, hunsuback⟩, hasks, hdelayed⟩ := hdown.close
      exact .inr ⟨⟨hcalls, hsuback, hunsuback⟩, hasks, hdelayed⟩
    · obtain ⟨⟨hcalls, hsuback, hunsuback⟩, hasks, hdelayed⟩ := hdown
      exact .inl ⟨⟨hcalls, hsuback, hunsuback⟩, hasks, hdelayed⟩

/-- An answer goes to the call in the slot of its kind. -/
theorem react_debt (c : Client) (d : Debt) (hruns : c.loop.phase ≠ .stopped) :
    (c.resolve d.answer d.result).Same (c.react d.outcome) := by
  obtain ⟨call, number, answer, refused⟩ := d
  cases answer with
  | suback =>
    simp only [react, hruns, if_false, Debt.outcome, Debt.result]
    exact ⟨⟨rfl, rfl, rfl⟩, rfl, rfl⟩
  | unsuback =>
    simp only [react, hruns, if_false, Debt.outcome, Debt.result]
    exact ⟨⟨rfl, rfl, rfl⟩, rfl, rfl⟩

theorem react_of_stopped (c : Client) (hstopped : c.loop.phase = .stopped) (outcome : Outcome) :
    c.react outcome = c := by
  simp [react, hstopped]

/-- Calls are told of a request that cannot be sent, as that ends the session. -/
theorem send_kept (c : Client) (dispatch : Dispatch) : c.Kept (c.send dispatch) := by
  unfold send
  split
  · exact .inl (react_same _ (.inr (.inr (.inr rfl))))
  · exact .inl (react_same _ (.inr (.inr (.inl rfl))))
  · exact .inl (.refl c)
  · exact react_failed _ _

theorem ping_kept (c : Client) : c.Kept c.ping := by
  have hping : c.Same { c with outbox := c.outbox.ping.2 } :=
    ⟨⟨rfl, rfl, rfl⟩, c.outbox.asks_ping, rfl⟩
  unfold ping
  dsimp only
  split
  · exact .inl hping
  · exact hping.kept (react_failed _ _)

/-- The sign of the broker is nothing to calls. -/
theorem pong_same (c : Client) : c.Same c.pong := by
  have hsign : c.Same { c with outbox := { c.outbox with waits := false } } :=
    ⟨⟨rfl, rfl, rfl⟩, rfl, rfl⟩
  exact hsign.trans (react_same _ (.inr (.inr (.inl rfl))))

theorem acknowledge_kept (c : Client) (number : Nat) : c.Kept (c.acknowledge number) := by
  have hsettled : c.Same { c with outbox := (c.outbox.acknowledge number).2 } :=
    ⟨⟨rfl, rfl, rfl⟩, c.outbox.asks_acknowledge number, rfl⟩
  unfold acknowledge
  simp only [takeAll, take, settled]
  cases (c.outbox.acknowledge number).1 with
  | true => exact .inl (hsettled.trans (react_same _ (.inr (.inr (.inl rfl)))))
  | false =>
    -- a fault leaves no more to look at than there was before
    simp only [Bool.false_eq_true, if_false, List.append_nil]
    exact hsettled.kept (react_failed _ _)

/-! ### What calls do -/

/-- What an action of its own does to the calls of a client, under which conditions. -/
inductive CallStep (c : Client) : Action → Client → Prop
  | call (kind : Call.Kind) (filter : String) :
    CallStep c (.call kind filter) { c with calls := c.calls ++ [{ kind, filter }] }
  | enter {i : Nat} {call : Call} (hcall : c.calls[i]? = some call)
    (hphase : call.phase = .waiting) (hturn : c.isTurn i call.kind = true) :
    CallStep c (.enter i) ((c.setPhase i .requesting).setSlot call.kind.answer (some i))
  | request {i : Nat} {call : Call} {request : Request} (hcall : c.calls[i]? = some call)
    (hphase : call.phase = .requesting) (hasks : request.asks? = some (call.kind.answer, i)) :
    CallStep c (.request i) { c.setPhase i .pending with outbox := c.outbox.push request }
  | fail {i : Nat} {call : Call} (hcall : c.calls[i]? = some call)
    (hphase : call.phase = .requesting) : CallStep c (.request i) (c.setPhase i .failed)
  | expire {i : Nat} {call : Call} (hcall : c.calls[i]? = some call)
    (hphase : call.phase = .pending) (hanswer : call.answer? = none) :
    CallStep c (.expire i) (c.setPhase i .expired)
  | clearFailed {i : Nat} {call : Call} (hcall : c.calls[i]? = some call)
    (hphase : call.phase = .failed) :
    CallStep c (.clear i)
      ((c.setSlot call.kind.answer none).setPhase i (.returned (.error .client)))
  | clearExpired {i : Nat} {call : Call} (hcall : c.calls[i]? = some call)
    (hphase : call.phase = .expired) :
    CallStep c (.clear i) ((c.setSlot call.kind.answer none).setPhase i
      (.returned (.error (.timeout call.kind.answer.name))))
  | finish {i : Nat} {call : Call} {answer : Except Error Unit} (hcall : c.calls[i]? = some call)
    (hphase : call.phase = .pending) (hanswer : call.answer? = some answer) :
    CallStep c (.finish i) (c.setPhase i (.returned (call.own answer)))
  /-- It has nothing to do with the calls. -/
  | same {action : Action} {c' : Client} (hsame : c.Same c') : CallStep c action c'

theorem asks_of_request? {call : Call} {i : Nat} {request : Request}
    (h : call.request? i = some request) : request.asks? = some (call.kind.answer, i) := by
  unfold Call.request? at h
  cases hkind : call.kind with
  | subscribe qos =>
    simp only [hkind] at h
    split at h
    · obtain rfl := Option.some.inj h
      rfl
    · simp at h
  | unsubscribe =>
    simp only [hkind] at h
    obtain rfl := Option.some.inj h
    rfl

theorem callStep_request {i : Nat} (h : c.request? i = some c') : c.CallStep (.request i) c' := by
  simp only [request?, Option.bind_eq_bind, Option.bind_eq_some_iff] at h
  obtain ⟨call, hcall, h⟩ := h
  split at h
  · next hphase =>
    split at h
    · next request hrequest =>
      split at h
      · obtain rfl := Option.some.inj h
        exact .request hcall hphase (asks_of_request? hrequest)
      · obtain rfl := Option.some.inj h
        exact .fail hcall hphase
    · obtain rfl := Option.some.inj h
      exact .fail hcall hphase
  · simp at h

theorem callStep_clear {i : Nat} (h : c.clear? i = some c') : c.CallStep (.clear i) c' := by
  simp only [clear?, Option.bind_eq_bind, Option.bind_eq_some_iff] at h
  obtain ⟨call, hcall, h⟩ := h
  split at h
  · next hphase =>
    obtain rfl := Option.some.inj h
    exact .clearFailed hcall hphase
  · next hphase =>
    obtain rfl := Option.some.inj h
    exact .clearExpired hcall hphase
  · simp at h

/-- A request that asks for no answer of a call is nothing to calls. -/
theorem same_push (c : Client) {request : Request} (hnone : request.asks? = none) :
    c.Same { c with outbox := c.outbox.push request } :=
  ⟨⟨rfl, rfl, rfl⟩, by rw [c.outbox.asks_push, hnone]; exact List.append_nil _, rfl⟩

theorem callStep_of_own {action : Action} (hown : Link.isOwn action = true)
    (h : c.step? action = some c') : c.CallStep action c' := by
  cases action with
  | call kind filter =>
    obtain rfl := Option.some.inj h
    exact .call kind filter
  | enter i =>
    simp only [step?, enter?, Option.bind_eq_bind, Option.bind_eq_some_iff] at h
    obtain ⟨call, hcall, h⟩ := h
    split at h
    · next hphase =>
      split at h
      · next hturn =>
        obtain rfl := Option.some.inj h
        exact .enter hcall hphase hturn
      · simp at h
    · simp at h
  | request i => exact callStep_request h
  | expire i =>
    simp only [step?, expire?, Option.bind_eq_bind, Option.bind_eq_some_iff] at h
    obtain ⟨call, hcall, h⟩ := h
    split at h
    · next hphase =>
      split at h
      · next hanswer =>
        obtain rfl := Option.some.inj h
        exact .expire hcall hphase (by simpa using hanswer)
      · simp at h
    · simp at h
  | clear i => exact callStep_clear h
  | finish i =>
    simp only [step?, finish?, Option.bind_eq_bind, Option.bind_eq_some_iff] at h
    obtain ⟨call, hcall, h⟩ := h
    split at h
    · next hphase =>
      obtain ⟨answer, hanswer, h⟩ := Option.bind_eq_some_iff.mp h
      obtain rfl := Option.some.inj h
      exact .finish hcall hphase hanswer
    · simp at h
  | publish p =>
    obtain rfl := Option.some.inj h
    unfold publish
    split
    · exact .same (c.same_push rfl)
    · exact .same (.refl c)
  | leave =>
    obtain rfl := Option.some.inj h
    exact .same ⟨⟨rfl, rfl, rfl⟩, rfl, rfl⟩
  | requestDisconnect =>
    obtain rfl := Option.some.inj h
    unfold requestDisconnect
    split
    · exact .same (c.same_push rfl)
    · exact .same (.refl c)
  | takeEvent =>
    obtain ⟨⟨event, loop⟩, -, rfl⟩ := Option.map_eq_some_iff.mp h
    exact .same ⟨⟨rfl, rfl, rfl⟩, rfl, rfl⟩
  | dropReceiver =>
    obtain rfl := Option.some.inj h
    exact .same ⟨⟨rfl, rfl, rfl⟩, rfl, rfl⟩
  | _ => simp [Link.isOwn] at hown

theorem delayed_setSlot (c : Client) (answer : Answer) (call? : Option Nat) :
    (c.setSlot answer call?).delayed = c.delayed := by
  cases answer <;> rfl

theorem CallStep.delayed {action : Action} (h : c.CallStep action c') : c'.delayed = c.delayed := by
  cases h with
  | enter => exact delayed_setSlot _ _ _
  | clearFailed | clearExpired => exact delayed_setSlot _ _ _
  | same hsame => exact hsame.delayed
  | _ => rfl

end Client

/-! ### Steps of a link -/

namespace Link

variable {l l' : Link} {a : Action}

/-- What a step does to calls, to slots and to the requests that are not answered. -/
inductive Step (l : Link) : Action → Link → Prop
  | own {action : Client.Action} {c' : Client} (h : l.client.CallStep action c') :
    Step l (.own action) { l with client := c' }
  /-- The broker gives an answer that it owes, and it goes to the call in the slot. -/
  | answer {k : Nat} {d : Debt} {l' : Link} (hdebt : l.owed[k]? = some d)
    (hcalls : (l.client.resolve d.answer d.result).SameCalls l'.client)
    (hasks : l.asks.Perm ((d.answer, d.call) :: l'.asks)) : Step l (.answer k) l'
  /-- The calls in both slots are told that the session was lost. -/
  | lost {a : Action} {l' : Link} (hcalls : l.client.close.SameCalls l'.client)
    (hasks : l'.asks.Subperm l.asks) : Step l a l'
  /-- Requests may be sent, forgotten or answered in vain, but no call is told anything. -/
  | same {a : Action} {l' : Link} (hcalls : l.client.SameCalls l'.client)
    (hasks : l'.asks.Subperm l.asks) : Step l a l'

/-- What was taken out of the outbox before makes no difference to the calls. -/
theorem Step.of_kept {c : Client} (hcalls : l.client.SameCalls c) (h : c.Kept l'.client)
    (hasks : l'.asks.Subperm l.asks) : l.Step a l' := by
  rcases h with h | h
  · exact .same ⟨h.calls.trans hcalls.calls, h.suback.trans hcalls.suback,
      h.unsuback.trans hcalls.unsuback⟩ hasks
  · have hclose := hcalls.close
    exact .lost ⟨h.calls.trans hclose.calls, h.suback.trans hclose.suback,
      h.unsuback.trans hclose.unsuback⟩ hasks

/-- A broker may have forgotten what it owes. -/
theorem asks_withClient (l : Link) (c : Client) : (l.withClient c).asks.Subperm
    (c.outbox.asks ++ l.owed.map fun d => (d.answer, d.call)) := by
  unfold withClient asks
  split
  · exact .refl _
  · exact ((List.nil_sublist _).append_left _).subperm

theorem client_withClient (l : Link) (c : Client) : (l.withClient c).client = c := by
  unfold withClient
  split <;> rfl

theorem step_withClient (l : Link) {c : Client} (h : l.client.Kept c) :
    l.Step a (l.withClient c) := by
  refine .of_kept ⟨rfl, rfl, rfl⟩ (by rwa [client_withClient]) ?_
  have hasks := l.asks_withClient c
  rwa [h.asks] at hasks

/-- The broker owes an answer to a packet that asks for one. -/
theorem asks_take (l : Link) (call : Nat) (refuse : Bool) (packet : Packet) :
    (l.take call refuse packet).asks =
      l.asks ++ (packet.asks?.map fun answer => (answer, call)).toList := by
  cases packet with
  | subscribe number filter qos => simp [asks, take, Packet.asks?]
  | unsubscribe number filter => simp [asks, take, Packet.asks?]
  | _ => exact (List.append_nil _).symm

theorem client_take (l : Link) (call : Nat) (refuse : Bool) (packet : Packet) :
    (l.take call refuse packet).client = l.client := by
  cases packet <;> rfl

/-- The call of the request that is first. -/
theorem sender_of_head? {request : Request} (hhead : l.client.outbox.head? = some request)
    {answer : Answer} {call : Nat} (hasks : request.asks? = some (answer, call)) :
    l.sender = call := by
  unfold sender
  rw [hhead]
  cases request with
  | subscribe other filter qos => exact (Prod.mk.inj (Option.some.inj hasks)).2
  | unsubscribe other filter => exact (Prod.mk.inj (Option.some.inj hasks)).2
  | _ => simp [Request.asks?] at hasks

/-- When the client has dealt with its next request, that is no longer waiting, and if the broker has
    taken it, the broker owes the answer. -/
theorem asks_transmit {dispatch : Dispatch} {outbox : Outbox} {sent : Link}
    (htake : l.client.outbox.take? = some (dispatch, outbox))
    (hsent : sent.asks.Subperm (outbox.asks ++ l.owed.map fun d => (d.answer, d.call))) :
    sent.asks.Subperm l.asks ∧ ∀ refuse packet, dispatch = .send packet →
      (sent.take l.sender refuse packet).asks.Subperm l.asks := by
  rcases l.client.outbox.take?_cases htake with ⟨hasks, hnone⟩ | ⟨request, hhead, hasks, hsame⟩
  · have hkept : sent.asks.Subperm l.asks := by rwa [hasks] at hsent
    refine ⟨hkept, ?_⟩
    intro refuse packet hpacket
    rw [asks_take, hnone packet hpacket]
    simpa using hkept
  · have hall : l.asks =
        request.asks?.toList ++ (outbox.asks ++ l.owed.map fun d => (d.answer, d.call)) := by
      rw [Link.asks, hasks, List.append_assoc]
    have hkept : sent.asks.Subperm l.asks := by
      rw [hall]
      exact hsent.trans (List.sublist_append_right _ _).subperm
    refine ⟨hkept, ?_⟩
    intro refuse packet hpacket
    rw [asks_take, hsame packet hpacket]
    cases hrequest : request.asks? with
    | none => simpa using hkept
    | some e =>
      obtain ⟨answer, call⟩ := e
      rw [l.sender_of_head? hhead hrequest, hall, hrequest]
      -- the request has gone from the outbox to what the broker owes
      have hmoved := (List.subperm_cons (answer, call)).mpr hsent
      exact (List.perm_append_singleton _ _).subperm.trans hmoved

theorem step_transmit {refuse : Bool} (h : l.transmit? refuse = some l') :
    l.Step a l' ∧ l'.client.delayed = l.client.delayed := by
  simp only [transmit?, Client.prepare?, Option.bind_eq_bind, Option.bind_eq_some_iff] at h
  obtain ⟨⟨dispatch, c⟩, hprepare, h⟩ := h
  split at hprepare
  · obtain ⟨⟨dispatch, outbox⟩, htake, heq⟩ := Option.map_eq_some_iff.mp hprepare
    obtain ⟨rfl, rfl⟩ := Prod.mk.inj heq.symm
    have hkept := Client.send_kept { l.client with outbox } dispatch
    have hsent := l.asks_withClient (Client.send { l.client with outbox } dispatch)
    rw [hkept.asks] at hsent
    obtain ⟨hasks, htaken⟩ := asks_transmit htake hsent
    -- whether the broker has taken the packet makes no difference to the client
    have hclient : l'.client = Client.send { l.client with outbox } dispatch ∧
        l'.asks.Subperm l.asks := by
      split at h
      · next packet hpacket =>
        obtain rfl := Option.some.inj h
        split
        · exact ⟨(client_take _ _ _ _).trans (l.client_withClient _), htaken refuse packet hpacket⟩
        · exact ⟨l.client_withClient _, hasks⟩
      · obtain rfl := Option.some.inj h
        exact ⟨l.client_withClient _, hasks⟩
    have hcalls : l.client.SameCalls { l.client with outbox } := ⟨rfl, rfl, rfl⟩
    rw [← hclient.1] at hkept
    exact ⟨.of_kept hcalls hkept hclient.2, hkept.delayed⟩
  · simp at hprepare

theorem step_answer {k : Nat} (h : l.answer? k = some l') :
    l.Step (.answer k) l' ∧ l'.client.delayed = l.client.delayed := by
  simp only [answer?, Option.bind_eq_bind, Option.bind_eq_some_iff, Option.some.injEq] at h
  obtain ⟨d, hdebt, rfl⟩ := h
  have howed : (l.owed.map fun d => (d.answer, d.call)).Perm
      ((d.answer, d.call) :: (l.owed.eraseIdx k).map fun d => (d.answer, d.call)) := by
    obtain ⟨hlt, rfl⟩ := List.getElem?_eq_some_iff.mp hdebt
    exact ((List.getElem_cons_eraseIdx_perm hlt).map _).symm
  have hall : l.asks.Perm ((d.answer, d.call) ::
      (l.client.outbox.asks ++ (l.owed.eraseIdx k).map fun d => (d.answer, d.call))) :=
    (howed.append_left _).trans List.perm_middle
  by_cases hstopped : l.client.loop.phase = .stopped
  · -- a loop that has ended takes no answers
    rw [Client.react_of_stopped _ hstopped]
    exact ⟨.same ⟨rfl, rfl, rfl⟩ ((List.sublist_cons_self _ _).subperm.trans hall.symm.subperm), rfl⟩
  · have hsame := l.client.react_debt d hstopped
    obtain ⟨houtbox, hdelayed⟩ := l.client.resolve_outbox d.answer d.result
    have hasks : (l.client.react d.outcome).outbox.asks = l.client.outbox.asks := by
      rw [hsame.asks, houtbox]
    refine ⟨.answer hdebt hsame.toSameCalls ?_, hsame.delayed.trans hdelayed⟩
    rwa [← hasks] at hall

/-- Every step is one of the cases, as long as nothing is left to look at from earlier sessions;
    and nothing ever is. -/
theorem step_cases (hdelayed : l.client.delayed = []) (h : l.step? a = some l') :
    l.Step a l' ∧ l'.client.delayed = [] := by
  -- what only concerns the client keeps the requests, and loses the debts at most
  have forgotten {c : Client} (hkept : l.client.Kept c) :
      l.Step a { l.forget with client := c } ∧ c.delayed = [] := by
    refine ⟨.of_kept ⟨rfl, rfl, rfl⟩ hkept ?_, hkept.delayed.trans hdelayed⟩
    rw [Link.asks, hkept.asks]
    exact ((List.nil_sublist _).append_left _).subperm
  have reacted {c : Client} (hkept : l.client.Kept c) :
      l.Step a (l.withClient c) ∧ (l.withClient c).client.delayed = [] := by
    refine ⟨l.step_withClient hkept, ?_⟩
    rw [client_withClient, hkept.delayed, hdelayed]
  cases a with
  | own action =>
    simp only [step?] at h
    split at h
    · next hown =>
      obtain ⟨c, hstep, rfl⟩ := Option.map_eq_some_iff.mp h
      have hcase := Client.callStep_of_own hown hstep
      exact ⟨.own hcase, hcase.delayed.trans hdelayed⟩
    · simp at h
  | transmit refuse =>
    obtain ⟨hstep, hkept⟩ := step_transmit (a := .transmit refuse) h
    exact ⟨hstep, hkept.trans hdelayed⟩
  | answer k =>
    obtain ⟨hstep, hkept⟩ := step_answer h
    exact ⟨hstep, hkept.trans hdelayed⟩
  | ping =>
    simp only [step?] at h
    split at h
    · obtain rfl := Option.some.inj h
      exact reacted l.client.ping_kept
    · simp at h
  | pong =>
    simp only [step?] at h
    split at h
    · obtain rfl := Option.some.inj h
      exact reacted (.inl l.client.pong_same)
    · simp at h
  | acknowledge number =>
    simp only [step?] at h
    split at h
    · obtain rfl := Option.some.inj h
      exact reacted (l.client.acknowledge_kept number)
    · simp at h
  | deliver topic payload =>
    simp only [step?] at h
    split at h
    · obtain rfl := Option.some.inj h
      have hsame := l.client.react_same (.inr (.inl ⟨topic, payload, rfl⟩))
      refine ⟨.same hsame.toSameCalls ?_, hsame.delayed.trans hdelayed⟩
      rw [Link.asks, hsame.asks]
      exact .refl _
    · simp at h
  | connect =>
    simp only [step?] at h
    split at h
    · simp at h
    · obtain rfl := Option.some.inj h
      have hconnect : l.client.Same l.client.connect := by
        have hempty : l.client.Same { l.client with delayed := [] } :=
          ⟨⟨rfl, rfl, rfl⟩, rfl, hdelayed.symm⟩
        rw [Client.connect, hdelayed]
        exact hempty.trans (Client.react_same _ (.inl rfl))
      exact forgotten (.inl hconnect)
  | fail fault =>
    obtain rfl := Option.some.inj h
    exact forgotten (l.client.react_failed fault)

end Link

end LoraBridge.Broker
