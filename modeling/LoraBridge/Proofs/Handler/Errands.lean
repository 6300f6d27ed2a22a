import LoraBridge.Handler.Outpost
import LoraBridge.Proofs.Broker.Session
import LoraBridge.Proofs.Handler.Calls
import LoraBridge.Proofs.Handler.Loops

/-! # What a handler asks of its client

  At an outpost the handler and the link to the broker take steps of their own and steps together.

  - `Outpost.Step` lists the steps, `Outpost.step_cases` is that there are no others.
  - `Outpost.run_link`, `Outpost.run_handler`: both run as they do alone.
  - `Outpost.Wired`: the client has the calls that the handler has asked for and no others, and
    every call that unsubscribes is waited for or has failed, as long as the handler has not been
    told that it is unsubscribed.
-/

namespace LoraBridge.Handler

open Broker (Link)

/-! ### Being told -/

/-- The handler has been told that it is unsubscribed. -/
def State.Told (s : State) : Prop :=
  s.unsubscribed = true ∨ ∃ call, s.closing? = some (call, .marking)

theorem State.not_unsubscribed_of_not_told {s : State} (h : ¬ s.Told) :
    s.unsubscribed = false := by
  cases hnoted : s.unsubscribed with
  | false => rfl
  | true => exact absurd (.inl hnoted) h

/-- Whoever is past the first phase of closing has been told. -/
theorem State.Step.told {s s' : State} {a : Action} {es : List Entry} (h : s.Step a es s')
    (htold : s.Told) : s'.Told := by
  rcases htold with hnoted | ⟨call, hmarking⟩
  · refine .inl ?_
    cases h with
    | mark hclosing => rfl
    | _ => exact hnoted
  · cases h with
    | mark hclosing => exact .inl rfl
    | enter hfree | enterClosed hfree => simp [hfree] at hmarking
    | unsubscribed hclosing | notUnsubscribed hclosing | detach hclosing | drained hclosing
    | disconnected hclosing => simp [hclosing] at hmarking
    | _ => exact .inr ⟨call, hmarking⟩

/-- Who waits for the broker to unsubscribe goes on to wait until there is an answer. -/
theorem State.Step.closing_stays {s s' : State} {a : Action} {es : List Entry} {call : Nat}
    (h : s.Step a es s') (hother : ∀ reply, a ≠ .unsubscribeReply reply)
    (hclosing : s.closing? = some (call, .unsubscribing)) :
    s'.closing? = some (call, .unsubscribing) := by
  cases h with
  | enter hfree | enterClosed hfree => simp [hfree] at hclosing
  | unsubscribed | notUnsubscribed => exact absurd rfl (hother _)
  | mark hphase | detach hphase | drained hphase | disconnected hphase =>
    simp [hphase] at hclosing
  | _ => exact hclosing

/-- What has been noted, and by whom. -/
structure State.Marked (s : State) : Prop where
  unsubscribed : s.unsubscribed = true → s.closed = true ∨
    ∃ call closing, s.closing? = some (call, closing) ∧ closing ≠ .unsubscribing ∧
      closing ≠ .marking

theorem State.Step.marked {s s' : State} {a : Action} {es : List Entry} (h : s.Step a es s')
    (hs : s.Marked) : s'.Marked := by
  constructor
  intro hnoted
  cases h with
  | mark hclosing => exact .inr ⟨_, .detaching, rfl, by simp, by simp⟩
  | detach hclosing => exact .inr ⟨_, .draining, rfl, by simp, by simp⟩
  | drained hclosing => exact .inr ⟨_, .disconnecting, rfl, by simp, by simp⟩
  | disconnected hclosing => exact .inl rfl
  | enterClosed hfree hturns hclosed => exact .inl hclosed
  | enter hfree hturns hopen =>
    rcases hs.unsubscribed hnoted with hclosed | ⟨call, closing, hclosing, -⟩
    · simp [hopen] at hclosed
    · simp [hfree] at hclosing
  | unsubscribed hclosing | notUnsubscribed hclosing =>
    rcases hs.unsubscribed hnoted with hclosed | ⟨other, closing, hclosing', hphase, -⟩
    · exact .inl hclosed
    · rw [hclosing] at hclosing'
      obtain ⟨-, rfl⟩ := Prod.mk.inj (Option.some.inj hclosing')
      exact absurd rfl hphase
  | _ => exact hs.unsubscribed hnoted

/-- While a call waits for the broker to unsubscribe, the handler has not been told. -/
theorem not_told_of_run {steps : List (State × Action)} {s : State} {call : Nat}
    (h : Run State.step? {} steps s) (hclosing : s.closing? = some (call, .unsubscribing)) :
    ¬ s.Told := by
  -- what has been noted was noted by a call that is done, or one in a later phase
  have hmarked : s.Marked := h.invariant ⟨by simp⟩ fun hs now => (State.step_cases now).marked hs
  have horderly : s.Orderly :=
    h.invariant State.Orderly.start fun hs now => hs.step (State.step_cases now)
  rintro (hnoted | ⟨other, hmarking⟩)
  · rcases hmarked.unsubscribed hnoted with hclosed | ⟨other, closing, hclosing', hphase, -⟩
    · simp [horderly.not_closed hclosing] at hclosed
    · rw [hclosing] at hclosing'
      obtain ⟨-, rfl⟩ := Prod.mk.inj (Option.some.inj hclosing')
      exact hphase rfl
  · simp [hclosing] at hmarking

namespace Outpost

variable {s s' : Outpost} {a : Action} {steps : List (Outpost × Action)}

/-! ### Steps of an outpost -/

/-- What an action does at an outpost, and under which conditions. -/
inductive Step (s : Outpost) : Action → Outpost → Prop
  /-- The broker, the connection or a call of the client takes a step. -/
  | link {b : Link.Action} {link : Link} (hlinks : isLinks b = true)
    (hlink : s.wiring.link.step? b = some link) :
    Step s (.link b) { s with wiring := { s.wiring with link } }
  | dispatch {event : Transport.Event} {link : Link} {handler : State}
    (hevent : s.wiring.link.client.loop.events = event :: link.client.loop.events)
    (hlink : s.wiring.link.step? (.own .takeEvent) = some link)
    (hhandler : s.handler.step? (.dispatch event) = some handler) :
    Step s .dispatch { handler, wiring := { s.wiring with link } }
  | subscribeReply {loop i : Nat} {result : Except Transport.Error Unit} {handler : State}
    (hcall : s.wiring.loopCalls.lookup loop = some i)
    (hresult : s.wiring.resultOf? i = some result)
    (hhandler : s.handler.step? (.subscribeReply loop result) = some handler) :
    Step s (.subscribeReply loop) { handler, wiring := { s.wiring with
      loopCalls := s.wiring.loopCalls.filter (·.1 ≠ loop) } }
  | unsubscribeReply {i : Nat} {result : Except Transport.Error Unit} {handler : State}
    (hcall : s.wiring.closeCall? = some i) (hresult : s.wiring.resultOf? i = some result)
    (hhandler : s.handler.step? (.unsubscribeReply result) = some handler) :
    Step s .unsubscribeReply { handler, wiring := { s.wiring with closeCall? := none } }
  | disconnectReply {reply : Except Transport.Error Unit} {link : Link} {handler : State}
    (hlink : s.wiring.link.step? (.own .requestDisconnect) = some link)
    (hhandler : s.handler.step? (.disconnectReply reply) = some handler) :
    Step s .disconnectReply { handler, wiring := { s.wiring with link } }
  /-- A loop makes a call of the client. -/
  | subscribe {loop : Nat} {link : Link} {handler : State}
    (hlink : s.wiring.link.step? (.own (.call (.subscribe .exactlyOnce) commandFilter)) = some link)
    (hhandler : s.handler.step? (.subscribe loop) = some handler) :
    Step s (.own (.subscribe loop)) { handler, wiring := { s.wiring with
      link, loopCalls := (loop, s.wiring.nextCall) :: s.wiring.loopCalls } }
  /-- So does the one who closes the handler. -/
  | enter {link : Link} {handler : State} (hopen : s.handler.closed = false)
    (hlink : s.wiring.link.step? (.own (.call .unsubscribe commandFilter)) = some link)
    (hhandler : s.handler.step? .enter = some handler) :
    Step s (.own .enter) { handler, wiring := { s.wiring with
      link, closeCall? := some s.wiring.nextCall } }
  | leave {link : Link} {handler : State} (hlink : s.wiring.link.step? (.own .leave) = some link)
    (hhandler : s.handler.step? .drained = some handler) :
    Step s (.own .drained) { handler, wiring := { s.wiring with link } }
  /-- The handler takes a step that is nothing to the client. -/
  | own {b : Handler.Action} {handler : State} (hquiet : needsReply b = false)
    (hsubscribe : ∀ loop, b ≠ .subscribe loop) (hdrained : b ≠ .drained)
    (henter : b = .enter → s.handler.closed = true)
    (hhandler : s.handler.step? b = some handler) :
    Step s (.own b) { s with handler }

/-- What the client does when it is asked to. -/
theorem act_eq {w : Wiring} {b : Broker.Client.Action} {link : Link}
    (h : w.link.step? (.own b) = some link) : w.act b = { w with link } := by
  simp [Wiring.act, h]

theorem step_own {b : Handler.Action} (h : s.step? (.own b) = some s') : s.Step (.own b) s' := by
  simp only [step?, Wiring.resolve?, Option.bind_eq_bind, Option.bind_eq_some_iff] at h
  obtain ⟨⟨action?, wiring⟩, hresolve, h⟩ := h
  split at hresolve
  · simp at hresolve
  · next hquiet =>
    obtain ⟨rfl, rfl⟩ := Prod.mk.inj (Option.some.inj hresolve)
    obtain ⟨handler, hhandler, h⟩ := Option.bind_eq_some_iff.mp h
    obtain rfl := Option.some.inj h
    have hquiet' : needsReply b = false := by simpa using hquiet
    cases b with
    | subscribe loop => exact .subscribe rfl hhandler
    | enter =>
      cases hclosed : s.handler.closed with
      | true =>
        simp only [Wiring.follow, hclosed, if_true]
        exact .own rfl (by simp) (by simp) (fun _ => hclosed) hhandler
      | false =>
        simp only [Wiring.follow, hclosed, Bool.false_eq_true, if_false]
        exact .enter hclosed rfl hhandler
    | drained => exact .leave rfl hhandler
    | _ => exact .own hquiet' (by simp) (by simp) (by simp) hhandler

/-- Every step is one of the cases. -/
theorem step_cases (h : s.step? a = some s') : s.Step a s' := by
  cases a with
  | own b => exact step_own h
  | link b =>
    simp only [step?, Wiring.resolve?, Option.bind_eq_bind, Option.bind_eq_some_iff] at h
    obtain ⟨⟨action?, wiring⟩, hresolve, h⟩ := h
    split at hresolve
    · next hlinks =>
      obtain ⟨link, hlink, heq⟩ := Option.map_eq_some_iff.mp hresolve
      obtain ⟨rfl, rfl⟩ := Prod.mk.inj heq
      obtain rfl := Option.some.inj h
      exact .link hlinks hlink
    · simp at hresolve
  | dispatch =>
    simp only [step?, Wiring.resolve?, Option.bind_eq_bind, Option.bind_eq_some_iff] at h
    obtain ⟨⟨action?, wiring⟩, ⟨⟨event, loop⟩, htake, hresolve⟩, h⟩ := h
    obtain ⟨rfl, rfl⟩ := Prod.mk.inj (Option.some.inj hresolve)
    obtain ⟨handler, hhandler, h⟩ := Option.bind_eq_some_iff.mp h
    obtain rfl := Option.some.inj h
    have hlink : s.wiring.link.step? (.own .takeEvent) =
        some { s.wiring.link with client := { s.wiring.link.client with loop } } := by
      simp [Link.step?, Link.isOwn, Broker.Client.step?, htake]
    rw [act_eq hlink]
    refine .dispatch ?_ hlink hhandler
    unfold Broker.Loop.takeEvent? at htake
    split at htake
    · simp at htake
    · next events hevents =>
      obtain ⟨rfl, rfl⟩ := Prod.mk.inj (Option.some.inj htake)
      exact hevents
  | subscribeReply loop =>
    simp only [step?, Wiring.resolve?, Option.bind_eq_bind, Option.bind_eq_some_iff] at h
    obtain ⟨⟨action?, wiring⟩, ⟨i, hcall, result, hresult, hresolve⟩, h⟩ := h
    obtain ⟨rfl, rfl⟩ := Prod.mk.inj (Option.some.inj hresolve)
    obtain ⟨handler, hhandler, h⟩ := Option.bind_eq_some_iff.mp h
    obtain rfl := Option.some.inj h
    exact .subscribeReply hcall hresult hhandler
  | unsubscribeReply =>
    simp only [step?, Wiring.resolve?, Option.bind_eq_bind, Option.bind_eq_some_iff] at h
    obtain ⟨⟨action?, wiring⟩, ⟨i, hcall, result, hresult, hresolve⟩, h⟩ := h
    obtain ⟨rfl, rfl⟩ := Prod.mk.inj (Option.some.inj hresolve)
    obtain ⟨handler, hhandler, h⟩ := Option.bind_eq_some_iff.mp h
    obtain rfl := Option.some.inj h
    exact .unsubscribeReply hcall hresult hhandler
  | disconnectReply =>
    simp only [step?, Wiring.resolve?, Option.bind_eq_bind, Option.bind_eq_some_iff] at h
    obtain ⟨⟨action?, wiring⟩, hresolve, h⟩ := h
    obtain ⟨rfl, rfl⟩ := Prod.mk.inj (Option.some.inj hresolve)
    obtain ⟨handler, hhandler, h⟩ := Option.bind_eq_some_iff.mp h
    obtain rfl := Option.some.inj h
    exact .disconnectReply rfl hhandler

/-! ### The link and the handler alone -/

/-- What the link does in a step. -/
def linkAction? (s : Outpost) : Action → Option Link.Action
  | .link b => some b
  | .dispatch => some (.own .takeEvent)
  | .disconnectReply => some (.own .requestDisconnect)
  | .own (.subscribe _) => some (.own (.call (.subscribe .exactlyOnce) commandFilter))
  | .own .enter =>
    if s.handler.closed then none else some (.own (.call .unsubscribe commandFilter))
  | .own .drained => some (.own .leave)
  | _ => none

/-- The steps of the link among those of the outpost. -/
def links (steps : List (Outpost × Action)) : List (Link × Link.Action) :=
  steps.filterMap fun p => (p.1.linkAction? p.2).map fun b => (p.1.wiring.link, b)

theorem links_append (steps : List (Outpost × Action)) (s : Outpost) (a : Action) :
    links (steps ++ [(s, a)]) =
      links steps ++ ((s.linkAction? a).map fun b => (s.wiring.link, b)).toList := by
  cases h : s.linkAction? a <;> simp [links, h]

/-- The link takes the step that belongs to it, if any. -/
theorem Step.link_eq (h : s.Step a s') :
    (s.linkAction? a = none ∧ s'.wiring.link = s.wiring.link) ∨
      ∃ b, s.linkAction? a = some b ∧ s.wiring.link.step? b = some s'.wiring.link := by
  cases h with
  | link hlinks hlink => exact .inr ⟨_, rfl, hlink⟩
  | dispatch hevent hlink hhandler => exact .inr ⟨_, rfl, hlink⟩
  | subscribeReply hcall hresult hhandler => exact .inl ⟨rfl, rfl⟩
  | unsubscribeReply hcall hresult hhandler => exact .inl ⟨rfl, rfl⟩
  | disconnectReply hlink hhandler => exact .inr ⟨_, rfl, hlink⟩
  | subscribe hlink hhandler => exact .inr ⟨_, rfl, hlink⟩
  | enter hopen hlink hhandler => exact .inr ⟨_, by simp [linkAction?, hopen], hlink⟩
  | leave hlink hhandler => exact .inr ⟨_, rfl, hlink⟩
  | @own b handler hquiet hsubscribe hdrained henter hhandler =>
    -- the handler's own steps that ask something of the client are the cases before
    refine .inl ⟨?_, rfl⟩
    cases b with
    | subscribe loop => exact absurd rfl (hsubscribe loop)
    | drained => exact absurd rfl hdrained
    | enter => simp [linkAction?, henter rfl]
    | _ => rfl

theorem run_link (h : Run Outpost.step? {} steps s) :
    Run Link.step? {} (links steps) s.wiring.link := by
  induction h with
  | refl => exact .refl
  | @step steps r a s _ now ih =>
    rw [links_append]
    rcases (step_cases now).link_eq with ⟨hnone, hsame⟩ | ⟨b, hsome, hlink⟩
    · rw [hnone, hsame]
      simpa using ih
    · rw [hsome]
      exact .step ih hlink

/-- The handler takes the step that belongs to it, if any. -/
theorem Step.handler_eq (h : s.Step a s') :
    s'.handler = s.handler ∨ ∃ b, s.handler.step? b = some s'.handler := by
  cases h with
  | link hlinks hlink => exact .inl rfl
  | dispatch hevent hlink hhandler => exact .inr ⟨_, hhandler⟩
  | subscribeReply hcall hresult hhandler => exact .inr ⟨_, hhandler⟩
  | unsubscribeReply hcall hresult hhandler => exact .inr ⟨_, hhandler⟩
  | disconnectReply hlink hhandler => exact .inr ⟨_, hhandler⟩
  | subscribe hlink hhandler => exact .inr ⟨_, hhandler⟩
  | enter hopen hlink hhandler => exact .inr ⟨_, hhandler⟩
  | leave hlink hhandler => exact .inr ⟨_, hhandler⟩
  | own hquiet hsubscribe hdrained henter hhandler => exact .inr ⟨_, hhandler⟩

theorem run_handler (h : Run Outpost.step? {} steps s) :
    ∃ inner, Run State.step? {} inner s.handler := by
  induction h with
  | refl => exact ⟨[], .refl⟩
  | step _ now ih =>
    obtain ⟨inner, hinner⟩ := ih
    rcases (step_cases now).handler_eq with hsame | ⟨b, hstep⟩
    · exact ⟨inner, hsame ▸ hinner⟩
    · exact ⟨_, hinner.step hstep⟩

/-! ### Calls of the client -/

/-- A link that has the same calls as another one, some of which may have gone on. -/
structure Evolved (l l' : Link) : Prop where
  before : ∀ (j : Nat) call', l'.client.calls[j]? = some call' →
    ∃ call, l.client.calls[j]? = some call ∧ call'.kind = call.kind ∧ call'.filter = call.filter
  after : ∀ (j : Nat) call, l.client.calls[j]? = some call →
    ∃ call', l'.client.calls[j]? = some call' ∧ call'.kind = call.kind ∧
      (call.hasReturned = true → call' = call)

theorem Evolved.refl (l : Link) : Evolved l l :=
  ⟨fun _ call h => ⟨call, h, rfl, rfl⟩, fun _ call h => ⟨call, h, rfl, fun _ => rfl⟩⟩

/-- Unless a call is made, the calls go on as they may. -/
theorem evolved_of_step {l l' : Link} {b : Link.Action} (hl : l.Sound) (h : l.step? b = some l')
    (hnew : ∀ kind filter, b ≠ .own (.call kind filter)) : Evolved l l' := by
  have hcase := (Link.step_cases hl.delayed h).1
  constructor
  · intro j call' hcall'
    obtain ⟨call, hcall, hevolves⟩ := hcase.exists_before hnew hcall'
    exact ⟨call, hcall, hevolves.kind, (Link.request?_of_evolves hevolves).2⟩
  · intro j call hcall
    obtain ⟨call', hcall', hevolves⟩ := hcase.exists_evolves hcall
    exact ⟨call', hcall', hevolves.kind, hevolves.eq_of_returned⟩

theorem resultOf?_eq_some_iff {w : Wiring} {i : Nat} {result : Except Transport.Error Unit} :
    w.resultOf? i = some result ↔
      ∃ call, w.link.client.calls[i]? = some call ∧ call.phase = .returned result := by
  simp only [Wiring.resultOf?, Option.bind_eq_some_iff, Broker.Call.result?_eq_some_iff]

/-- The client has the calls that were asked for. -/
structure Wired (s : Outpost) : Prop where
  /-- All of them are about the command topic. -/
  filters : ∀ (i : Nat) call, s.wiring.link.client.calls[i]? = some call →
    call.filter = commandFilter
  /-- Loops wait for calls that subscribe. -/
  subscribing : ∀ loop i, (loop, i) ∈ s.wiring.loopCalls →
    ∃ call, s.wiring.link.client.calls[i]? = some call ∧ call.kind.answer = .suback
  /-- Somebody waits for the call that unsubscribes. -/
  closing : ∀ i, s.wiring.closeCall? = some i →
    ∃ call, s.handler.closing? = some (call, .unsubscribing)
  /-- All other calls that unsubscribe have failed, as long as the handler has not been told. -/
  unsubscribing : ∀ (i : Nat) call, s.wiring.link.client.calls[i]? = some call →
    call.kind = .unsubscribe → s.wiring.closeCall? = some i ∨
      (∃ e, call.phase = .returned (.error e)) ∨ s.handler.Told

/-- Steps in which no call is made, and nobody is told that a call has returned. -/
theorem Wired.evolve (hw : s.Wired) (hcalls : Evolved s.wiring.link s'.wiring.link)
    (hloops : ∀ p ∈ s'.wiring.loopCalls, p ∈ s.wiring.loopCalls)
    (hclose : s'.wiring.closeCall? = s.wiring.closeCall?)
    (hclosing : ∀ call, s.handler.closing? = some (call, .unsubscribing) →
      s'.handler.closing? = some (call, .unsubscribing))
    (htold : s.handler.Told → s'.handler.Told) : s'.Wired := by
  constructor
  · intro i call' hcall'
    obtain ⟨call, hcall, -, hfilter⟩ := hcalls.before i call' hcall'
    rw [hfilter]
    exact hw.filters i call hcall
  · intro loop i hmem
    obtain ⟨call, hcall, hkind⟩ := hw.subscribing loop i (hloops _ hmem)
    obtain ⟨call', hcall', hsame, -⟩ := hcalls.after i call hcall
    exact ⟨call', hcall', by rwa [hsame]⟩
  · intro i h
    rw [hclose] at h
    obtain ⟨call, hwaits⟩ := hw.closing i h
    exact ⟨call, hclosing call hwaits⟩
  · intro i call' hcall' hkind
    obtain ⟨call, hcall, hsame, -⟩ := hcalls.before i call' hcall'
    rw [hclose]
    rcases hw.unsubscribing i call hcall (hsame ▸ hkind) with hwaits | ⟨e, hfailed⟩ | hknown
    · exact .inl hwaits
    · -- a call that has returned does not change any more
      obtain ⟨call'', hcall'', -, hstays⟩ := hcalls.after i call hcall
      obtain rfl := Option.some.inj (hcall''.symm.trans hcall')
      rw [hstays (Broker.Call.hasReturned_iff.mpr ⟨_, hfailed⟩)]
      exact .inr (.inl ⟨e, hfailed⟩)
    · exact .inr (.inr (htold hknown))

/-- A new call of the client comes after all others. -/
theorem calls_of_call {l l' : Link} {kind : Broker.Call.Kind} {filter : String}
    (h : l.step? (.own (.call kind filter)) = some l') :
    l'.client.calls = l.client.calls ++ [({ kind, filter } : Broker.Call)] := by
  obtain rfl := Option.some.inj h
  rfl

theorem getElem?_concat {α : Type} {xs : List α} {x y : α} {i : Nat}
    (h : (xs ++ [x])[i]? = some y) : xs[i]? = some y ∨ (i = xs.length ∧ y = x) := by
  rw [List.getElem?_append] at h
  split at h
  · exact .inl h
  · have hmem := List.mem_of_getElem? h
    have hlt := (List.getElem?_eq_some_iff.mp h).1
    simp only [List.length_singleton] at hlt
    exact .inr ⟨by omega, List.mem_singleton.mp hmem⟩

/-- With a new call, too, all calls are about the command topic. -/
theorem Wired.filters_of_call (hw : s.Wired) {link : Link} {kind : Broker.Call.Kind}
    (hlink : s.wiring.link.step? (.own (.call kind commandFilter)) = some link) (i : Nat)
    (call : Broker.Call) (hcall : link.client.calls[i]? = some call) :
    call.filter = commandFilter := by
  rw [calls_of_call hlink] at hcall
  rcases getElem?_concat hcall with hold | ⟨-, rfl⟩
  · exact hw.filters i call hold
  · rfl

/-- Loops wait for the calls that they waited for. -/
theorem Wired.subscribing_of_call (hw : s.Wired) {link : Link} {kind : Broker.Call.Kind}
    {filter : String} (hlink : s.wiring.link.step? (.own (.call kind filter)) = some link)
    {loop i : Nat} (hmem : (loop, i) ∈ s.wiring.loopCalls) :
    ∃ call, link.client.calls[i]? = some call ∧ call.kind.answer = .suback := by
  obtain ⟨call, hcall, hkind⟩ := hw.subscribing loop i hmem
  have hlt : i < s.wiring.link.client.calls.length := (List.getElem?_eq_some_iff.mp hcall).1
  exact ⟨call, by rw [calls_of_call hlink, List.getElem?_append_left hlt, hcall], hkind⟩

theorem Wired.step (hw : s.Wired) (hl : s.wiring.link.Sound) (h : s.Step a s') : s'.Wired := by
  have told {r r' : State} {b : Handler.Action} (h : r.step? b = some r') (hknown : r.Told) :
      r'.Told := (State.step_cases h).told hknown
  -- most steps make no call; then come the answer to the one who closes, and the two new calls
  cases h with
  | @link b link hlinks hlink =>
    have hnew : ∀ kind filter, b ≠ .own (.call kind filter) := by
      rintro kind filter rfl
      simp [isLinks] at hlinks
    exact hw.evolve (evolved_of_step hl hlink hnew) (fun _ hp => hp) rfl (fun _ hc => hc)
      fun hknown => hknown
  | dispatch hevent hlink hhandler =>
    exact hw.evolve (evolved_of_step hl hlink (by simp)) (fun _ hp => hp) rfl
      (fun _ hc => (State.step_cases hhandler).closing_stays (by simp) hc) (told hhandler)
  | subscribeReply hcall hresult hhandler =>
    exact hw.evolve (.refl _) (fun _ hp => List.mem_of_mem_filter hp) rfl
      (fun _ hc => (State.step_cases hhandler).closing_stays (by simp) hc) (told hhandler)
  | disconnectReply hlink hhandler =>
    exact hw.evolve (evolved_of_step hl hlink (by simp)) (fun _ hp => hp) rfl
      (fun _ hc => (State.step_cases hhandler).closing_stays (by simp) hc) (told hhandler)
  | leave hlink hhandler =>
    exact hw.evolve (evolved_of_step hl hlink (by simp)) (fun _ hp => hp) rfl
      (fun _ hc => (State.step_cases hhandler).closing_stays (by simp) hc) (told hhandler)
  | @own b handler hquiet hsubscribe hdrained henter hhandler =>
    refine hw.evolve (.refl _) (fun _ hp => hp) rfl
      (fun _ hc => (State.step_cases hhandler).closing_stays ?_ hc) (told hhandler)
    rintro reply rfl
    simp [needsReply] at hquiet
  | @unsubscribeReply i result handler hcall hresult hhandler =>
    refine ⟨hw.filters, hw.subscribing, by simp, ?_⟩
    intro j call hcall' hkind
    rcases hw.unsubscribing j call hcall' hkind with hwaits | hfailed | hknown
    · -- the call that has returned now has failed, or the handler is told
      obtain rfl := Option.some.inj (hcall.symm.trans hwaits)
      obtain ⟨returned, hmade, hphase⟩ := resultOf?_eq_some_iff.mp hresult
      obtain rfl := Option.some.inj (hmade.symm.trans hcall')
      cases result with
      | error e => exact .inr (.inl ⟨e, hphase⟩)
      | ok answer =>
        refine .inr (.inr ?_)
        cases State.step_cases hhandler with
        | unsubscribed hclosing => exact .inr ⟨_, rfl⟩
    · exact .inr (.inl hfailed)
    · exact .inr (.inr (told hhandler hknown))
  | @subscribe loop link handler hlink hhandler =>
    refine ⟨hw.filters_of_call hlink, ?_, ?_, ?_⟩
    · intro other i hmem
      rcases List.mem_cons.mp hmem with heq | hmem
      · obtain ⟨-, rfl⟩ := Prod.mk.inj heq
        rw [calls_of_call hlink]
        exact ⟨_, List.getElem?_concat_length, rfl⟩
      · exact hw.subscribing_of_call hlink hmem
    · intro i hclose
      obtain ⟨call, hwaits⟩ := hw.closing i hclose
      exact ⟨call, (State.step_cases hhandler).closing_stays (by simp) hwaits⟩
    · intro i call hcall hkind
      rw [calls_of_call hlink] at hcall
      rcases getElem?_concat hcall with hold | ⟨-, rfl⟩
      · exact (hw.unsubscribing i call hold hkind).imp_right (.imp_right (told hhandler))
      · simp at hkind
  | @enter link handler hopen hlink hhandler =>
    cases State.step_cases hhandler with
    | enterClosed hfree hturns hclosed => simp [hopen] at hclosed
    | @enter call turns hfree hturns =>
      -- nobody waited for a call before
      have hnobody : s.wiring.closeCall? = none := by
        cases hclose : s.wiring.closeCall? with
        | none => rfl
        | some i =>
          obtain ⟨other, hwaits⟩ := hw.closing i hclose
          simp [hfree] at hwaits
      refine ⟨hw.filters_of_call hlink, fun _ _ => hw.subscribing_of_call hlink,
        fun _ _ => ⟨call, rfl⟩, ?_⟩
      intro i call hcall hkind
      rw [calls_of_call hlink] at hcall
      rcases getElem?_concat hcall with hold | ⟨rfl, -⟩
      · rcases hw.unsubscribing i call hold hkind with hwaits | hfailed | hknown
        · simp [hnobody] at hwaits
        · exact .inr (.inl hfailed)
        · exact .inr (.inr (told hhandler hknown))
      · exact .inl rfl

theorem wired_of_run (h : Run Outpost.step? {} steps s) : s.Wired := by
  induction h with
  | refl => exact ⟨by simp, by simp, by simp, by simp⟩
  | step before now ih => exact ih.step (Link.sound_of_run (run_link before)) (step_cases now)

/-- The broker is told of nothing but the command topic. -/
theorem informed_of_run (h : Run Outpost.step? {} steps s) :
    Link.Informed commandFilter (links steps) s.wiring.link := by
  refine Link.informed_of_run (run_link h) ?_
  intro call hmem
  obtain ⟨i, hcall⟩ := List.getElem?_of_mem hmem
  exact (wired_of_run h).filters i call hcall

end Outpost

end LoraBridge.Handler
