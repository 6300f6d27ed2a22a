import LoraBridge.Proofs.Handler.Errands

/-! # Handlers that could not be closed

  A call that cannot close the handler says so, and the handler goes on. It is meant to be
  subscribed then, or about to be. That it is not comes of one thing alone: the broker has ended the
  subscription as the call asked for, but the call did not learn of it in time.

  - `Outpost.Attended`: the event that the session is up waits, or the broker has had to do with the
    subscription in this session, or there is a loop that has not been told that it is subscribed.
  - `Outpost.attended_of_run`: this holds until the handler is told that it is unsubscribed.
  - `Outpost.failed_close_attended`: what holds when a call has failed.
  - `Outpost.failed_close_deaf`: a call that fails and leaves a handler which nobody sends anything.
-/

namespace LoraBridge.Handler

open Broker (Link)

/-! ### Loops that go on -/

/-- A loop in another phase, among the loops of a handler. -/
theorem mem_setLoop {s : State} {loop : Loop} (hloop : loop ∈ s.loops) (number : Nat)
    (phase : LoopPhase) : ∃ loop' ∈ (s.setLoop number phase).loops, loop'.number = loop.number ∧
      ((loop.number ≠ number ∧ loop' = loop) ∨
        (loop.number = number ∧ loop' = { loop with phase })) := by
  by_cases h : loop.number = number
  · exact ⟨{ loop with phase }, List.mem_map.mpr ⟨loop, hloop, if_pos h⟩, rfl, .inr ⟨h, rfl⟩⟩
  · exact ⟨loop, List.mem_map.mpr ⟨loop, hloop, if_neg h⟩, rfl, .inl ⟨h, rfl⟩⟩

/-- Unless it asks or is told that it is subscribed, a loop does not end, and does not begin to
    wait. -/
theorem State.Step.loop_stays {s s' : State} {a : Action} {es : List Entry} {loop : Loop}
    (h : s.Step a es s') (hopen : s.unsubscribed = false) (hloop : loop ∈ s.loops)
    (hasks : ∀ number, a ≠ .subscribe number) (htold : a ≠ .subscribeReply loop.number (.ok ())) :
    ∃ loop' ∈ s'.loops, loop'.number = loop.number ∧ (loop' = loop ∨ loop'.phase ≠ .waiting) := by
  have moved {number : Nat} {phase : LoopPhase} (hphase : phase ≠ .waiting) :
      ∃ loop' ∈ (s.setLoop number phase).loops,
        loop'.number = loop.number ∧ (loop' = loop ∨ loop'.phase ≠ .waiting) := by
    obtain ⟨loop', hmem, hnumber, ⟨-, hsame⟩ | ⟨-, rfl⟩⟩ := mem_setLoop hloop number phase
    · exact ⟨loop', hmem, hnumber, .inl hsame⟩
    · exact ⟨_, hmem, hnumber, .inr hphase⟩
  cases h with
  | giveUp hfound hphase hnoted => simp [hopen] at hnoted
  | connected => exact ⟨loop, List.mem_append_left _ hloop, rfl, .inl rfl⟩
  | goOn | notSubscribed | wake => exact moved (by simp)
  | subscribe => exact absurd rfl (hasks _)
  | @subscribed number =>
    have hne : loop.number ≠ number := by
      rintro rfl
      exact htold rfl
    exact ⟨loop, List.mem_filter.mpr ⟨hloop, by simpa using hne⟩, rfl, .inl rfl⟩
  | _ => exact ⟨loop, hloop, rfl, .inl rfl⟩

namespace Outpost

variable {s s' : Outpost} {a : Action} {steps : List (Outpost × Action)} {loop loop' : Loop}

/-- What is found among the entries of others is found among all of them. -/
theorem lookup_of_filter {calls : List (Nat × Nat)} {k n i : Nat}
    (h : (calls.filter (·.1 ≠ k)).lookup n = some i) : calls.lookup n = some i := by
  induction calls with
  | nil => simp at h
  | cons entry calls ih =>
    obtain ⟨m, j⟩ := entry
    by_cases hk : m = k
    · rw [List.filter_cons_of_neg (by simp [hk])] at h
      have hn : n ≠ m := by
        rintro rfl
        obtain ⟨before, after, heq, -⟩ := List.lookup_eq_some_iff.mp h
        have hmem : (n, i) ∈ calls.filter (·.1 ≠ k) := by
          rw [heq]
          simp
        exact absurd hk (by simpa using (List.mem_filter.mp hmem).2)
      simp [List.lookup_cons, beq_false_of_ne hn, ih h]
    · rw [List.filter_cons_of_pos (by simp [hk])] at h
      by_cases hn : n = m
      · subst hn
        simpa [List.lookup_cons] using h
      · simp only [List.lookup_cons, beq_false_of_ne hn] at h ⊢
        exact ih h

/-- The loop waits for nothing, or for a call that has not been told that it has succeeded. -/
def Honest (s : Outpost) (loop : Loop) : Prop :=
  loop.phase = .waiting → ∀ i call, s.wiring.loopCalls.lookup loop.number = some i →
    s.wiring.link.client.calls[i]? = some call → call.answer? ≠ some (.ok ())

/-- A subscription of this session is accounted for, or something stands for it: the event that the
    session is up, or a loop. -/
def Attended (steps : List (Outpost × Action)) (s : Outpost) : Prop :=
  .connected ∈ s.wiring.link.client.loop.events ∨ Link.Settled commandFilter (links steps) ∨
    ∃ loop ∈ s.handler.loops, s.Honest loop

/-! ### What the link does -/

/-- Only the dispatcher takes events. -/
theorem Step.linkAction_ne (h : s.Step a s') (hother : a ≠ .dispatch) {b : Link.Action}
    (hb : s.linkAction? a = some b) : b ≠ .own .takeEvent ∧ b ≠ .own .dropReceiver := by
  cases a with
  | link action =>
    obtain rfl := Option.some.inj hb
    cases h with
    | link hlinks =>
      refine ⟨?_, ?_⟩
      · rintro rfl
        simp [isLinks] at hlinks
      · rintro rfl
        simp [isLinks] at hlinks
  | dispatch => exact absurd rfl hother
  | disconnectReply =>
    obtain rfl := Option.some.inj hb
    simp
  | own action =>
    cases action with
    | subscribe loop =>
      obtain rfl := Option.some.inj hb
      simp
    | drained =>
      obtain rfl := Option.some.inj hb
      simp
    | enter =>
      simp only [linkAction?] at hb
      split at hb
      · simp at hb
      · obtain rfl := Option.some.inj hb
        simp
    | _ => simp [linkAction?] at hb
  | _ => simp [linkAction?] at hb

/-- Events wait for the dispatcher. -/
theorem Step.mem_events (h : s.Step a s') (hl : s.wiring.link.Sound) (hother : a ≠ .dispatch)
    {event : Transport.Event} (hevent : event ∈ s.wiring.link.client.loop.events) :
    event ∈ s'.wiring.link.client.loop.events := by
  rcases h.link_eq with ⟨-, hsame⟩ | ⟨b, hb, hlink⟩
  · rwa [hsame]
  · obtain ⟨htaken, hdropped⟩ := h.linkAction_ne hother hb
    exact Link.mem_events_step hl.delayed hlink htaken hdropped hevent

/-- A session that is up has come up in this step, or what the broker has done in it remains. -/
theorem Step.reported_or_up (h : s.Step a s') (hl : s.wiring.link.Steady)
    (hup : s'.wiring.link.client.up = true) :
    .connected ∈ s'.wiring.link.client.loop.events ∨
      (s.wiring.link.client.up = true ∧ (Link.Settled commandFilter (links steps) →
        Link.Settled commandFilter (links (steps ++ [(s, a)])))) := by
  rw [links_append]
  rcases h.link_eq with ⟨hnone, hsame⟩ | ⟨b, hb, hlink⟩
  · rw [hsame] at hup
    rw [hnone]
    exact .inr ⟨hup, by simp⟩
  · rw [hb]
    rcases Link.reported_or_up hl hlink hup with hreported | ⟨hbefore, hsession⟩
    · exact .inl hreported
    · exact .inr ⟨hbefore, fun hsettled => hsettled.append hsession⟩

/-- A call that is known to have succeeded was known to before, or the broker has had to do with the
    subscription in this session. -/
theorem Step.granted_before (h : s.Step a s') (hl : s.wiring.link.Steady)
    (hi : Link.Informed commandFilter (links steps) s.wiring.link)
    (hup : s.wiring.link.client.up = true) {i : Nat} {call' : Broker.Call}
    (hcall' : s'.wiring.link.client.calls[i]? = some call')
    (hkind : call'.kind.answer = .suback) (hanswer : call'.answer? = some (.ok ())) :
    (∃ call, s.wiring.link.client.calls[i]? = some call ∧ call.answer? = some (.ok ())) ∨
      Link.Settled commandFilter (links steps) := by
  rcases h.link_eq with ⟨-, hsame⟩ | ⟨b, -, hlink⟩
  · rw [hsame] at hcall'
    exact .inl ⟨call', hcall', hanswer⟩
  · by_cases hnew : ∃ kind other, b = .own (.call kind other)
    · obtain ⟨kind, other, rfl⟩ := hnew
      rw [calls_of_call hlink] at hcall'
      rcases getElem?_concat hcall' with hold | ⟨-, rfl⟩
      · exact .inl ⟨call', hold, hanswer⟩
      · simp at hanswer
    · refine Link.granted_before hl hi hup hlink ?_ hcall' hkind hanswer
      intro kind other heq
      exact hnew ⟨kind, other, heq⟩

/-! ### What the loops do -/

/-- An honest loop goes on, or the broker has had to do with the subscription in this session. -/
theorem Honest.goOn (hhonest : s.Honest loop)
    (hloop : loop' = loop ∨ loop'.phase ≠ .waiting)
    (hcalls : ∀ i, s'.wiring.loopCalls.lookup loop.number = some i →
      s.wiring.loopCalls.lookup loop.number = some i)
    (hbefore : ∀ i call', s'.wiring.loopCalls.lookup loop.number = some i →
      s'.wiring.link.client.calls[i]? = some call' → call'.answer? = some (.ok ()) →
      ∃ call, s.wiring.link.client.calls[i]? = some call ∧ call.answer? = some (.ok ())) :
    s'.Honest loop' := by
  intro hwaits i call' hlookup hcall' hanswer
  rcases hloop with rfl | hphase
  · obtain ⟨call, hcall, htold⟩ := hbefore i call' hlookup hcall' hanswer
    exact hhonest hwaits i call (hcalls i hlookup) hcall htold
  · exact hphase hwaits

/-- A loop that is told that it is subscribed had a call that was told so. -/
theorem not_told_subscribed (hlink : Run Link.step? {} (links steps) s.wiring.link)
    (hn : s.handler.LoopsNumbered) (hloop : loop ∈ s.handler.loops) (hhonest : s.Honest loop)
    {i : Nat} {result : Except Transport.Error Unit} {handler : State}
    (hcall : s.wiring.loopCalls.lookup loop.number = some i)
    (hresult : s.wiring.resultOf? i = some result)
    (hhandler : s.handler.step? (.subscribeReply loop.number result) = some handler) :
    result ≠ .ok () := by
  rintro rfl
  -- the loop that waits is the one with this number
  have hfound : s.handler.loop? loop.number = some loop :=
    find?_of_mem Loop.number hn.nodup hloop
  have hwaits : loop.phase = .waiting := by
    cases State.step_cases hhandler with
    | subscribed hloop hphase =>
      obtain rfl := Option.some.inj (hloop.symm.trans hfound)
      exact hphase
  obtain ⟨call, hmade, hphase⟩ := resultOf?_eq_some_iff.mp hresult
  -- it has returned what it was told
  rcases (Link.sourced_of_run hlink hmade).returned _ hphase with
    herror | herror | ⟨answer, htold, hown⟩
  · simp at herror
  · simp at herror
  · cases answer with
    | ok done => exact hhonest hwaits i call hcall hmade htold
    | error e => cases e <;> simp [Broker.Call.own] at hown

/-- What becomes of an honest loop in a step. -/
theorem Step.honest (h : s.Step a s') (hlink : Run Link.step? {} (links steps) s.wiring.link)
    (hn : s.handler.LoopsNumbered) (hopen : s.handler.unsubscribed = false)
    (hloop : loop ∈ s.handler.loops) (hhonest : s.Honest loop)
    (hbefore : ∀ i call', s'.wiring.loopCalls.lookup loop.number = some i →
      s'.wiring.link.client.calls[i]? = some call' → call'.answer? = some (.ok ()) →
      ∃ call, s.wiring.link.client.calls[i]? = some call ∧ call.answer? = some (.ok ())) :
    ∃ loop' ∈ s'.handler.loops, s'.Honest loop' := by
  -- a step of the handler that neither asks nor tells the loop that it is subscribed
  have stays {b : Handler.Action} (hstep : s.handler.step? b = some s'.handler)
      (hasks : ∀ number, b ≠ .subscribe number)
      (htold : b ≠ .subscribeReply loop.number (.ok ()))
      (hcalls : ∀ i, s'.wiring.loopCalls.lookup loop.number = some i →
        s.wiring.loopCalls.lookup loop.number = some i) :
      ∃ loop' ∈ s'.handler.loops, s'.Honest loop' := by
    obtain ⟨loop', hmem, -, hsame⟩ :=
      (State.step_cases hstep).loop_stays hopen hloop hasks htold
    exact ⟨loop', hmem, hhonest.goOn hsame hcalls hbefore⟩
  cases h with
  | link hlinks hlink => exact ⟨loop, hloop, hhonest.goOn (.inl rfl) (fun _ h => h) hbefore⟩
  | dispatch hevent hlink hhandler => exact stays hhandler (by simp) (by simp) fun _ h => h
  | disconnectReply hlink hhandler => exact stays hhandler (by simp) (by simp) fun _ h => h
  | unsubscribeReply hcall hresult hhandler =>
    exact stays hhandler (by simp) (by simp) fun _ h => h
  | enter hclosed hlink hhandler => exact stays hhandler (by simp) (by simp) fun _ h => h
  | leave hlink hhandler => exact stays hhandler (by simp) (by simp) fun _ h => h
  | own hquiet hsubscribe hdrained henter hhandler =>
    refine stays hhandler hsubscribe ?_ fun _ h => h
    rintro rfl
    simp [needsReply] at hquiet
  | @subscribeReply number i result handler hcall hresult hhandler =>
    refine stays hhandler (by simp) ?_ fun _ h => lookup_of_filter h
    intro heq
    obtain ⟨rfl, rfl⟩ := Handler.Action.subscribeReply.inj heq
    exact not_told_subscribed hlink hn hloop hhonest hcall hresult hhandler rfl
  | @subscribe number link handler hmade hhandler =>
    cases State.step_cases hhandler with
    | subscribe hfound hphase =>
      obtain ⟨loop', hmem, hnumber, ⟨hne, rfl⟩ | ⟨heq, rfl⟩⟩ := mem_setLoop hloop number .waiting
      · -- another loop asks
        refine ⟨loop', hmem, hhonest.goOn (.inl rfl) ?_ hbefore⟩
        intro i hlookup
        simpa [List.lookup_cons, beq_false_of_ne hne] using hlookup
      · -- this loop asks, and its call is new
        refine ⟨_, hmem, ?_⟩
        intro _ i call hlookup hcall hanswer
        obtain rfl : s.wiring.nextCall = i := by
          simpa [List.lookup_cons, heq] using hlookup
        rw [calls_of_call hmade, Wiring.nextCall, List.getElem?_concat_length] at hcall
        obtain rfl := Option.some.inj hcall
        simp at hanswer

/-- The event that the session is up waits on, or a loop begins with it. -/
theorem Step.connected_or_loop (h : s.Step a s') (hl : s.wiring.link.Sound)
    (hevent : .connected ∈ s.wiring.link.client.loop.events) :
    .connected ∈ s'.wiring.link.client.loop.events ∨
      ∃ loop ∈ s'.handler.loops, s'.Honest loop := by
  by_cases hdispatch : a = .dispatch
  · subst hdispatch
    cases h with
    | dispatch htaken hlink hhandler =>
      rw [htaken] at hevent
      rcases List.mem_cons.mp hevent with rfl | hlater
      · right
        obtain rfl := Option.some.inj hhandler
        refine ⟨{ number := s.handler.nextLoop }, by simp [State.dispatch], ?_⟩
        intro hwaits
        simp at hwaits
      · exact .inl hlater
  · exact .inl (h.mem_events hl hdispatch hevent)

/-! ### What holds in every run -/

/-- While the session stays up, one thing or another stands for the subscription. -/
theorem Attended.step (hr : Attended steps s) (before : Run Outpost.step? {} steps s)
    (now : s.step? a = some s') (hopen : s.handler.unsubscribed = false)
    (hup : s.wiring.link.client.up = true)
    (hsettles : Link.Settled commandFilter (links steps) →
      Link.Settled commandFilter (links (steps ++ [(s, a)]))) :
    Attended (steps ++ [(s, a)]) s' := by
  have hstep := step_cases now
  have hlink := run_link before
  have hl := Link.steady_of_run hlink
  rcases hr with hevent | hsettled | ⟨loop, hloop, hhonest⟩
  · exact (hstep.connected_or_loop hl.sound hevent).imp_right .inr
  · exact .inr (.inl (hsettles hsettled))
  · by_cases hsettled : Link.Settled commandFilter (links steps)
    · exact .inr (.inl (hsettles hsettled))
    · -- as the broker has granted nothing, no call of a loop has come to know of success
      obtain ⟨inner, hinner⟩ := run_handler before
      refine .inr (.inr (hstep.honest hlink (loopsNumbered_of_run hinner) hopen hloop hhonest ?_))
      intro i call' hlookup hcall' hanswer
      obtain ⟨prior, later, heq, -⟩ := List.lookup_eq_some_iff.mp hlookup
      have hmem : (loop.number, i) ∈ s'.wiring.loopCalls := by
        rw [heq]
        simp
      obtain ⟨call, hcall, hkind⟩ := (wired_of_run (before.step now)).subscribing _ i hmem
      obtain rfl := Option.some.inj (hcall.symm.trans hcall')
      have hi := informed_of_run before
      exact (hstep.granted_before hl hi hup hcall' hkind hanswer).resolve_right hsettled

/-- Whenever there is a session, it is attended to, until the handler is told that it is
    unsubscribed. -/
theorem attended_of_run (h : Run Outpost.step? {} steps s) (huntold : ¬ s.handler.Told)
    (hup : s.wiring.link.client.up = true) : Attended steps s := by
  induction h with
  | refl => simp at hup
  | @step steps r a s before now ih =>
    have hstep := step_cases now
    have huntold' : ¬ r.handler.Told := by
      intro htold
      rcases hstep.handler_eq with hsame | ⟨b, hb⟩
      · exact huntold (hsame ▸ htold)
      · exact huntold ((State.step_cases hb).told htold)
    rcases hstep.reported_or_up (Link.steady_of_run (run_link before)) hup with
      hreported | ⟨hup', hsettles⟩
    · exact .inl hreported
    · exact (ih huntold' hup').step before now (State.not_unsubscribed_of_not_told huntold') hup'
        hsettles

/-- A call that returns an error leaves a handler that has not been told that it is unsubscribed,
    and nobody waits for the client to unsubscribe. -/
theorem not_told_of_error (h : Run Outpost.step? {} steps s)
    (now : s.step? .unsubscribeReply = some s') {call : Nat} {e : Error}
    (hwaits : s.handler.returns[call]? = some none)
    (hreturned : s'.handler.returns[call]? = some (some (.error e))) :
    ¬ s'.handler.Told ∧ s'.wiring.closeCall? = none := by
  obtain ⟨inner, hinner⟩ := run_handler h
  cases step_cases now with
  | @unsubscribeReply i result handler hcall hresult hhandler =>
    refine ⟨?_, rfl⟩
    cases result with
    | ok answer =>
      -- then the call would not have returned
      cases State.step_cases hhandler with
      | unsubscribed hclosing => simp [hwaits] at hreturned
    | error failure =>
      cases State.step_cases hhandler with
      | notUnsubscribed hclosing =>
        have hopen := State.not_unsubscribed_of_not_told (not_told_of_run hinner hclosing)
        rintro (hnoted | ⟨other, hmarking⟩)
        · simp [State.finish, hopen] at hnoted
        · simp [State.finish] at hmarking

/-- When a call that closes the handler returns an error and there is a session, then the handler
    has not noted that it is unsubscribed, and the session is subscribed to the command topic, or
    the event that it is up waits, or there is a loop; unless what the broker did last about the
    subscription, and in this session, was to end it as a call asked for that has failed. -/
theorem failed_close_attended (h : Run Outpost.step? {} steps s)
    (now : s.step? .unsubscribeReply = some s') {call : Nat} {e : Error}
    (hwaits : s.handler.returns[call]? = some none)
    (hreturned : s'.handler.returns[call]? = some (some (.error e)))
    (hup : s'.wiring.link.client.up = true) :
    s'.handler.unsubscribed = false ∧
      (commandFilter ∈ s'.wiring.link.subscriptions ∨
        .connected ∈ s'.wiring.link.client.loop.events ∨ s'.handler.loops ≠ [] ∨
        ∃ i failure, Link.lastNews commandFilter (links steps) = some (.ended i) ∧
          s'.wiring.resultOf? i = some (.error failure)) := by
  have hrun : Run Outpost.step? {} (steps ++ [(s, .unsubscribeReply)]) s' := h.step now
  have hsame : links (steps ++ [(s, .unsubscribeReply)]) = links steps := by
    rw [links_append]
    exact List.append_nil _
  obtain ⟨huntold, hnobody⟩ := not_told_of_error h now hwaits hreturned
  have hi := informed_of_run hrun
  refine ⟨State.not_unsubscribed_of_not_told huntold, ?_⟩
  rcases attended_of_run hrun huntold hup with hevent | ⟨i, hgranted | hended⟩ | ⟨loop, hloop, -⟩
  · exact .inr (.inl hevent)
  · exact .inl ((hi.subscribed hup).mpr ⟨i, hgranted⟩)
  · -- the subscription was ended for a call that nobody waits for any more, so it has failed
    obtain ⟨made, hmade, hkind⟩ := hi.ended i hended
    rw [hsame] at hended
    rcases (wired_of_run hrun).unsubscribing i made hmade hkind with
      hwaiting | ⟨failure, hphase⟩ | htold
    · simp [hnobody] at hwaiting
    · exact .inr (.inr (.inr ⟨i, failure, hended,
        resultOf?_eq_some_iff.mpr ⟨made, hmade, hphase⟩⟩))
    · exact absurd htold huntold
  · exact .inr (.inr (.inl (List.ne_nil_of_mem hloop)))

/-- The command topic is subscribed to, and a call closes the handler. The broker takes its packet
    if it is `sent` in time, but the call gets no answer and gives up. -/
def closeUnanswered (sent : List Action) : List Action :=
  [.link .connect, .dispatch, .own (.check 0), .own (.subscribe 0), .link (.own (.enter 0)),
    .link (.own (.request 0)), .link (.transmit false), .link (.answer 0),
    .link (.own (.finish 0)), .subscribeReply 0, .own .close, .own .enter,
    .link (.own (.enter 1)), .link (.own (.request 1))] ++ sent ++
  [.link (.own (.expire 1)), .link (.own (.clear 1))]

theorem failed_close_attended_unsent :
    ∃ steps s s', Run Outpost.step? {} steps s ∧ s.step? .unsubscribeReply = some s' ∧
      s.handler.returns[0]? = some none ∧
      s'.handler.returns[0]? =
        some (some (.error (.unsubscribe commandFilter (.timeout "UNSUBACK")))) ∧
      s'.wiring.link.client.up = true ∧ s'.wiring.link.client.loop.events = [] ∧
      s'.handler.loops = [] ∧ commandFilter ∈ s'.wiring.link.subscriptions := by
  have hcomputed : (Run.steps? Outpost.step? {} (closeUnanswered [])).bind (fun run =>
      (run.2.step? .unsubscribeReply).map fun s' =>
        (run.2.handler.returns[0]?, s'.handler.returns[0]?, s'.wiring.link.client.up,
          s'.wiring.link.client.loop.events, s'.handler.loops,
          Link.lastNews commandFilter (links run.1))) =
      some (some none,
        some (some (.error (.unsubscribe commandFilter (.timeout "UNSUBACK")))), true, [], [],
        some (.granted 0)) := rfl
  obtain ⟨⟨steps, s⟩, hrun, hstep⟩ := Option.bind_eq_some_iff.mp hcomputed
  obtain ⟨s', now, hfacts⟩ := Option.map_eq_some_iff.mp hstep
  simp only [Prod.mk.injEq] at hfacts
  obtain ⟨hwaits, hreturned, hup, hevents, hloops, hnews⟩ := hfacts
  have hattended := (failed_close_attended (Run.of_steps? hrun) now hwaits hreturned hup).2
  refine ⟨steps, s, s', Run.of_steps? hrun, now, hwaits, hreturned, hup, hevents, hloops, ?_⟩
  -- the broker did nothing about the subscription after it had granted it
  simpa [hevents, hloops, hnews] using hattended

/-- A call that gives up may leave a handler that nobody sends anything: the session is up, but it
    is not subscribed, for the broker has taken the packet of the call. No loop is left, and no
    event waits that would begin one. -/
theorem failed_close_deaf :
    ∃ steps s s', Run Outpost.step? {} steps s ∧ s.step? .unsubscribeReply = some s' ∧
      s.handler.returns[0]? = some none ∧
      s'.handler.returns[0]? =
        some (some (.error (.unsubscribe commandFilter (.timeout "UNSUBACK")))) ∧
      s'.wiring.link.client.up = true ∧ commandFilter ∉ s'.wiring.link.subscriptions ∧
      .connected ∉ s'.wiring.link.client.loop.events ∧ s'.handler.loops = [] := by
  have hcomputed : (Run.steps? Outpost.step? {} (closeUnanswered [.link (.transmit false)])).bind
      (fun run => (run.2.step? .unsubscribeReply).map fun s' =>
        (run.2.handler.returns[0]?, s'.handler.returns[0]?, s'.wiring.link.client.up,
          s'.wiring.link.subscriptions, s'.wiring.link.client.loop.events, s'.handler.loops)) =
      some (some none,
        some (some (.error (.unsubscribe commandFilter (.timeout "UNSUBACK")))), true, [], [],
        []) := rfl
  obtain ⟨⟨steps, s⟩, hrun, hstep⟩ := Option.bind_eq_some_iff.mp hcomputed
  obtain ⟨s', now, hfacts⟩ := Option.map_eq_some_iff.mp hstep
  simp only [Prod.mk.injEq] at hfacts
  obtain ⟨hwaits, hreturned, hup, hsubscriptions, hevents, hloops⟩ := hfacts
  refine ⟨steps, s, s', Run.of_steps? hrun, now, hwaits, hreturned, hup, ?_, ?_, hloops⟩
  · simp [hsubscriptions]
  · simp [hevents]

end Outpost

end LoraBridge.Handler
