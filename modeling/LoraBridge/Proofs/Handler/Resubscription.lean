import LoraBridge.Proofs.Handler.Unsubscribed

/-! # Sessions that come up again

  A local transport forgets its subscriptions when it loses the session, and the handler subscribes
  again when it hears that the session is up. Between the two something always stands for the
  subscription that is missing: the event that says so, or the loop that the event has begun.

  - `Station.Kept`: the subscription, or what stands for it.
  - `Station.kept_step`: no step drops it, unless the session is lost or the handler unsubscribes.
  - `Station.resubscription_kept`: so it is there whenever the session is up.
-/

namespace LoraBridge.Handler

open Transport (Local Event)

/-! ### Loops that go on -/

/-- As long as the handler has not unsubscribed, a loop ends only when it has subscribed. -/
theorem State.Step.loops_ne_nil {s s' : State} {a : Action} {es : List Entry} (h : s.Step a es s')
    (hopen : s.unsubscribed = false) (hloops : s.loops ≠ []) :
    s'.loops ≠ [] ∨ ∃ number, a = .subscribeReply number (.ok ()) := by
  cases h with
  | giveUp hloop hphase hnoted => simp [hopen] at hnoted
  | subscribed hloop hphase => exact .inr ⟨_, rfl⟩
  | goOn | subscribe | notSubscribed | wake => exact .inl (by simpa [State.setLoop] using hloops)
  | connected => exact .inl (by simp)
  | _ => exact .inl hloops

namespace Station

variable {s s' : Station} {a : Action} {steps : List (Station × Action)}

/-! ### Sessions -/

/-- What an action makes of the session, if it is about that. -/
def Action.session? : Action → Option Bool
  | .script call => call.session?
  | _ => none

/-- Whether the session is up after some steps: what was last heard of it is that it came up. -/
def isUp (steps : List (Station × Action)) : Bool :=
  (steps.filterMap fun p => p.2.session?).getLast? = some true

/-- Whether an action leaves to the handler what only the owner of a transport does. -/
def Action.isOutside : Action → Bool
  | .script call => call.isOutside
  | _ => true

/-- Whether the transport unsubscribes for a call, and does not fail. -/
def unsubscribes (s : Station) : Action → Bool
  | .unsubscribeReply => s.transport.unsubscribeFailure?.isNone
  | _ => false

/-- What the last step is not about, it leaves as it was. -/
theorem isUp_append (steps : List (Station × Action)) (r : Station) (a : Action) :
    isUp (steps ++ [(r, a)]) = (a.session?).getD (isUp steps) := by
  cases ha : a.session? with
  | none => simp [isUp, ha]
  | some up => cases up <;> simp [isUp, ha]

/-- A handler that was never told that it is unsubscribed has not noted that. -/
theorem not_unsubscribed (h : Run step? {} steps s)
    (hfailed : ∀ p ∈ steps, p.1.unsubscribes p.2 = false) : s.handler.unsubscribed = false := by
  cases hnoted : s.handler.unsubscribed with
  | false => rfl
  | true =>
    obtain ⟨pre, mid, post, r, u, rfl, hworks⟩ := (told_of_run h).marked hnoted
    have hfailure := hfailed (r, .unsubscribeReply) (by simp)
    simp [unsubscribes, hworks] at hfailure

/-- The session is ended by a handler that has unsubscribed. -/
theorem unsubscribed_of_disconnectReply (h : Run step? {} steps s)
    (now : s.step? .disconnectReply = some s') : s.handler.unsubscribed = true := by
  have hnoted : s.handler.Noted := (run_inner h).invariant ⟨by simp, by simp⟩
    fun hs now => (State.step_cases now).noted hs
  have hclosing : ∃ call, s.handler.closing? = some (call, .disconnecting) := by
    rcases step_cases now with ⟨call, hscript, -⟩ | ⟨b, t, hresolve, hstep, -⟩
    · cases hscript
    · generalize s'.handler = handler at hstep
      cases resolve?_cases hresolve with
      | stuck | disconnectReply =>
        cases State.step_cases hstep with
        | disconnected hclosing => exact ⟨_, hclosing⟩
  obtain ⟨call, hclosing⟩ := hclosing
  rcases hnoted.unsubscribed call _ hclosing with hphase | hphase | hunsubscribed
  · cases hphase
  · cases hphase
  · exact hunsubscribed

/-! ### The subscription, or what stands for it -/

/-- The command topic is subscribed to, or it will be heard that the session is up, or there is a
    loop that was begun by that. -/
def Kept (s : Station) : Prop :=
  s.transport.holds commandFilter = true ∨ .connected ∈ s.transport.events ∨ s.handler.loops ≠ []

/-- Events go on being taken until the handler ends the session. -/
theorem takesEvents_step (now : s.step? a = some s') (houtside : a.isOutside = true)
    (hstays : a ≠ .disconnectReply) : s'.transport.takesEvents = s.transport.takesEvents := by
  rcases step_cases now with ⟨call, rfl, rfl⟩ | ⟨b, t, hresolve, -, ht⟩
  · exact s.transport.takesEvents_apply houtside
  · rw [ht]
    cases resolve?_cases hresolve with
    | dispatch hevents => rfl
    | subscribeReply loop hreply =>
      have hsame := s.transport.takesEvents_subscribe commandFilter .exactlyOnce
      rwa [hreply] at hsame
    | unsubscribeReply hreply =>
      have hsame : (s.transport.unsubscribe commandFilter).2.takesEvents =
          s.transport.takesEvents := by
        unfold Local.unsubscribe
        split <;> rfl
      rwa [hreply] at hsame
    | stuck | disconnectReply => exact absurd rfl hstays
    | own hown => rfl

/-- When the session comes up, the event that says so waits. -/
theorem kept_of_connect (htakes : s.transport.takesEvents = true)
    (now : s.step? (.script .connect) = some s') : s'.Kept := by
  obtain rfl := Option.some.inj now
  refine .inr (.inl ?_)
  show Event.connected ∈ (s.transport.inject .connected).events
  rw [Local.inject_of_takes _ htakes]
  simp

/-- What the handler does keeps the subscription or what stands for it, as long as it does not
    unsubscribe. -/
theorem kept_of_resolve {b : Handler.Action} {t : Local} (hopen : s.handler.unsubscribed = false)
    (hfailed : s.unsubscribes a = false) (hresolve : s.Resolves a b t)
    (hstep : s.handler.step? b = some s'.handler) (ht : s'.transport = t)
    (hstays : a ≠ .disconnectReply) (hkept : s.Kept) : s'.Kept := by
  have hcase := State.step_cases hstep
  -- a loop stands for the subscription until it has subscribed
  have hloops (hne : s.handler.loops ≠ [])
      (hreply : ∀ number, b ≠ .subscribeReply number (.ok ())) : s'.Kept := by
    rcases hcase.loops_ne_nil hopen hne with hne | ⟨number, rfl⟩
    · exact .inr (.inr hne)
    · exact absurd rfl (hreply number)
  rw [Kept] at hkept
  cases hresolve with
  | @dispatch event events hevents =>
    rcases hkept with hholds | hpending | hne
    · exact .inl (by rwa [ht])
    · -- the event that the session is up may be the one that is taken, and then a loop begins
      rw [hevents] at hpending
      rcases List.mem_cons.mp hpending with rfl | hpending
      · have hbegun : s.handler.dispatch .connected = s'.handler := Option.some.inj hstep
        exact .inr (.inr (by simp [← hbegun, State.dispatch]))
      · exact .inr (.inl (by rwa [ht]))
    · exact hloops hne (by simp)
  | @subscribeReply loop reply t hreply =>
    cases reply with
    | ok answer => exact .inl (by rw [ht]; exact s.transport.holds_of_subscribe_ok hreply)
    | error e =>
      rcases hkept with hholds | hpending | hne
      · have hstill : (s.transport.subscribe commandFilter .exactlyOnce).2.holds commandFilter =
            true := s.transport.holds_subscribe_of_holds hholds
        rw [hreply] at hstill
        exact .inl (by rwa [ht])
      · have hsame := s.transport.events_subscribe commandFilter .exactlyOnce
        rw [hreply] at hsame
        exact .inr (.inl (by rwa [ht, hsame]))
      · exact hloops hne (by simp)
  | @unsubscribeReply reply t hreply =>
    have hsame : t = s.transport := by
      cases reply with
      | error e => exact s.transport.eq_of_unsubscribe_error hreply
      | ok answer =>
        have hworks := (Resolves.unsubscribeReply hreply).eq_unsubscribeReply.2
        simp [unsubscribes, hworks] at hfailed
    rcases hkept with hholds | hpending | hne
    · exact .inl (by rwa [ht, hsame])
    · exact .inr (.inl (by rwa [ht, hsame]))
    · exact hloops hne (by simp)
  | stuck | disconnectReply => exact absurd rfl hstays
  | own hown =>
    rcases hkept with hholds | hpending | hne
    · exact .inl (by rwa [ht])
    · exact .inr (.inl (by rwa [ht]))
    · refine hloops hne fun number hreply => ?_
      simp [hreply, isOwn] at hown

/-- Unless the session is lost, no step drops the subscription and what stands for it. -/
theorem kept_step (hopen : s.handler.unsubscribed = false) (hfailed : s.unsubscribes a = false)
    (now : s.step? a = some s') (houtside : a.isOutside = true) (hstays : a ≠ .disconnectReply)
    (hsession : a.session? ≠ some false) (hkept : s.Kept) : s'.Kept := by
  rcases step_cases now with ⟨call, rfl, rfl⟩ | ⟨b, t, hresolve, hstep, ht⟩
  · rcases hkept with hholds | hpending | hne
    · exact .inl (s.transport.holds_apply_of_holds houtside hsession hholds)
    · exact .inr (.inl (s.transport.mem_events_apply houtside hpending))
    · exact .inr (.inr hne)
  · exact kept_of_resolve hopen hfailed (resolve?_cases hresolve) hstep ht hstays hkept

theorem kept_of_run (h : Run step? {} steps s) (houtside : ∀ p ∈ steps, p.2.isOutside = true)
    (hfailed : ∀ p ∈ steps, p.1.unsubscribes p.2 = false) :
    s.transport.takesEvents = true ∧ (isUp steps = true → s.Kept) := by
  induction h with
  | refl => exact ⟨rfl, by simp [isUp]⟩
  | @step steps r a s hbefore now ih =>
    have hearlier : ∀ p ∈ steps, p ∈ steps ++ [(r, a)] := fun p hp => List.mem_append_left _ hp
    have hlast : (r, a) ∈ steps ++ [(r, a)] := by simp
    obtain ⟨htakes, hkept⟩ :=
      ih (fun p hp => houtside p (hearlier p hp)) (fun p hp => hfailed p (hearlier p hp))
    have hopen : r.handler.unsubscribed = false :=
      not_unsubscribed hbefore fun p hp => hfailed p (hearlier p hp)
    have hstays : a ≠ .disconnectReply := by
      rintro rfl
      simp [unsubscribed_of_disconnectReply hbefore now] at hopen
    refine ⟨?_, ?_⟩
    · rwa [takesEvents_step now (houtside _ hlast) hstays]
    · intro hup
      rw [isUp_append] at hup
      -- the session comes up with this step, or it was up before
      cases hsession : a.session? with
      | none =>
        rw [hsession] at hup
        exact kept_step hopen (hfailed _ hlast) now (houtside _ hlast) hstays (by simp [hsession])
          (hkept hup)
      | some up =>
        obtain rfl : up = true := by simpa [hsession] using hup
        cases a with
        | script call =>
          cases call with
          | connect => exact kept_of_connect htakes now
          | _ => simp [Action.session?, Local.Call.session?] at hsession
        | _ => simp [Action.session?] at hsession

/-- When the session is up and no call has unsubscribed, the command topic is subscribed to, or an
    event that the session is up waits to be taken, or there is a loop. No loop gives up, since the
    handler has not noted that it is unsubscribed. -/
theorem resubscription_kept (h : Run step? {} steps s)
    (houtside : ∀ p ∈ steps, p.2.isOutside = true)
    (hfailed : ∀ p ∈ steps, p.1.unsubscribes p.2 = false) (hup : isUp steps = true) :
    s.handler.unsubscribed = false ∧
      (s.transport.holds commandFilter = true ∨ .connected ∈ s.transport.events ∨
        s.handler.loops ≠ []) :=
  ⟨not_unsubscribed h hfailed, (kept_of_run h houtside hfailed).2 hup⟩

/-- The session is subscribed, and a call closes the handler. While the transport is about to refuse
    that, the session is lost and comes up again. Then the first attempt to subscribe fails. -/
def reconnectDuringClose : List Action :=
  [.script .connect, .dispatch, .own (.check 0), .own (.subscribe 0), .subscribeReply 0,
    .script (.failUnsubscribes (some "not now")), .own .close, .own .enter,
    .script (.dropConnection "gone"), .script .connect, .unsubscribeReply, .dispatch, .dispatch,
    .script (.failNextSubscribes 1), .own (.check 1), .own (.subscribe 1), .subscribeReply 1]

theorem resubscription_kept_duringClose :
    ∃ steps s, Run step? {} steps s ∧ (∀ p ∈ steps, p.2.isOutside = true) ∧
      (∀ p ∈ steps, p.1.unsubscribes p.2 = false) ∧ isUp steps = true ∧
      s.handler.returns =
        [some (.error (.unsubscribe commandFilter (.injected "not now")))] ∧
      s.transport.holds commandFilter = false ∧ s.transport.events = [] ∧
      s.handler.loops ≠ [] := by
  have hcomputed : (Run.steps? step? {} reconnectDuringClose).map (fun run =>
      (run.1.all (·.2.isOutside), run.1.all (fun p => !p.1.unsubscribes p.2), isUp run.1,
        run.2.handler.returns, run.2.transport.holds commandFilter, run.2.transport.events)) =
      some (true, true, true, [some (.error (.unsubscribe commandFilter (.injected "not now")))],
        false, []) := rfl
  obtain ⟨⟨steps, s⟩, hrun, hfacts⟩ := Option.map_eq_some_iff.mp hcomputed
  simp only [Prod.mk.injEq, List.all_eq_true, Bool.not_eq_true'] at hfacts
  obtain ⟨houtside, hfailed, hup, hreturns, hnot, hevents⟩ := hfacts
  have hkept := (resubscription_kept (Run.of_steps? hrun) houtside hfailed hup).2
  refine ⟨steps, s, Run.of_steps? hrun, houtside, hfailed, hup, hreturns, hnot, hevents, ?_⟩
  simpa [hnot, hevents] using hkept

end Station

end LoraBridge.Handler
