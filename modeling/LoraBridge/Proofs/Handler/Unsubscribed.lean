import LoraBridge.Handler.Station
import LoraBridge.Proofs.Handler.Loops
import LoraBridge.Proofs.Transport.Local

/-! # Who subscribes after all

  A handler on a local transport that is closed was told that its subscription has ended, has noted
  that, and has ended the session. All the same it may be subscribed, and may subscribe even later:
  a loop that had passed its look before the note goes on, and nobody waits for it.

  - `closed_subscribers`: there are no others. What is granted after the handler was told that it is
    unsubscribed is granted before the note, or to a loop that was past its look at the note.
  - `closed_and_subscribed`: a loop that subscribes when the handler is closed.
-/

namespace LoraBridge.Handler.Station

open Transport (Local)

variable {s s' : Station} {a : Action} {steps : List (Station × Action)} {call : Nat}

/-! ### The handler at a station -/

/-- Which step of the handler belongs to an action, and what becomes of the transport. -/
inductive Resolves (s : Station) : Action → Handler.Action → Local → Prop
  | dispatch {event : Transport.Event} {events : List Transport.Event}
    (hevents : s.transport.events = event :: events) :
    Resolves s .dispatch (.dispatch event) { s.transport with events }
  | subscribeReply (loop : Nat) {reply : Except Transport.Error Unit} {t : Local}
    (hreply : s.transport.subscribe commandFilter .exactlyOnce = (reply, t)) :
    Resolves s (.subscribeReply loop) (.subscribeReply loop reply) t
  | unsubscribeReply {reply : Except Transport.Error Unit} {t : Local}
    (hreply : s.transport.unsubscribe commandFilter = (reply, t)) :
    Resolves s .unsubscribeReply (.unsubscribeReply reply) t
  | stuck (hstuck : s.stuck = true) :
    Resolves s .disconnectReply (.disconnectReply (.error (.injected "stuck"))) s.transport
  | disconnectReply (hends : s.stuck = false) :
    Resolves s .disconnectReply (.disconnectReply (.ok ())) s.transport.disconnect
  | own {action : Handler.Action} (hown : isOwn action = true) :
    Resolves s (.own action) action s.transport

theorem resolve?_cases {b : Handler.Action} {t : Local} (h : s.resolve? a = some (b, t)) :
    s.Resolves a b t := by
  cases a with
  | script call => simp [resolve?] at h
  | dispatch =>
    simp only [resolve?] at h
    split at h
    · simp at h
    · next event events hevents =>
      obtain ⟨rfl, rfl⟩ := Prod.mk.inj (Option.some.inj h)
      exact .dispatch hevents
  | subscribeReply loop =>
    obtain ⟨rfl, rfl⟩ := Prod.mk.inj (Option.some.inj h)
    exact .subscribeReply loop rfl
  | unsubscribeReply =>
    obtain ⟨rfl, rfl⟩ := Prod.mk.inj (Option.some.inj h)
    exact .unsubscribeReply rfl
  | disconnectReply =>
    simp only [resolve?] at h
    split at h
    · next hstuck =>
      obtain ⟨rfl, rfl⟩ := Prod.mk.inj (Option.some.inj h)
      exact .stuck hstuck
    · next hends =>
      obtain ⟨rfl, rfl⟩ := Prod.mk.inj (Option.some.inj h)
      exact .disconnectReply (by simpa using hends)
  | own action =>
    simp only [resolve?] at h
    split at h
    · next hown =>
      obtain ⟨rfl, rfl⟩ := Prod.mk.inj (Option.some.inj h)
      exact .own hown
    · simp at h

/-- A step is one of the other side of the session, or one of the handler. -/
theorem step_cases (h : s.step? a = some s') :
    (∃ call, a = .script call ∧ s' = { s with transport := s.transport.apply call }) ∨
      ∃ b t, s.resolve? a = some (b, t) ∧ s.handler.step? b = some s'.handler ∧
        s'.transport = t := by
  have resolved (h : ((s.resolve? a).bind fun p => (s.handler.step? p.1).bind fun handler =>
      some { s with handler, transport := p.2 }) = some s') :
      ∃ b t, s.resolve? a = some (b, t) ∧ s.handler.step? b = some s'.handler ∧
        s'.transport = t := by
    simp only [Option.bind_eq_some_iff, Option.some.injEq] at h
    obtain ⟨⟨b, t⟩, hresolve, handler, hstep, rfl⟩ := h
    exact ⟨b, t, hresolve, hstep, rfl⟩
  cases a with
  | script call => exact .inl ⟨call, rfl, (Option.some.inj h).symm⟩
  | _ => exact .inr (resolved h)

/-- The steps of the handler among those of the station. -/
def inner (steps : List (Station × Action)) : List (State × Handler.Action) :=
  steps.filterMap fun p => (p.1.resolve? p.2).map fun q => (p.1.handler, q.1)

theorem inner_append (steps more : List (Station × Action)) :
    inner (steps ++ more) = inner steps ++ inner more :=
  List.filterMap_append

/-- A handler at a station runs as handlers do. -/
theorem run_inner (h : Run step? s steps s') :
    Run State.step? s.handler (inner steps) s'.handler := by
  induction h with
  | refl => exact .refl
  | @step steps r a s' _ now ih =>
    rw [inner_append]
    rcases step_cases now with ⟨call, rfl, rfl⟩ | ⟨b, t, hresolve, hstep, -⟩
    · simpa [inner, resolve?] using ih
    · have hone : inner [(r, a)] = [(r.handler, b)] := by simp [inner, hresolve]
      rw [hone]
      exact .step ih hstep

/-! ### What the handler is told -/

/-- The handler is told that it is unsubscribed when the transport has unsubscribed. -/
theorem Resolves.eq_unsubscribeReply {t : Local} (h : s.Resolves a (.unsubscribeReply (.ok ())) t) :
    a = .unsubscribeReply ∧ s.transport.unsubscribeFailure? = none := by
  cases h with
  | unsubscribeReply hreply =>
    refine ⟨rfl, ?_⟩
    cases hfailure : s.transport.unsubscribeFailure? with
    | none => rfl
    | some reason => simp [Local.unsubscribe, hfailure] at hreply
  | own hown => simp [isOwn] at hown

theorem Resolves.eq_mark {t : Local} (h : s.Resolves a .mark t) : a = .own .mark := by
  cases h with
  | own hown => rfl

/-- What has been done about the subscription so far: a call that is about to note that the handler
    has unsubscribed has been told so, and whatever was noted was noted after that. -/
structure Told (steps : List (Station × Action)) (s : Station) : Prop where
  marking : ∀ call, s.handler.closing? = some (call, .marking) →
    ∃ pre mid r, steps = pre ++ (r, .unsubscribeReply) :: mid ∧
      r.transport.unsubscribeFailure? = none
  marked : s.handler.unsubscribed = true →
    ∃ pre mid post r u, steps = pre ++ (r, .unsubscribeReply) :: (mid ++ (u, .own .mark) :: post) ∧
      r.transport.unsubscribeFailure? = none

theorem told_of_run (h : Run step? {} steps s) : Told steps s := by
  induction h with
  | refl => exact ⟨by simp, by simp⟩
  | @step steps r a s _ now ih =>
    -- what has been done stays so
    have marking (call : Nat) (h : r.handler.closing? = some (call, .marking)) :
        ∃ pre mid q, steps ++ [(r, a)] = pre ++ (q, .unsubscribeReply) :: mid ∧
          q.transport.unsubscribeFailure? = none := by
      obtain ⟨pre, mid, q, rfl, hworks⟩ := ih.marking call h
      exact ⟨pre, mid ++ [(r, a)], q, by simp, hworks⟩
    have marked (h : r.handler.unsubscribed = true) : ∃ pre mid post q u, steps ++ [(r, a)] =
        pre ++ (q, .unsubscribeReply) :: (mid ++ (u, .own .mark) :: post) ∧
          q.transport.unsubscribeFailure? = none := by
      obtain ⟨pre, mid, post, q, u, rfl, hworks⟩ := ih.marked h
      exact ⟨pre, mid, post ++ [(r, a)], q, u, by simp, hworks⟩
    rcases step_cases now with ⟨call, rfl, rfl⟩ | ⟨b, t, hresolve, hstep, -⟩
    · exact ⟨marking, marked⟩
    · have hcase := State.step_cases hstep
      constructor
      · intro call hmarking
        rcases hcase.marking hmarking with hbefore | rfl
        · exact marking call hbefore
        · obtain ⟨rfl, hworks⟩ := (resolve?_cases hresolve).eq_unsubscribeReply
          exact ⟨steps, [], r, rfl, hworks⟩
      · intro hunsubscribed
        cases hbefore : r.handler.unsubscribed with
        | true => exact marked hbefore
        | false =>
          obtain ⟨rfl, call, hmarking⟩ := hcase.eq_mark hbefore hunsubscribed
          obtain rfl := (resolve?_cases hresolve).eq_mark
          obtain ⟨pre, mid, q, rfl, hworks⟩ := ih.marking call hmarking
          exact ⟨pre, mid, [], q, r, by simp, hworks⟩

/-! ### What is granted -/

/-- Whether a step subscribes to the command topic successfully. -/
def grants (s : Station) : Action → Bool
  | .subscribeReply _ => s.transport.failingSubscribes = 0
  | .script (.subscribe filter _) =>
    filter = commandFilter && s.transport.failingSubscribes = 0
  | _ => false

/-- The command topic is subscribed to by steps that grant it. -/
theorem grants_of_holds (h : s.step? a = some s')
    (hholds : s'.transport.holds commandFilter = true) :
    s.transport.holds commandFilter = true ∨ s.grants a = true := by
  rcases step_cases h with ⟨call, rfl, rfl⟩ | ⟨b, t, hresolve, -, ht⟩
  · rcases s.transport.holds_apply hholds with hbefore | ⟨qos, rfl, hzero⟩
    · exact .inl hbefore
    · exact .inr (by simp [grants, hzero])
  · rw [ht] at hholds
    cases resolve?_cases hresolve with
    | subscribeReply loop hreply =>
      rcases s.transport.holds_subscribe (by rwa [hreply]) with hbefore | ⟨-, hzero⟩
      · exact .inl hbefore
      · exact .inr (by simp [grants, hzero])
    | unsubscribeReply hreply =>
      exact .inl (s.transport.holds_unsubscribe (by rwa [hreply]))
    | _ => exact .inl hholds

theorem grants_of_run (h : Run step? s steps s')
    (hholds : s'.transport.holds commandFilter = true) :
    s.transport.holds commandFilter = true ∨ ∃ q b, (q, b) ∈ steps ∧ q.grants b = true := by
  induction h with
  | refl => exact .inl hholds
  | @step steps r a s' _ now ih =>
    rcases grants_of_holds now hholds with hbefore | hgrants
    · rcases ih hbefore with hstart | ⟨q, b, hmem, hgrants⟩
      · exact .inl hstart
      · exact .inr ⟨q, b, List.mem_append_left _ hmem, hgrants⟩
    · exact .inr ⟨r, a, List.mem_append_right _ (List.mem_singleton_self _), hgrants⟩

/-- When the transport has unsubscribed, the command topic is not subscribed to. -/
theorem not_holds_of_unsubscribeReply (h : s.step? .unsubscribeReply = some s')
    (hworks : s.transport.unsubscribeFailure? = none) :
    s'.transport.holds commandFilter = false := by
  rcases step_cases h with ⟨call, hscript, -⟩ | ⟨b, t, hresolve, -, rfl⟩
  · simp at hscript
  · cases resolve?_cases hresolve with
    | unsubscribeReply hreply =>
      have hended : (s.transport.unsubscribe commandFilter).2.holds commandFilter = false :=
        s.transport.not_holds_unsubscribe hworks
      rwa [hreply] at hended

/-! ### Handlers that are closed -/

theorem unsubscribed_of_mark (h : s.step? (.own .mark) = some s') :
    s'.handler.unsubscribed = true := by
  rcases step_cases h with ⟨call, hscript, -⟩ | ⟨b, t, hresolve, hstep, -⟩
  · simp at hscript
  · obtain ⟨rfl, -⟩ := Prod.mk.inj (Option.some.inj hresolve)
    generalize s'.handler = handler at hstep ⊢
    cases State.step_cases hstep with
    | mark hclosing => rfl

/-- A note changes nothing about the loops. -/
theorem loops_of_mark (h : s.step? (.own .mark) = some s') : s'.handler.loops = s.handler.loops := by
  rcases step_cases h with ⟨call, hscript, -⟩ | ⟨b, t, hresolve, hstep, -⟩
  · simp at hscript
  · obtain ⟨rfl, -⟩ := Prod.mk.inj (Option.some.inj hresolve)
    generalize s'.handler = handler at hstep ⊢
    cases State.step_cases hstep with
    | mark hclosing => rfl

/-- When a call has closed the handler, the transport had unsubscribed, and after that it was noted.
    From the note on no loop asks to subscribe but those that were about to, each of them once,
    and no loop is answered but these and those that waited for their answer. If the command topic
    is subscribed to, that was granted between the two or after the note. -/
theorem closed_subscribers (h : Run step? {} steps s)
    (hreturned : s.handler.returns[call]? = some (some (.ok ()))) :
    ∃ pre mid post r u,
      steps = pre ++ (r, .unsubscribeReply) :: (mid ++ (u, .own .mark) :: post) ∧
      r.transport.unsubscribeFailure? = none ∧
      (subscribing (inner post) ++ s.handler.calling).Perm u.handler.calling ∧
      (answered (inner post) ++ s.handler.attempting).Perm u.handler.attempting ∧
      (s.transport.holds commandFilter = true →
        ∃ q b, ((q, b) ∈ mid ∨ (q, b) ∈ post) ∧ q.grants b = true) := by
  have hunsubscribed := unsubscribed_of_returned (run_inner h) hreturned
  obtain ⟨pre, mid, post, r, u, rfl, hworks⟩ := (told_of_run h).marked hunsubscribed
  obtain ⟨hpre, v, htold, hrest⟩ := h.split_at
  obtain ⟨hmid, w, hmark, hpost⟩ := hrest.split_at
  -- the note changes nothing about the loops, and after it those past their look become fewer
  have hloops := loops_of_mark hmark
  have hnumbered : w.handler.LoopsNumbered := loopsNumbered_of_run
    (run_inner (((hpre.append (.single htold)).append hmid).append (.single hmark)))
  obtain ⟨hcalling, hattempting⟩ :=
    dwindle_of_run (run_inner hpost) hnumbered (unsubscribed_of_mark hmark)
  refine ⟨pre, mid, post, r, u, rfl, hworks, ?_, ?_, ?_⟩
  · rwa [State.calling, State.calling, hloops] at hcalling
  · rwa [State.attempting, State.attempting, hloops] at hattempting
  · -- the command topic was not subscribed to when the handler was told so
    intro hholds
    rcases grants_of_run hpost hholds with hmarked | ⟨q, b, hmem, hgrants⟩
    · rcases grants_of_holds hmark hmarked with hbefore | hgrants
      · rcases grants_of_run hmid hbefore with hstart | ⟨q, b, hmem, hgrants⟩
        · simp [not_holds_of_unsubscribeReply htold hworks] at hstart
        · exact ⟨q, b, .inl hmem, hgrants⟩
      · simp [grants] at hgrants
    · exact ⟨q, b, .inr hmem, hgrants⟩

/-- The session comes up, and its loop passes its look. Then a call closes the handler. -/
def closeDuringAttempt : List Action :=
  [.script .connect, .dispatch, .own (.check 0), .own .close, .own .enter, .unsubscribeReply,
    .own .mark, .own .detach, .own .drained, .disconnectReply]

theorem closed_subscribers_duringAttempt :
    ∃ steps s, Run step? {} steps s ∧ s.handler.returns[0]? = some (some (.ok ())) ∧
      s.handler.calling = [0] ∧
      ∃ pre mid post r u,
        steps = pre ++ (r, .unsubscribeReply) :: (mid ++ (u, .own .mark) :: post) ∧
        (subscribing (inner post) ++ s.handler.calling).Perm u.handler.calling := by
  have hcomputed : (Run.steps? step? {} closeDuringAttempt).map (fun run =>
      (run.2.handler.returns[0]?, run.2.handler.calling)) =
      some (some (some (.ok ())), [0]) := rfl
  obtain ⟨⟨steps, s⟩, hrun, hfacts⟩ := Option.map_eq_some_iff.mp hcomputed
  simp only [Prod.mk.injEq] at hfacts
  obtain ⟨hreturned, hcalling⟩ := hfacts
  obtain ⟨pre, mid, post, r, u, hsteps, -, hcalls, -, -⟩ :=
    closed_subscribers (Run.of_steps? hrun) hreturned
  exact ⟨steps, s, Run.of_steps? hrun, hreturned, hcalling, pre, mid, post, r, u, hsteps, hcalls⟩

/-- A closed handler may subscribe: the call has returned without an error, the transport has
    unsubscribed and holds nothing, and then the loop asks, and the command topic is subscribed to
    ever after. -/
theorem closed_and_subscribed :
    ∃ steps s r, Run step? {} steps s ∧ steps[10]? = some (r, .own (.subscribe 0)) ∧
      r.handler.returns = [some (.ok ())] ∧ r.transport.holds commandFilter = false ∧
      s.transport.holds commandFilter = true := by
  have hcomputed : (Run.steps? step? {}
      (closeDuringAttempt ++ [.own (.subscribe 0), .subscribeReply 0])).map (fun run =>
        (run.1[10]?.map fun p => (p.2, p.1.handler.returns, p.1.transport.holds commandFilter),
          run.2.transport.holds commandFilter)) =
      some (some (.own (.subscribe 0), [some (.ok ())], false), true) := rfl
  obtain ⟨⟨steps, s⟩, hrun, hfacts⟩ := Option.map_eq_some_iff.mp hcomputed
  simp only [Prod.mk.injEq, Option.map_eq_some_iff] at hfacts
  obtain ⟨⟨⟨r, a⟩, hstep, rfl, hreturns, hbefore⟩, hafter⟩ := hfacts
  exact ⟨steps, s, r, Run.of_steps? hrun, hstep, hreturns, hbefore, hafter⟩

end LoraBridge.Handler.Station
