import LoraBridge.Proofs.Handler.Calls
import LoraBridge.Proofs.Handler.Unsubscribed

/-! # Runs without the calls that have failed

  A call that closes the handler and fails has waited for its turn, has asked the transport to
  unsubscribe, and has been refused. `Station.without` is a station that some calls have never been
  made at, and `Station.erase` takes their steps out of a run; calls are numbered in the order in
  which they are made, so the others get new numbers.

  - `State.Step.skip`: the steps of a call that fails make no difference to the rest.
  - `State.Step.follow`: all other steps are possible without it, and do the same.
  - `Station.run_erase`: so what is left of a run is a run.
  - `Station.failed_closes_erased`: it has the same record and the same events, and all calls that
    are left return the same.
-/

namespace LoraBridge.Handler

/-! ### Numbers that are left -/

/-- The elements of a list that are not in a place that is gone. -/
def keep {α : Type} (gone : Nat → Bool) : List α → List α
  | [] => []
  | x :: xs =>
    if gone 0 then keep (fun i => gone (i + 1)) xs else x :: keep (fun i => gone (i + 1)) xs

/-- How many places before a place are not gone. -/
def rank (gone : Nat → Bool) : Nat → Nat
  | 0 => 0
  | n + 1 => if gone 0 then rank (fun i => gone (i + 1)) n else rank (fun i => gone (i + 1)) n + 1

section Keep

variable {α : Type} {gone : Nat → Bool} {n : Nat}

theorem length_keep (gone : Nat → Bool) (xs : List α) :
    (keep gone xs).length = rank gone xs.length := by
  induction xs generalizing gone with
  | nil => rfl
  | cons x xs ih =>
    cases h : gone 0 <;> simp [keep, rank, h, ih]

/-- What is not gone is found by its new number. -/
theorem getElem?_keep (xs : List α) (hn : gone n = false) :
    (keep gone xs)[rank gone n]? = xs[n]? := by
  induction xs generalizing gone n with
  | nil => simp [keep]
  | cons x xs ih =>
    cases n with
    | zero => simp [keep, rank, hn]
    | succ n =>
      -- in the rest of the list every place is one lower
      have hrest := @ih (fun i => gone (i + 1)) n hn
      cases h : gone 0 <;> simp [keep, rank, h, hrest]

/-- A change to what is gone is not seen. -/
theorem keep_set_of_gone (xs : List α) (x : α) (hn : gone n = true) :
    keep gone (xs.set n x) = keep gone xs := by
  induction xs generalizing gone n with
  | nil => rfl
  | cons y ys ih =>
    cases n with
    | zero => simp [keep, hn]
    | succ n =>
      have hrest := @ih (fun i => gone (i + 1)) n hn
      cases h : gone 0 <;> simp [keep, h, hrest]

theorem keep_set (xs : List α) (x : α) (hn : gone n = false) :
    keep gone (xs.set n x) = (keep gone xs).set (rank gone n) x := by
  induction xs generalizing gone n with
  | nil => rfl
  | cons y ys ih =>
    cases n with
    | zero => simp [keep, rank, hn]
    | succ n =>
      have hrest := @ih (fun i => gone (i + 1)) n hn
      cases h : gone 0 <;> simp [keep, rank, h, hrest]

theorem keep_concat (gone : Nat → Bool) (xs : List α) (x : α) :
    keep gone (xs ++ [x]) = keep gone xs ++ if gone xs.length then [] else [x] := by
  induction xs generalizing gone with
  | nil => simp [keep]
  | cons y ys ih => cases h : gone 0 <;> simp [keep, h, ih]

end Keep

/-! ### Handlers without some calls -/

variable {s s' : State} {a : Action} {es : List Entry} {call : Nat} {gone : Nat → Bool}

/-- The calls in waiting that are left, by their new numbers. -/
def turnsWithout (gone : Nat → Bool) (turns : List Nat) : List Nat :=
  (turns.filter fun call => !gone call).map (rank gone)

/-- The call whose turn it is, by its new number, unless it is gone. -/
def closingWithout? (gone : Nat → Bool) : Option (Nat × Closing) → Option (Nat × Closing)
  | some (call, closing) => if gone call then none else some (rank gone call, closing)
  | none => none

/-- The handler if some calls had never been made. -/
def State.without (s : State) (gone : Nat → Bool) : State :=
  { s with returns := keep gone s.returns, turns := turnsWithout gone s.turns,
           closing? := closingWithout? gone s.closing? }

theorem closingWithout?_of_kept {closing : Closing} (h : gone call = false) :
    closingWithout? gone (some (call, closing)) = some (rank gone call, closing) := by
  simp [closingWithout?, h]

theorem turnsWithout_cons_of_kept {turns : List Nat} (h : gone call = false) :
    turnsWithout gone (call :: turns) = rank gone call :: turnsWithout gone turns := by
  simp [turnsWithout, h]

/-- The handler after a call has returned, without some others. -/
theorem State.without_finish (s : State) {result : Except Error Unit} (h : gone call = false) :
    (s.finish call result).without gone = (s.without gone).finish (rank gone call) result := by
  simp [State.finish, State.without, keep_set _ _ h, closingWithout?]

/-- Nothing is written down about calls. -/
theorem State.entries_without (s : State) (gone : Nat → Bool) (a : Action) :
    (s.without gone).entries a = s.entries a := by
  cases a <;> rfl

/-- A call that comes to nothing is made, gets its turn, and is refused. None of these steps changes
    anything but what is known of the calls. -/
theorem State.Step.skip (h : s.Step a es s') (hbefore : s.Doomed gone) (hafter : s'.Doomed gone)
    (hs : s.InTurn) (hcaller : s.caller? a = some call) (hgone : gone call = true) :
    es = [] ∧ (a = .close ∨ a = .enter ∨ ∃ e, a = .unsubscribeReply (.error e)) ∧
      s'.without gone = s.without gone ∧
      s' = { s with returns := s'.returns, turns := s'.turns, closing? := s'.closing? } := by
  -- the later phases are not for such a call
  have early {closing : Closing} (hclosing : s.closing? = some (call, closing)) :
      closing = .unsubscribing := hbefore.closing call closing hgone hclosing
  cases h with
  | close =>
    obtain rfl := Option.some.inj hcaller
    refine ⟨rfl, .inl rfl, ?_, rfl⟩
    simp [State.without, keep_concat, turnsWithout, hgone]
  | @enter other turns hfree hturns hopen =>
    obtain rfl : other = call := by simpa [State.caller?, hturns] using hcaller
    refine ⟨rfl, .inr (.inl rfl), ?_, rfl⟩
    simp [State.without, turnsWithout, closingWithout?, hfree, hturns, hgone]
  | @enterClosed other turns hfree hturns hclosed =>
    obtain rfl : other = call := by simpa [State.caller?, hturns] using hcaller
    -- it would return that the handler is closed
    have hwaits : s.returns[other]? = some none := hs.waiting other (by simp [hturns])
    refine absurd ?_ (hafter.returns other hgone)
    show (s.returns.set other _)[other]? = _
    rw [List.getElem?_set_self (List.getElem?_eq_some_iff.mp hwaits).1]
  | @notUnsubscribed other e hclosing =>
    obtain rfl : other = call := by simpa [State.caller?, hclosing] using hcaller
    refine ⟨rfl, .inr (.inr ⟨e, rfl⟩), ?_, rfl⟩
    simp [State.finish, State.without, keep_set_of_gone _ _ hgone, closingWithout?, hclosing, hgone]
  | @unsubscribed other hclosing =>
    obtain rfl : other = call := by simpa [State.caller?, hclosing] using hcaller
    have hnext := hafter.closing other .marking hgone rfl
    simp at hnext
  | @mark other hclosing | @detach other hclosing | @drained other hclosing
  | @disconnected other reply hclosing =>
    obtain rfl : other = call := by simpa [State.caller?, hclosing] using hcaller
    have hphase := early hclosing
    simp at hphase
  | _ => simp [State.caller?] at hcaller

/-- Every step that does not belong to one of the calls is possible without them, and does the
    same. -/
theorem State.Step.follow (h : s.Step a es s')
    (hkept : ∀ call, s.caller? a = some call → gone call = false) :
    (s.without gone).Step a es (s'.without gone) := by
  -- the call whose turn it is still has its turn
  have turn {other : Nat} {closing : Closing} (hclosing : s.closing? = some (other, closing))
      (hother : gone other = false) :
      (s.without gone).closing? = some (rank gone other, closing) := by
    simp only [State.without, hclosing, closingWithout?_of_kept hother]
  have free (hfree : s.closing? = none) : (s.without gone).closing? = none := by
    simp only [State.without, hfree, closingWithout?]
  have next {other : Nat} {turns : List Nat} (hturns : s.turns = other :: turns)
      (hother : gone other = false) :
      (s.without gone).turns = rank gone other :: turnsWithout gone turns := by
    simp only [State.without, hturns, turnsWithout_cons_of_kept hother]
  -- the other parts do not look at the calls, and every step of a call is that of its new number
  cases h with
  | accept topic payload hopen => exact .accept topic payload hopen
  | drop topic payload hshut => exact .drop topic payload hshut
  | connected => exact .connected
  | lost reason => exact .lost reason
  | reject htask hphase hjudge => exact .reject htask hphase hjudge
  | ask htask hphase hjudge => exact .ask htask hphase hjudge
  | refuse htask hphase hanswer => exact .refuse htask hphase hanswer
  | acquire htask hphase => exact .acquire htask hphase
  | queueUp htask hphase => exact .queueUp htask hphase
  | forward hline hreceiver hroom => exact .forward hline hreceiver hroom
  | discard hline hreceiver => exact .discard hline hreceiver
  | receive hqueue hreceiver => exact .receive hqueue hreceiver
  | dropReceiver hreceiver => exact .dropReceiver hreceiver
  | giveUp hloop hphase hnoted => exact .giveUp hloop hphase hnoted
  | goOn hloop hphase hnoted => exact .goOn hloop hphase hnoted
  | subscribe hloop hphase => exact .subscribe hloop hphase
  | subscribed hloop hphase => exact .subscribed hloop hphase
  | notSubscribed hloop hphase => exact .notSubscribed hloop hphase
  | wake hloop hphase => exact .wake hloop hphase
  | close =>
    have hnew : gone s.returns.length = false := hkept _ rfl
    have heq : State.without { s with returns := s.returns ++ [none],
                                      turns := s.turns ++ [s.returns.length] } gone =
        { s.without gone with
          returns := (s.without gone).returns ++ [none],
          turns := (s.without gone).turns ++ [(s.without gone).returns.length] } := by
      simp [State.without, keep_concat, turnsWithout, hnew, length_keep]
    rw [heq]
    exact .close
  | @enterClosed other turns hfree hturns hclosed =>
    have hother : gone other = false := hkept other (by simp [State.caller?, hturns])
    rw [State.without_finish _ hother]
    exact .enterClosed (free hfree) (next hturns hother) hclosed
  | @enter other turns hfree hturns hopen =>
    have hother : gone other = false := hkept other (by simp [State.caller?, hturns])
    have heq : State.without { s with turns, closing? := some (other, .unsubscribing) } gone =
        { s.without gone with turns := turnsWithout gone turns,
                              closing? := some (rank gone other, .unsubscribing) } := by
      simp [State.without, closingWithout?_of_kept hother]
    rw [heq]
    exact .enter (free hfree) (next hturns hother) hopen
  | @unsubscribed other hclosing =>
    have hother : gone other = false := hkept other (by simp [State.caller?, hclosing])
    have hstep := State.Step.unsubscribed (turn hclosing hother)
    simpa [State.without, closingWithout?_of_kept hother] using hstep
  | @notUnsubscribed other e hclosing =>
    have hother : gone other = false := hkept other (by simp [State.caller?, hclosing])
    rw [State.without_finish _ hother]
    exact .notUnsubscribed (turn hclosing hother)
  | @mark other hclosing =>
    have hother : gone other = false := hkept other (by simp [State.caller?, hclosing])
    have hstep := State.Step.mark (turn hclosing hother)
    simpa [State.without, closingWithout?_of_kept hother] using hstep
  | @detach other hclosing =>
    have hother : gone other = false := hkept other (by simp [State.caller?, hclosing])
    have hstep := State.Step.detach (turn hclosing hother)
    simpa [State.without, closingWithout?_of_kept hother] using hstep
  | @drained other hclosing hdone =>
    have hother : gone other = false := hkept other (by simp [State.caller?, hclosing])
    have hstep := State.Step.drained (turn hclosing hother) hdone
    simpa [State.without, closingWithout?_of_kept hother] using hstep
  | @disconnected other reply hclosing =>
    have hother : gone other = false := hkept other (by simp [State.caller?, hclosing])
    rw [State.without_finish _ hother]
    exact .disconnected (turn hclosing hother)

/-! ### Stations without some calls -/

namespace Station

open Transport (Event Local)

variable {s s' : Station} {a : Action} {steps : List (Station × Action)}

/-- The call that an action belongs to, if it belongs to one. -/
def caller? (s : Station) (a : Action) : Option Nat :=
  (s.resolve? a).bind fun p => s.handler.caller? p.1

/-- The station if some calls had never been made. -/
def without (s : Station) (gone : Nat → Bool) : Station :=
  { s with handler := s.handler.without gone }

/-- The steps of a run that do not belong to some calls, at the station without them. -/
def erase (gone : Nat → Bool) (steps : List (Station × Action)) : List (Station × Action) :=
  (steps.filter fun p => !(p.1.caller? p.2).any gone).map fun p => (p.1.without gone, p.2)

/-- The event that the dispatcher takes with an action, if it takes one. -/
def dispatched? (s : Station) : Action → Option Event
  | .dispatch => s.transport.events.head?
  | _ => none

/-- The events that the dispatcher has taken, in order. -/
def dispatched (steps : List (Station × Action)) : List Event :=
  steps.filterMap fun p => p.1.dispatched? p.2

/-- An action that belongs to a step of the handler is possible if that is. -/
theorem step?_of_resolve {b : Handler.Action} {t : Local} {handler : State}
    (hresolve : s.resolve? a = some (b, t)) (hstep : s.handler.step? b = some handler) :
    s.step? a = some { s with handler, transport := t } := by
  cases a with
  | script call => simp [resolve?] at hresolve
  | _ => simp [step?, hresolve, hstep]

/-- Calls are nothing to the transport. -/
theorem resolve?_without (s : Station) (gone : Nat → Bool) (a : Action) :
    (s.without gone).resolve? a = s.resolve? a := by
  cases a <;> rfl

/-- The transport is only asked to unsubscribe by a call that fails, and refuses. -/
theorem Resolves.transport_eq {b : Handler.Action} {t : Local} (h : s.Resolves a b t)
    (hfails : b = .close ∨ b = .enter ∨ ∃ e, b = .unsubscribeReply (.error e)) :
    t = s.transport ∧ s.dispatched? a = none := by
  cases h with
  | unsubscribeReply hreply =>
    obtain ⟨e, he⟩ : ∃ e, Handler.Action.unsubscribeReply _ = .unsubscribeReply (.error e) := by
      simpa using hfails
    obtain rfl := Handler.Action.unsubscribeReply.inj he
    exact ⟨s.transport.eq_of_unsubscribe_error hreply, rfl⟩
  | own hown => exact ⟨rfl, rfl⟩
  | _ => simp at hfails

/-- What is written down of a step of the handler. -/
theorem record_inner_single {b : Handler.Action} {t : Local} (hresolve : s.resolve? a = some (b, t)) :
    record (inner [(s, a)]) = s.handler.entries b := by
  simp [inner, hresolve]

/-- What comes to nothing in the end has not come to anything before. -/
theorem doomed_of_run {more : List (Station × Action)} (h : Run step? s more s')
    (hs : s.handler.InTurn) (hafter : s'.handler.Doomed gone) : s.handler.Doomed gone := by
  -- from the end of the run to its beginning
  induction h with
  | refl => exact hafter
  | @step more r a s' hbefore now ih =>
    have hturn : r.handler.InTurn := (run_inner hbefore).invariant hs
      fun hs now => (State.step_cases now).inTurn hs
    apply ih
    rcases step_cases now with ⟨call, -, rfl⟩ | ⟨b, t, -, hstep, -⟩
    · exact hafter
    · exact (State.step_cases hstep).doomed hturn hafter

/-- The steps of a call that fails change nothing but what is known of the calls. -/
theorem skip (now : s.step? a = some s') (hs : s.handler.InTurn)
    (hbefore : s.handler.Doomed gone) (hafter : s'.handler.Doomed gone)
    (hcaller : s.caller? a = some call) (hgone : gone call = true) :
    record (inner [(s, a)]) = [] ∧ s.dispatched? a = none ∧
      s'.without gone = s.without gone ∧
      s' = { s with handler := { s.handler with
        returns := s'.handler.returns, turns := s'.handler.turns,
        closing? := s'.handler.closing? } } := by
  rcases step_cases now with ⟨other, rfl, -⟩ | ⟨b, t, hresolve, hstep, -⟩
  · simp [caller?, resolve?] at hcaller
  · have hbelongs : s.handler.caller? b = some call := by simpa [caller?, hresolve] using hcaller
    obtain ⟨hnone, hkind, hsame, honly⟩ :=
      (State.step_cases hstep).skip hbefore hafter hs hbelongs hgone
    obtain ⟨rfl, hnotaken⟩ := (resolve?_cases hresolve).transport_eq hkind
    have hafter' := Option.some.inj (now.symm.trans (step?_of_resolve hresolve hstep))
    obtain ⟨handler', t', stuck'⟩ := s'
    obtain ⟨-, rfl, rfl⟩ := Station.mk.inj hafter'
    refine ⟨?_, hnotaken, ?_, ?_⟩
    · rw [record_inner_single hresolve, hnone]
    · simp only [without, hsame]
    · exact congrArg (fun handler => { s with handler }) honly

/-- All other steps are possible without the call, and do the same. -/
theorem follow (now : s.step? a = some s')
    (hkept : ∀ call, s.caller? a = some call → gone call = false) :
    (s.without gone).step? a = some (s'.without gone) ∧
      record (inner [(s.without gone, a)]) = record (inner [(s, a)]) := by
  rcases step_cases now with ⟨call, rfl, rfl⟩ | ⟨b, t, hresolve, hstep, -⟩
  · exact ⟨rfl, rfl⟩
  · have hhandler := (State.step_cases hstep).follow
      fun call hcall => hkept call (by simpa [caller?, hresolve] using hcall)
    have hresolve' : (s.without gone).resolve? a = some (b, t) := by
      rw [resolve?_without, hresolve]
    have hafter := Option.some.inj (now.symm.trans (step?_of_resolve hresolve hstep))
    obtain ⟨handler', t', stuck'⟩ := s'
    obtain ⟨-, rfl, rfl⟩ := Station.mk.inj hafter
    refine ⟨step?_of_resolve hresolve' hhandler.possible, ?_⟩
    rw [record_inner_single hresolve', record_inner_single hresolve]
    exact s.handler.entries_without gone b

theorem erase_append (gone : Nat → Bool) (steps more : List (Station × Action)) :
    erase gone (steps ++ more) = erase gone steps ++ erase gone more := by
  simp [erase]

theorem dispatched_append (steps more : List (Station × Action)) :
    dispatched (steps ++ more) = dispatched steps ++ dispatched more :=
  List.filterMap_append

/-- What is left of a run is a run, and does the same. -/
theorem run_erase (h : Run step? {} steps s) (hdoomed : s.handler.Doomed gone) :
    Run step? {} (erase gone steps) (s.without gone) ∧
      record (inner (erase gone steps)) = record (inner steps) ∧
      dispatched (erase gone steps) = dispatched steps := by
  induction h with
  | refl => exact ⟨.refl, rfl, rfl⟩
  | @step steps r a s hbefore now ih =>
    have hturn : r.handler.InTurn := inTurn_of_run (run_inner hbefore)
    have hdoomed' : r.handler.Doomed gone := doomed_of_run (.single now) hturn hdoomed
    obtain ⟨hrun, hrecord, hdispatched⟩ := ih hdoomed'
    rw [erase_append, inner_append, inner_append, record_append, record_append, dispatched_append,
      dispatched_append, hrecord, hdispatched]
    -- the last step is left out, or taken without the calls
    cases hgone : (r.caller? a).any gone with
    | true =>
      obtain ⟨call, hcaller, hcall⟩ : ∃ call, r.caller? a = some call ∧ gone call = true := by
        simpa [Option.any_eq_true] using hgone
      obtain ⟨hnone, hnotaken, hsame, -⟩ := skip now hturn hdoomed' hdoomed hcaller hcall
      have herased : erase gone [(r, a)] = [] := by simp [erase, hgone]
      rw [herased, hsame, hnone]
      refine ⟨by simpa using hrun, rfl, ?_⟩
      simp [dispatched, hnotaken]
    | false =>
      have hkept : ∀ call, r.caller? a = some call → gone call = false := by
        intro call hcaller
        simpa [hcaller] using hgone
      obtain ⟨hstep, hsame⟩ := follow now hkept
      have hleft : erase gone [(r, a)] = [(r.without gone, a)] := by simp [erase, hgone]
      rw [hleft, hsame]
      refine ⟨.step hrun hstep, rfl, ?_⟩
      cases a <;> rfl

/-- Whatever calls have failed, none of their steps has changed anything but what is known of the
    calls. Without them the run has the same record, the dispatcher takes the same events, and in the
    end the queue and the transport are the same; and every other call returns the same. -/
theorem failed_closes_erased (h : Run step? {} steps s)
    (hfailed : ∀ call, gone call = true → ∃ e, s.handler.returns[call]? = some (some (.error e))) :
    (∀ r a call, (r, a) ∈ steps → r.caller? a = some call → gone call = true →
      ∃ r', r.step? a = some r' ∧ r' = { r with handler := { r.handler with
        returns := r'.handler.returns, turns := r'.handler.turns,
        closing? := r'.handler.closing? } }) ∧
      Run step? {} (erase gone steps) (s.without gone) ∧
      record (inner (erase gone steps)) = record (inner steps) ∧
      dispatched (erase gone steps) = dispatched steps ∧
      (s.without gone).handler.queue = s.handler.queue ∧
      (s.without gone).transport = s.transport ∧
      ∀ call, gone call = false →
        (s.without gone).handler.returns[rank gone call]? = s.handler.returns[call]? := by
  have hdoomed : s.handler.Doomed gone := (inTurn_of_run (run_inner h)).doomed hfailed
  obtain ⟨hrun, hrecord, hdispatched⟩ := run_erase h hdoomed
  refine ⟨?_, hrun, hrecord, hdispatched, rfl, rfl, fun call hcall => getElem?_keep _ hcall⟩
  intro r a call hmem hcaller hgone
  obtain ⟨pre, post, rfl⟩ := List.append_of_mem hmem
  obtain ⟨hpre, r', now, hpost⟩ := h.split_at
  have hturn : r.handler.InTurn := inTurn_of_run (run_inner hpre)
  have hturn' : r'.handler.InTurn := inTurn_of_run (run_inner (hpre.append (.single now)))
  have hafter : r'.handler.Doomed gone := doomed_of_run hpost hturn' hdoomed
  have hbefore : r.handler.Doomed gone := doomed_of_run (.single now) hturn hafter
  exact ⟨r', now, (skip now hturn hbefore hafter hcaller hgone).2.2.2⟩

/-- Two calls close the handler. The transport refuses the first one, and while it does so a message
    arrives that is no command; the second one closes it. -/
def refusedThenClosed : List Action :=
  [.script .connect, .dispatch, .own (.check 0), .own (.subscribe 0), .subscribeReply 0,
    .script (.failUnsubscribes (some "not now")), .own .close, .own .close, .own .enter,
    .script (.deliver "application/a/node/b/tx" []), .dispatch, .unsubscribeReply, .own (.judge 0),
    .script (.failUnsubscribes none), .own .enter, .unsubscribeReply, .own .mark, .own .detach,
    .own .drained, .disconnectReply]

theorem failed_closes_erased_refusedThenClosed :
    ∃ steps s, Run step? {} steps s ∧
      s.handler.returns =
        [some (.error (.unsubscribe commandFilter (.injected "not now"))), some (.ok ())] ∧
      (erase (· = 0) steps).length + 3 = steps.length ∧
      Run step? {} (erase (· = 0) steps) (s.without (· = 0)) ∧
      record (inner (erase (· = 0) steps)) =
        [.accepted 0 "application/a/node/b/tx" [], .rejected 0] ∧
      (s.without (· = 0)).handler.returns[0]? = some (some (.ok ())) := by
  have hcomputed : (Run.steps? step? {} refusedThenClosed).map (fun run =>
      (run.2.handler.returns, run.1.length, (erase (· = 0) run.1).length,
        record (inner run.1))) =
      some ([some (.error (.unsubscribe commandFilter (.injected "not now"))), some (.ok ())], 20, 17,
        [.accepted 0 "application/a/node/b/tx" [], .rejected 0]) := rfl
  obtain ⟨⟨steps, s⟩, hrun, hfacts⟩ := Option.map_eq_some_iff.mp hcomputed
  simp only [Prod.mk.injEq] at hfacts
  obtain ⟨hreturns, hall, hleft, hrecord⟩ := hfacts
  have hfailed : ∀ call, decide (call = 0) = true →
      ∃ e, s.handler.returns[call]? = some (some (.error e)) := by
    intro call hcall
    obtain rfl := of_decide_eq_true hcall
    exact ⟨_, by rw [hreturns]; rfl⟩
  obtain ⟨-, herased, hsame, -, -, -, hresults⟩ :=
    failed_closes_erased (Run.of_steps? hrun) hfailed
  refine ⟨steps, s, Run.of_steps? hrun, hreturns, by omega, herased, hsame.trans hrecord, ?_⟩
  have hsecond := hresults 1 (by decide)
  rw [hreturns] at hsecond
  exact hsecond

end Station

end LoraBridge.Handler
