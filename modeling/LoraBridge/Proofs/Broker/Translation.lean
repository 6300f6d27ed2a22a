import LoraBridge.Proofs.Broker.Carries

/-! # What a loop makes of the outcomes of its connection

  The first outcome of a connection decides what the one who asked for the session is told: that
  there is a session, why there is none, or that the client was gone before. If there is a session,
  every outcome that matters is reported from then on, in order and once, until an outcome ends the
  loop: the client has taken its leave, nobody can make requests any more, or the session is lost
  while the client is leaving.

  Nothing else that happens to a client comes into this: neither its calls and requests, nor when
  its events are taken. The moment at which it notes that it is leaving decides only which loss
  ends the loop.

  - `Client.polled?`: the outcome that an action gives to the loop.
  - `Client.LoopStep`: what an action does to the loop.
  - `Client.Progress`: how far a client has come. `Client.Progress.step` keeps it.
  - `Client.outcomes_translated`: the result and the events of every run.
-/

namespace LoraBridge.Broker

open Transport (ConnectFault Error Event)

/-! ### Outcomes -/

/-- What is reported of an outcome that does not end the loop. -/
def Outcome.event? : Outcome → Option Event
  | .connected => some .connected
  | .message topic payload => some (.message topic payload)
  | .failed fault => some (.lost fault.message)
  | _ => none

/-- What the one who asked for the session is told of a first outcome that ends the loop. -/
def Outcome.refusal? : Outcome → Option Error
  | .failed fault => some (.connect fault)
  | .left | .abandoned => some .closed
  | _ => none

/-- Whether an outcome ends a loop that has had a session. -/
def Outcome.Ends (leaving : Prop) : Outcome → Prop
  | .left | .abandoned => True
  | .failed _ => leaving
  | _ => False

/-- What comes of the connection when a request is dealt with. -/
def Dispatch.outcome? : Dispatch → Option Outcome
  | .send .disconnect => some .left
  | .send _ => some .other
  | .hold => none
  | .refuse => some (.failed .unreachable)

namespace Loop

variable {l : Loop} {outcome : Outcome} {result : Except Error Unit}

theorem react_of_stopped (hphase : l.phase = .stopped) (outcome : Outcome) :
    l.react outcome = l := by
  simp [react, hphase]

/-- The first session is reported to the one who asked for it, and as an event. -/
theorem react_first_connected (hphase : l.phase = .connecting) (hreceiver : l.receiver = true)
    (hresult : l.result? = none) :
    l.react .connected =
      { l with phase := .running, result? := some (.ok ()),
               events := l.events ++ [.connected] } := by
  simp [react, report, tell, hphase, hreceiver, hresult]

/-- If the first session does not come about, this is not reported as an event. -/
theorem react_first_refused (hphase : l.phase = .connecting) (hresult : l.result? = none)
    {error : Error} (hrefusal : outcome.refusal? = some error) :
    l.react outcome = { l with phase := .stopped, result? := some (.error error) } := by
  cases outcome with
  | failed fault =>
    obtain rfl := Option.some.inj hrefusal
    simp [react, stop, tell, hphase, hresult]
  | left =>
    obtain rfl := Option.some.inj hrefusal
    simp [react, stop, tell, hphase, hresult]
  | abandoned =>
    obtain rfl := Option.some.inj hrefusal
    simp [react, stop, tell, hphase, hresult]
  | _ => cases hrefusal

theorem react_of_ends (hphase : l.phase = .running) (hresult : l.result? = some result)
    (hends : outcome.Ends (l.leaving = true)) :
    l.react outcome = { l with phase := .stopped } := by
  cases outcome with
  | left => simp [react, stop, tell, hphase, hresult]
  | abandoned => simp [react, stop, tell, hphase, hresult]
  | failed fault =>
    have hleaving : l.leaving = true := hends
    simp [react, stop, tell, hphase, hresult, hleaving]
  | _ => exact hends.elim

theorem react_of_not_ends (hphase : l.phase = .running) (hresult : l.result? = some result)
    (hreceiver : l.receiver = true) (hgoes : ¬ outcome.Ends (l.leaving = true)) :
    l.react outcome = { l with events := l.events ++ outcome.event?.toList } := by
  obtain ⟨phase, result?, leaving, receiver, events⟩ := l
  subst hphase hresult hreceiver
  cases outcome with
  | left => exact absurd trivial hgoes
  | abandoned => exact absurd trivial hgoes
  | failed fault =>
    have hleaving : leaving = false := by simpa [Outcome.Ends] using hgoes
    simp [react, report, Outcome.event?, hleaving]
  | _ => simp [react, report, tell, Outcome.event?]

theorem result_tell (hresult : l.result? = some result) (other : Except Error Unit) :
    (l.tell other).result? = some result := by
  simp [tell, hresult]

theorem result_stop (hresult : l.result? = some result) : l.stop.result? = some result :=
  result_tell hresult _

theorem result_report (hresult : l.result? = some result) (event : Event) :
    (l.report event).result? = some result := by
  unfold report
  split
  · exact hresult
  · exact result_stop hresult

/-- What the one who asked for the session was told is final. -/
theorem result_react (hresult : l.result? = some result) (outcome : Outcome) :
    (l.react outcome).result? = some result := by
  unfold react
  split
  · exact hresult
  · cases outcome with
    | connected =>
      have htold : ({ l.tell (.ok ()) with phase := .running } : Loop).result? = some result :=
        result_tell hresult _
      exact result_report htold _
    | message topic payload => exact result_report hresult _
    | failed fault =>
      dsimp only
      split
      · exact result_stop (result_tell hresult _)
      · split
        · exact result_stop hresult
        · exact result_report hresult _
    | left => exact result_stop hresult
    | abandoned => exact result_stop hresult
    | _ => exact hresult

theorem react_flags (l : Loop) (outcome : Outcome) :
    (l.react outcome).receiver = l.receiver ∧ (l.react outcome).leaving = l.leaving := by
  have hreport (l : Loop) (event : Event) :
      (l.report event).receiver = l.receiver ∧ (l.report event).leaving = l.leaving := by
    unfold report
    split <;> exact ⟨rfl, rfl⟩
  unfold react
  split
  · exact ⟨rfl, rfl⟩
  · cases outcome with
    | connected => exact hreport { l.tell (.ok ()) with phase := .running } _
    | message topic payload => exact hreport l _
    | failed fault =>
      dsimp only
      split
      · exact ⟨rfl, rfl⟩
      · split
        · exact ⟨rfl, rfl⟩
        · exact hreport l _
    | _ => exact ⟨rfl, rfl⟩

end Loop

namespace Client

variable {c c' s : Client} {l : Loop} {a : Action} {outcome : Outcome}
  {steps : List (Client × Action)} {last : Client × Action}

/-! ### What a step does to the loop -/

/-- The outcome that an action gives to the loop. -/
def polled? (c : Client) : Action → Option Outcome
  | .transmit => c.prepare?.bind fun (dispatch, _) => dispatch.outcome?
  | .ping => if c.outbox.ping.1 then none else some (.failed .unreachable)
  | .pong => some .other
  | .acknowledge number =>
    some (if (c.outbox.acknowledge number).1 then .other else .failed .unreachable)
  | .outcome outcome => some outcome
  | _ => none

/-- The event that an action takes. -/
def taken? (c : Client) : Action → Option Event
  | .takeEvent => c.loop.events.head?
  | _ => none

theorem taken?_of_polled? (h : c.polled? a = some outcome) : c.taken? a = none := by
  cases a with
  | takeEvent => simp [polled?] at h
  | _ => rfl

/-- What an action does to the loop. -/
inductive LoopStep (c : Client) : Action → Loop → Prop
  /-- The loop is given an outcome. -/
  | poll {a : Action} {outcome : Outcome} (hpolled : c.polled? a = some outcome) :
    LoopStep c a (c.loop.react outcome)
  /-- The client notes that it is leaving. -/
  | leave : LoopStep c .leave c.loop.leave
  /-- An event is taken. -/
  | take {event : Event} {events : List Event} (hevents : c.loop.events = event :: events) :
    LoopStep c .takeEvent { c.loop with events }
  | drop : LoopStep c .dropReceiver c.loop.dropReceiver
  /-- The action is nothing to the loop. -/
  | idle {a : Action} (hpolled : c.polled? a = none) (htaken : c.taken? a = none)
    (hstays : a ≠ .leave) : LoopStep c a c.loop

theorem loop_react (c : Client) (outcome : Outcome) :
    (c.react outcome).loop = c.loop.react outcome := by
  by_cases hstopped : c.loop.phase = .stopped
  · rw [react_of_stopped c hstopped, Loop.react_of_stopped hstopped]
  · exact (react_fields hstopped outcome).1

theorem loop_prepare? {dispatch : Dispatch} (h : c.prepare? = some (dispatch, c')) :
    c'.loop = c.loop := by
  unfold prepare? at h
  split at h
  · obtain ⟨⟨other, outbox⟩, -, heq⟩ := Option.map_eq_some_iff.mp h
    obtain ⟨-, rfl⟩ := Prod.mk.inj heq
    rfl
  · simp at h

theorem loop_send (c : Client) (dispatch : Dispatch) :
    (c.send dispatch).loop = (dispatch.outcome?.map c.loop.react).getD c.loop := by
  cases dispatch with
  | send packet => cases packet <;> exact loop_react c _
  | hold => rfl
  | refuse => exact loop_react c _

theorem loop_ping (c : Client) :
    c.ping.loop = if c.outbox.ping.1 then c.loop else c.loop.react (.failed .unreachable) := by
  unfold ping
  dsimp only
  split
  · rfl
  · exact loop_react _ _

theorem loop_pong (c : Client) : c.pong.loop = c.loop.react .other :=
  loop_react { c with outbox := { c.outbox with waits := false } } .other

theorem loop_acknowledge (c : Client) (number : Nat) :
    (c.acknowledge number).loop =
      c.loop.react (if (c.outbox.acknowledge number).1 then .other else .failed .unreachable) := by
  unfold acknowledge
  simp only [takeAll, take, settled]
  cases (c.outbox.acknowledge number).1 with
  | true => exact loop_react { c with outbox := (c.outbox.acknowledge number).2 } .other
  | false => exact loop_react _ _

/-- What a step does to the loop is one of the cases above. -/
theorem loopStep_of_step? (h : c.step? a = some c') : c.LoopStep a c'.loop := by
  cases a with
  | transmit =>
    obtain ⟨⟨dispatch, sent⟩, hprepare, rfl⟩ := Option.map_eq_some_iff.mp h
    have hpolled : c.polled? .transmit = dispatch.outcome? := by simp [polled?, hprepare]
    rw [loop_send, loop_prepare? hprepare]
    cases houtcome : dispatch.outcome? with
    | none => exact .idle (hpolled.trans houtcome) rfl (by simp)
    | some outcome => exact .poll (hpolled.trans houtcome)
  | ping =>
    simp only [step?, Option.ite_none_right_eq_some, Option.some.injEq] at h
    obtain ⟨-, rfl⟩ := h
    rw [loop_ping]
    split
    · next hgoes => exact .idle (by simp [polled?, hgoes]) rfl (by simp)
    · next hfails => exact .poll (by simp [polled?, hfails])
  | pong =>
    obtain rfl := Option.some.inj h
    rw [loop_pong]
    exact .poll rfl
  | acknowledge number =>
    obtain rfl := Option.some.inj h
    rw [loop_acknowledge]
    exact .poll rfl
  | outcome outcome =>
    obtain rfl := Option.some.inj h
    rw [loop_react]
    exact .poll rfl
  | takeEvent =>
    obtain ⟨⟨event, loop⟩, htake, rfl⟩ := Option.map_eq_some_iff.mp h
    unfold Loop.takeEvent? at htake
    split at htake
    · simp at htake
    · next hevents =>
      obtain ⟨-, rfl⟩ := Prod.mk.inj (Option.some.inj htake)
      exact .take hevents
  | dropReceiver =>
    obtain rfl := Option.some.inj h
    exact .drop
  | leave =>
    obtain rfl := Option.some.inj h
    exact .leave
  | _ =>
    -- what remains are actions of the calls and requests
    rcases (step_own rfl h).2.2.1 (by simp) (by simp) with hloop | ⟨hleave, -⟩
    · rw [hloop]
      exact .idle rfl rfl (by simp)
    · simp at hleave

/-! ### What the steps of a run show -/

/-- The outcomes that the loop was given, in order. -/
def polls (steps : List (Client × Action)) : List Outcome :=
  steps.filterMap fun step => step.1.polled? step.2

/-- The events that were taken, in order. -/
def takes (steps : List (Client × Action)) : List Event :=
  steps.filterMap fun step => step.1.taken? step.2

/-- All events that were reported, in order: those that were taken, and those that were not. -/
def emitted (steps : List (Client × Action)) (l : Loop) : List Event := takes steps ++ l.events

/-- Whether a step that comes after others ends a loop that has had a session. -/
def Ending (before : List (Client × Action)) (step : Client × Action) : Prop :=
  ∃ outcome, step.1.polled? step.2 = some outcome ∧ outcome.Ends (∃ s, (s, .leave) ∈ before)

/-- Whether none of some steps ends a loop that has had a session. -/
def GoesOn (steps : List (Client × Action)) : Prop :=
  ∀ before step after, steps = before ++ step :: after → ¬ Ending before step

theorem polls_concat (steps : List (Client × Action)) (s : Client) (a : Action) :
    polls (steps ++ [(s, a)]) = polls steps ++ (s.polled? a).toList := filterMap_concat _ _ _

theorem takes_concat (steps : List (Client × Action)) (s : Client) (a : Action) :
    takes (steps ++ [(s, a)]) = takes steps ++ (s.taken? a).toList := filterMap_concat _ _ _

theorem emitted_concat (steps : List (Client × Action)) (s : Client) (a : Action) (l : Loop) :
    emitted (steps ++ [(s, a)]) l = takes steps ++ ((s.taken? a).toList ++ l.events) := by
  rw [emitted, takes_concat, List.append_assoc]

/-- One more step that does not end the loop. -/
theorem GoesOn.concat (h : GoesOn steps) (hlast : ¬ Ending steps last) :
    GoesOn (steps ++ [last]) := by
  intro before other after hsteps
  rcases List.eq_nil_or_concat after with rfl | ⟨rest, last, rfl⟩
  · obtain ⟨rfl, hother⟩ := List.append_inj' hsteps rfl
    rwa [← List.singleton_inj.mp hother]
  · rw [List.concat_eq_append, ← List.cons_append, ← List.append_assoc] at hsteps
    exact h _ _ _ (List.append_inj' hsteps rfl).1

/-- Steps that give no outcome to the loop do not end it. -/
theorem goesOn_of_polls (h : polls steps = []) : GoesOn steps := by
  rintro before step after rfl ⟨outcome, hpolled, -⟩
  have hnone := List.filterMap_eq_nil_iff.mp h step (by simp)
  rw [hpolled] at hnone
  cases hnone

/-! ### How far a client has come -/

/-- What is so of a loop while somebody takes events. -/
structure Listened (steps : List (Client × Action)) (l : Loop) : Prop where
  receiver : l.receiver = true
  leaving : l.leaving = true ↔ ∃ s, (s, .leave) ∈ steps

/-- How far a loop has come whose connection began with a session, or with an outcome that ends the
    loop. -/
inductive Progress (steps : List (Client × Action)) (l : Loop) : Prop
  /-- Nothing has come of the connection. -/
  | connecting (hphase : l.phase = .connecting) (hpolls : polls steps = [])
    (hresult : l.result? = none) (hemitted : emitted steps l = [])
  /-- The first session has not come about. -/
  | refused {first : Outcome} {error : Error} (hphase : l.phase = .stopped)
    (hfirst : (polls steps).head? = some first) (hrefusal : first.refusal? = some error)
    (hresult : l.result? = some (.error error)) (hemitted : emitted steps l = [])
  /-- There has been a session, and nothing has ended the loop since. -/
  | running (hphase : l.phase = .running) (hfirst : (polls steps).head? = some .connected)
    (hresult : l.result? = some (.ok ())) (hgoes : GoesOn steps)
    (hemitted : emitted steps l = (polls steps).filterMap Outcome.event?)
  /-- There has been a session, and a step has ended the loop. -/
  | ended {before after : List (Client × Action)} {last : Client × Action}
    (hphase : l.phase = .stopped) (hfirst : (polls steps).head? = some .connected)
    (hresult : l.result? = some (.ok ())) (hsteps : steps = before ++ last :: after)
    (hgoes : GoesOn before) (hends : Ending before last)
    (hemitted : emitted steps l = (polls before).filterMap Outcome.event?)

theorem Listened.step (hl : Listened steps c.loop) (h : c.LoopStep a l)
    (halive : a ≠ .dropReceiver) : Listened (steps ++ [(c, a)]) l := by
  have hleave : (∃ s, (s, .leave) ∈ steps ++ [(c, a)]) ↔
      (∃ s, (s, .leave) ∈ steps) ∨ a = .leave := by
    simp [exists_or, eq_comm]
  cases h with
  | @poll a outcome hpolled =>
    obtain ⟨hreceiver, hleaving⟩ := c.loop.react_flags outcome
    have hstays : a ≠ .leave := by
      rintro rfl
      cases hpolled
    refine ⟨hreceiver.trans hl.receiver, ?_⟩
    rw [hleaving, hleave, hl.leaving, or_iff_left hstays]
  | leave => exact ⟨hl.receiver, iff_of_true rfl (hleave.mpr (.inr rfl))⟩
  | take hevents =>
    refine ⟨hl.receiver, ?_⟩
    rw [hleave, or_iff_left nofun]
    exact hl.leaving
  | drop => exact absurd rfl halive
  | idle hpolled htaken hstays =>
    refine ⟨hl.receiver, ?_⟩
    rw [hleave, or_iff_left hstays]
    exact hl.leaving

/-- A step that gives no outcome to the loop. -/
theorem Progress.quiet (hp : Progress steps c.loop) (hpolled : c.polled? a = none)
    (hphase : l.phase = c.loop.phase) (hresult : l.result? = c.loop.result?)
    (hemitted : emitted (steps ++ [(c, a)]) l = emitted steps c.loop) :
    Progress (steps ++ [(c, a)]) l := by
  have hpolls : polls (steps ++ [(c, a)]) = polls steps := by
    rw [polls_concat, hpolled, Option.toList_none, List.append_nil]
  cases hp with
  | connecting hbefore hnone htold hevents =>
    exact .connecting (hphase.trans hbefore) (hpolls.trans hnone) (hresult.trans htold)
      (hemitted.trans hevents)
  | refused hbefore hfirst hrefusal htold hevents =>
    exact .refused (hphase.trans hbefore) (by rwa [hpolls]) hrefusal (hresult.trans htold)
      (hemitted.trans hevents)
  | running hbefore hfirst htold hgoes hevents =>
    have hlast : ¬ Ending steps (c, a) := by
      rintro ⟨outcome, hsome, -⟩
      rw [hpolled] at hsome
      cases hsome
    exact .running (hphase.trans hbefore) (by rwa [hpolls]) (hresult.trans htold)
      (hgoes.concat hlast) (by rw [hemitted, hevents, hpolls])
  | @ended before after last hbefore hfirst htold hsteps hgoes hends hevents =>
    have hlater : steps ++ [(c, a)] = before ++ last :: (after ++ [(c, a)]) := by
      rw [hsteps, List.append_assoc, List.cons_append]
    exact .ended (hphase.trans hbefore) (by rwa [hpolls]) (hresult.trans htold) hlater hgoes hends
      (hemitted.trans hevents)

/-- A step that gives an outcome to the loop. -/
theorem Progress.poll (hp : Progress steps c.loop) (hl : Listened steps c.loop)
    (hbegins : ∀ first, (polls (steps ++ [(c, a)])).head? = some first →
      first = .connected ∨ ∃ error, first.refusal? = some error)
    (hpolled : c.polled? a = some outcome) :
    Progress (steps ++ [(c, a)]) (c.loop.react outcome) := by
  have hpolls : polls (steps ++ [(c, a)]) = polls steps ++ [outcome] := by
    rw [polls_concat, hpolled, Option.toList_some]
  have hemits (l : Loop) : emitted (steps ++ [(c, a)]) l = takes steps ++ l.events := by
    rw [emitted_concat, taken?_of_polled? hpolled, Option.toList_none, List.nil_append]
  have hending : Ending steps (c, a) ↔ outcome.Ends (c.loop.leaving = true) := by
    rw [hl.leaving]
    simp [Ending, hpolled]
  have hhead {first : Outcome} (h : (polls steps).head? = some first) :
      (polls (steps ++ [(c, a)])).head? = some first := by
    rw [hpolls, List.head?_append, h, Option.some_or]
  cases hp with
  | connecting hphase hnone hresult hemitted =>
    have hhead : (polls (steps ++ [(c, a)])).head? = some outcome := by
      rw [hpolls, hnone]
      rfl
    rcases hbegins outcome hhead with rfl | ⟨error, hrefusal⟩
    · rw [Loop.react_first_connected hphase hl.receiver hresult]
      refine .running rfl hhead rfl ((goesOn_of_polls hnone).concat (hending.not.mpr id)) ?_
      rw [hemits, ← List.append_assoc, ← emitted, hemitted, hpolls, hnone]
      rfl
    · rw [Loop.react_first_refused hphase hresult hrefusal]
      exact .refused rfl hhead hrefusal rfl ((hemits _).trans hemitted)
  | refused hphase hfirst hrefusal hresult hemitted =>
    rw [Loop.react_of_stopped hphase]
    exact .refused hphase (hhead hfirst) hrefusal hresult ((hemits _).trans hemitted)
  | running hphase hfirst hresult hgoes hemitted =>
    by_cases hends : outcome.Ends (c.loop.leaving = true)
    · rw [Loop.react_of_ends hphase hresult hends]
      exact .ended rfl (hhead hfirst) hresult rfl hgoes (hending.mpr hends)
        ((hemits _).trans hemitted)
    · rw [Loop.react_of_not_ends hphase hresult hl.receiver hends]
      refine .running hphase (hhead hfirst) hresult (hgoes.concat (hending.not.mpr hends)) ?_
      rw [hemits, ← List.append_assoc, ← emitted, hemitted, hpolls, filterMap_concat]
  | @ended before after last hphase hfirst hresult hsteps hgoes hends hemitted =>
    rw [Loop.react_of_stopped hphase]
    have hlater : steps ++ [(c, a)] = before ++ last :: (after ++ [(c, a)]) := by
      rw [hsteps, List.append_assoc, List.cons_append]
    exact .ended hphase (hhead hfirst) hresult hlater hgoes hends ((hemits _).trans hemitted)

theorem Progress.step (hp : Progress steps c.loop) (hl : Listened steps c.loop)
    (hbegins : ∀ first, (polls (steps ++ [(c, a)])).head? = some first →
      first = .connected ∨ ∃ error, first.refusal? = some error)
    (h : c.LoopStep a l) (halive : a ≠ .dropReceiver) : Progress (steps ++ [(c, a)]) l := by
  cases h with
  | poll hpolled => exact hp.poll hl hbegins hpolled
  | leave => exact hp.quiet rfl rfl rfl (emitted_concat _ _ _ _)
  | take hevents =>
    refine hp.quiet rfl rfl rfl ?_
    rw [emitted_concat, taken?, hevents, emitted, hevents]
    rfl
  | drop => exact absurd rfl halive
  | idle hpolled htaken _ =>
    refine hp.quiet hpolled rfl rfl ?_
    rw [emitted_concat, htaken]
    rfl

theorem progress_of_run (h : Run step? {} steps c) (halive : ∀ s, (s, .dropReceiver) ∉ steps)
    (hbegins : ∀ first, (polls steps).head? = some first →
      first = .connected ∨ ∃ error, first.refusal? = some error) :
    Listened steps c.loop ∧ Progress steps c.loop := by
  induction h with
  | refl => exact ⟨⟨rfl, by simp⟩, .connecting rfl rfl rfl rfl⟩
  | @step steps s a t hbefore now ih =>
    have hlast : a ≠ .dropReceiver := by
      rintro rfl
      exact halive s (by simp)
    have hearlier (first : Outcome) (h : (polls steps).head? = some first) :
        first = .connected ∨ ∃ error, first.refusal? = some error :=
      hbegins first (by rw [polls_concat, List.head?_append, h, Option.some_or])
    obtain ⟨hl, hp⟩ := ih (fun r hmem => halive r (List.mem_append_left _ hmem)) hearlier
    have hstep := loopStep_of_step? now
    exact ⟨hl.step hstep hlast, hp.step hl hbegins hstep hlast⟩

/-- Whatever else happens, the one who asked for the session is told once. -/
theorem result_of_run {more : List (Client × Action)} {result : Except Error Unit}
    (h : Run step? s more c) (hresult : s.loop.result? = some result) :
    c.loop.result? = some result := by
  refine h.invariant (I := fun c => c.loop.result? = some result) hresult ?_
  intro s a t htold now
  have hstep := loopStep_of_step? now
  generalize t.loop = l at hstep ⊢
  cases hstep with
  | poll _ => exact Loop.result_react htold _
  | _ => exact htold

/-- A first outcome that ends the loop is told as what it is, and nothing is ever reported. -/
theorem refused_of_first (h : Run step? {} steps c) (halive : ∀ s, (s, .dropReceiver) ∉ steps)
    {first : Outcome} {error : Error} (hfirst : (polls steps).head? = some first)
    (hrefusal : first.refusal? = some error) :
    c.loop.result? = some (.error error) ∧ emitted steps c.loop = [] := by
  obtain ⟨-, hp⟩ := progress_of_run h halive (by simp [hfirst, hrefusal])
  cases hp with
  | connecting _ hnone => simp [hnone] at hfirst
  | refused _ hsame hother hresult hemitted =>
    obtain rfl := Option.some.inj (hfirst.symm.trans hsame)
    obtain rfl := Option.some.inj (hrefusal.symm.trans hother)
    exact ⟨hresult, hemitted⟩
  | running _ hother =>
    obtain rfl := Option.some.inj (hfirst.symm.trans hother)
    cases hrefusal
  | ended _ hother =>
    obtain rfl := Option.some.inj (hfirst.symm.trans hother)
    cases hrefusal

/-- The outcomes of a connection are translated faithfully, whatever a client does besides and
    whenever it begins to leave, as long as somebody takes its events. The first outcome alone
    decides what the one who asked for the session is told. If that is that there is none, no event
    is ever reported; so it is too if the loop ends before there has been a session. If there is
    one, the reported events are those of the outcomes up to the first that ends the loop, each once
    and in order, and nothing is reported after it. -/
theorem outcomes_translated (h : Run step? {} steps c)
    (halive : ∀ s, (s, .dropReceiver) ∉ steps) :
    (polls steps = [] → c.loop.result? = none ∧ emitted steps c.loop = []) ∧
    (∀ fault, (polls steps).head? = some (.failed fault) →
      c.loop.result? = some (.error (.connect fault)) ∧ emitted steps c.loop = []) ∧
    ((polls steps).head? = some .abandoned ∨ (polls steps).head? = some .left →
      c.loop.result? = some (.error .closed) ∧ emitted steps c.loop = []) ∧
    ((polls steps).head? = some .connected →
      c.loop.result? = some (.ok ()) ∧
      ∃ before after, steps = before ++ after ∧ GoesOn before ∧
        (∀ last ∈ after.head?, Ending before last) ∧
        emitted steps c.loop = (polls before).filterMap Outcome.event?) ∧
    ∀ s a, (s, a) ∈ steps → s.loop.result? = none ∨ s.loop.result? = c.loop.result? := by
  refine ⟨?_, fun fault hfirst => refused_of_first h halive hfirst rfl, ?_, ?_, ?_⟩
  · intro hnone
    obtain ⟨-, hp⟩ := progress_of_run h halive (by simp [hnone])
    cases hp with
    | connecting _ _ hresult hemitted => exact ⟨hresult, hemitted⟩
    | refused _ hfirst => simp [hnone] at hfirst
    | running _ hfirst => simp [hnone] at hfirst
    | ended _ hfirst => simp [hnone] at hfirst
  · rintro (hfirst | hfirst)
    · exact refused_of_first h halive hfirst rfl
    · exact refused_of_first h halive hfirst rfl
  · intro hfirst
    obtain ⟨-, hp⟩ := progress_of_run h halive (by simp [hfirst])
    cases hp with
    | connecting _ hnone => simp [hnone] at hfirst
    | refused _ hother hrefusal =>
      obtain rfl := Option.some.inj (hfirst.symm.trans hother)
      cases hrefusal
    | running _ _ hresult hgoes hemitted =>
      exact ⟨hresult, steps, [], by simp, hgoes, by simp, hemitted⟩
    | @ended before after last _ _ hresult hsteps hgoes hends hemitted =>
      exact ⟨hresult, before, last :: after, hsteps, hgoes, by simpa using hends, hemitted⟩
  · intro s a hmem
    obtain ⟨before, after, rfl⟩ := List.append_of_mem hmem
    obtain ⟨-, u, now, hafter⟩ := h.split_at
    cases hresult : s.loop.result? with
    | none => exact .inl rfl
    | some result =>
      exact .inr (result_of_run ((Run.single now).append hafter) hresult).symm

/-- A client loses its session and has another one, which it loses while it is leaving. What would
    come of the connection after that is no longer reported. -/
def lossWhileLeaving : List Action :=
  [.outcome .connected, .outcome (.message "a/b" [1]), .takeEvent,
    .outcome (.failed (.other "reset")), .outcome .connected, .leave,
    .outcome (.failed .unreachable), .outcome .connected]

theorem outcomes_translated_lossWhileLeaving :
    ∃ steps c, Run step? {} steps c ∧ (∀ s, (s, .dropReceiver) ∉ steps) ∧
      steps.map (·.2) = lossWhileLeaving ∧ (polls steps).head? = some .connected ∧
      emitted steps c.loop = [.connected, .message "a/b" [1], .lost "reset", .connected] ∧
      c.loop.result? = some (.ok ()) ∧
      ∃ before after, steps = before ++ after ∧ GoesOn before ∧
        (∀ last ∈ after.head?, Ending before last) ∧
        emitted steps c.loop = (polls before).filterMap Outcome.event? := by
  have hfacts : (Run.steps? step? {} lossWhileLeaving).map (fun run =>
      (run.1.map (·.2), (polls run.1).head?, emitted run.1 run.2.loop)) =
      some (lossWhileLeaving, some .connected,
        [.connected, .message "a/b" [1], .lost "reset", .connected]) := rfl
  obtain ⟨⟨steps, c⟩, hsteps, hfacts⟩ := Option.map_eq_some_iff.mp hfacts
  simp only [Prod.mk.injEq] at hfacts
  obtain ⟨hactions, hfirst, hemitted⟩ := hfacts
  have halive (s : Client) : (s, .dropReceiver) ∉ steps := by
    intro hmem
    have hdropped : Action.dropReceiver ∈ lossWhileLeaving := hactions ▸ List.mem_map_of_mem hmem
    simp [lossWhileLeaving] at hdropped
  have hrun := Run.of_steps? hsteps
  exact ⟨steps, c, hrun, halive, hactions, hfirst, hemitted,
    (outcomes_translated hrun halive).2.2.2.1 hfirst⟩

end Client

end LoraBridge.Broker
