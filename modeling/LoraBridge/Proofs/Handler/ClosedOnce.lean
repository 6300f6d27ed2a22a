import LoraBridge.Proofs.Handler.Calls
import LoraBridge.Proofs.Handler.Shutdown

/-! # A handler is closed once

  Any number of calls may close a handler, at the same time or one after the other, and the
  transport may refuse to unsubscribe as often as it likes. What they ask of the transport, and what
  comes of it, are `Milestone`s.

  - `passed_of_run`: the milestones of a run are those of calls that were refused, followed by those
    of the call that is under way or has closed the handler.
  - `State.Quiet.idle_call`: in a handler that is closed, a call does nothing but wait and return.
  - `State.Waits.of_run`: a call that waits in such a handler moves up whenever one gets its turn, so
    that it has returned after as many turns as there are calls ahead of it, and its own.
  - `closes_once`: what holds of all calls taken together.
-/

namespace LoraBridge.Handler

variable {r s s' : State} {a : Action} {es : List Entry} {steps more post : List (State × Action)}
  {call first ahead : Nat} {ms rest : List Milestone}

/-! ### Milestones -/

/-- What calls that close the handler ask of the transport, and what comes of it. -/
inductive Milestone where
  /-- The transport is asked to unsubscribe. -/
  | unsubscribe (call : Nat)
  /-- It has failed to. -/
  | refused (call : Nat)
  /-- It has unsubscribed. -/
  | unsubscribed (call : Nat)
  /-- No message is being handled any more. -/
  | drained (call : Nat)
  /-- The transport is asked to end the session. -/
  | disconnect (call : Nat)
  /-- It has ended the session or failed to. -/
  | disconnected (call : Nat)
deriving DecidableEq, Repr

def Milestone.isUnsubscribe : Milestone → Bool
  | .unsubscribe _ => true
  | _ => false

def Milestone.isUnsubscribed : Milestone → Bool
  | .unsubscribed _ => true
  | _ => false

def Milestone.isDisconnect : Milestone → Bool
  | .disconnect _ => true
  | _ => false

/-- The milestones that a step passes. -/
def State.milestones (s : State) (a : Action) : List Milestone :=
  match a, s.caller? a with
  | .enter, some call => if s.closed then [] else [.unsubscribe call]
  | .unsubscribeReply (.ok ()), some call => [.unsubscribed call]
  | .unsubscribeReply (.error _), some call => [.refused call]
  | .drained, some call => [.drained call, .disconnect call]
  | .disconnectReply _, some call => [.disconnected call]
  | _, _ => []

/-- The milestones that a run passes. -/
def milestones (steps : List (State × Action)) : List Milestone :=
  steps.flatMap fun p => p.1.milestones p.2

@[simp] theorem milestones_nil : milestones [] = [] := rfl

@[simp] theorem milestones_append (steps more : List (State × Action)) :
    milestones (steps ++ more) = milestones steps ++ milestones more := by
  simp [milestones]

@[simp] theorem milestones_single (s : State) (a : Action) :
    milestones [(s, a)] = s.milestones a := by
  simp [milestones]

/-! ### The course of a call -/

/-- The milestones of a call that is refused. -/
def refusal (call : Nat) : List Milestone := [.unsubscribe call, .refused call]

/-- The milestones of a call that closes the handler. -/
def course (call : Nat) : List Milestone :=
  [.unsubscribe call, .unsubscribed call, .drained call, .disconnect call, .disconnected call]

/-- How many milestones of its course a call has passed. -/
def Closing.passed : Closing → Nat
  | .unsubscribing => 1
  | .marking => 2
  | .detaching => 2
  | .draining => 2
  | .disconnecting => 4

/-- The milestones of the call that is under way, or of the one that has closed the handler. -/
def State.UnderWay (s : State) (ms : List Milestone) : Prop :=
  match s.closing? with
  | some (call, closing) => ms = (course call).take closing.passed
  | none => if s.closed then ∃ call, ms = course call else ms = []

/-- What has been passed: the milestones of calls that were refused, and then those of the call that
    was not. -/
def State.Passed (s : State) (ms : List Milestone) : Prop :=
  ∃ (refused : List Nat) (rest : List Milestone),
    ms = refused.flatMap refusal ++ rest ∧ s.UnderWay rest

theorem State.Passed.start : State.Passed {} [] := ⟨[], [], rfl, rfl⟩

theorem State.UnderWay.of_eq (hs : s.UnderWay ms) (hclosing : s'.closing? = s.closing?)
    (hclosed : s'.closed = s.closed) : s'.UnderWay ms := by
  rwa [State.UnderWay, hclosing, hclosed]

/-- While a call is under way, it adds to its own milestones. -/
theorem State.Passed.goOn (hs : s.Passed ms) {before after : Closing} {new : List Milestone}
    (hclosing : s.closing? = some (call, before)) (hafter : s'.closing? = some (call, after))
    (hnew : (course call).take before.passed ++ new = (course call).take after.passed) :
    s'.Passed (ms ++ new) := by
  obtain ⟨refused, rest, rfl, hway⟩ := hs
  simp only [State.UnderWay, hclosing] at hway
  subst hway
  refine ⟨refused, _, List.append_assoc .., ?_⟩
  simp only [State.UnderWay, hafter, hnew]

theorem State.Step.passed (h : s.Step a es s') (horderly : s.Orderly) (hs : s.Passed ms) :
    s'.Passed (ms ++ s.milestones a) := by
  cases h with
  | @enter call turns hfree hturns hopen =>
    -- nobody is under way, and nobody has closed the handler
    obtain ⟨refused, rest, rfl, hway⟩ := hs
    simp only [State.UnderWay, hfree, hopen, Bool.false_eq_true, if_false] at hway
    subst hway
    refine ⟨refused, [.unsubscribe call], ?_, rfl⟩
    simp [State.milestones, State.caller?, hturns, hopen]
  | @enterClosed call turns hfree hturns hclosed =>
    obtain ⟨refused, rest, rfl, hway⟩ := hs
    refine ⟨refused, rest, ?_, hway.of_eq hfree.symm rfl⟩
    simp [State.milestones, State.caller?, hturns, hclosed]
  | unsubscribed hclosing =>
    refine hs.goOn hclosing rfl ?_
    simp [State.milestones, State.caller?, hclosing, course, Closing.passed]
  | @notUnsubscribed call e hclosing =>
    -- the call joins those that were refused
    obtain ⟨refused, rest, rfl, hway⟩ := hs
    simp only [State.UnderWay, hclosing] at hway
    subst hway
    refine ⟨refused ++ [call], [], ?_, ?_⟩
    · simp [State.milestones, State.caller?, hclosing, course, Closing.passed, refusal]
    · simp [State.UnderWay, State.finish, horderly.not_closed hclosing]
  | mark hclosing | detach hclosing =>
    exact hs.goOn hclosing rfl (by simp [State.milestones, Closing.passed])
  | drained hclosing hdone =>
    refine hs.goOn hclosing rfl ?_
    simp [State.milestones, State.caller?, hclosing, course, Closing.passed]
  | @disconnected call reply hclosing =>
    obtain ⟨refused, rest, rfl, hway⟩ := hs
    simp only [State.UnderWay, hclosing] at hway
    subst hway
    refine ⟨refused, course call, ?_, call, rfl⟩
    simp [State.milestones, State.caller?, hclosing, course, Closing.passed]
  | _ =>
    -- nothing else has a part in it
    obtain ⟨refused, rest, rfl, hway⟩ := hs
    exact ⟨refused, rest, by simp [State.milestones], hway.of_eq rfl rfl⟩

theorem passed_of_run (h : Run State.step? {} steps s) : s.Passed (milestones steps) := by
  induction h with
  | refl => exact State.Passed.start
  | step before now ih =>
    rw [milestones_append, milestones_single]
    exact (State.step_cases now).passed (orderly_of_run before) ih

/-- Whoever is under way has passed the beginning of its course. -/
theorem State.UnderWay.exists_prefix (hs : s.UnderWay ms) : ∃ call, ms <+: course call := by
  unfold State.UnderWay at hs
  split at hs
  · next call closing _ =>
    subst hs
    exact ⟨call, List.take_prefix _ _⟩
  · split at hs
    · obtain ⟨call, rfl⟩ := hs
      exact ⟨call, List.prefix_refl _⟩
    · subst hs
      exact ⟨0, List.nil_prefix⟩

/-- What comes at most once in a course, and never when a call is refused, comes at most once. -/
theorem State.Passed.countP_le_one (hs : s.Passed ms) {p : Milestone → Bool}
    (hrefusal : ∀ call, ∀ m ∈ refusal call, p m = false)
    (hcourse : ∀ call, (course call).countP p ≤ 1) : ms.countP p ≤ 1 := by
  obtain ⟨refused, rest, rfl, hway⟩ := hs
  obtain ⟨call, hprefix⟩ := hway.exists_prefix
  have hnone : (refused.flatMap refusal).countP p = 0 := by
    rw [List.countP_eq_zero]
    intro m hm
    obtain ⟨other, -, hm⟩ := List.mem_flatMap.mp hm
    simp [hrefusal other m hm]
  rw [List.countP_append, hnone, Nat.zero_add]
  exact Nat.le_trans hprefix.sublist.countP_le (hcourse call)

/-- Nobody asks the transport to unsubscribe when it has. -/
theorem State.Passed.not_asked_again (hs : s.Passed ms) :
    ms.Pairwise fun earlier later => earlier.isUnsubscribed → later.isUnsubscribe = false := by
  obtain ⟨refused, rest, rfl, hway⟩ := hs
  obtain ⟨call, hprefix⟩ := hway.exists_prefix
  have hrefused {m : Milestone} (hm : m ∈ refused.flatMap refusal) :
      m.isUnsubscribed = false := by
    obtain ⟨other, -, hm⟩ := List.mem_flatMap.mp hm
    simp only [refusal, List.mem_cons, List.not_mem_nil, or_false] at hm
    rcases hm with rfl | rfl <;> rfl
  rw [List.pairwise_append]
  refine ⟨?_, ?_, ?_⟩
  · exact List.pairwise_of_forall_mem_list fun m hm _ _ h => by simp [hrefused hm] at h
  · refine List.Pairwise.sublist hprefix.sublist ?_
    simp [course, Milestone.isUnsubscribed, Milestone.isUnsubscribe]
  · intro earlier hearlier later _ h
    simp [hrefused hearlier] at h

/-- Whoever has closed the handler has come to the end of its course. -/
theorem State.Passed.course_of_quiet (hs : s.Passed ms) (hquiet : s.Quiet) :
    ∃ call, (course call).Sublist ms := by
  obtain ⟨refused, rest, rfl, hway⟩ := hs
  simp only [State.UnderWay, hquiet.closing, hquiet.closed, if_true] at hway
  obtain ⟨call, rfl⟩ := hway
  exact ⟨call, List.sublist_append_right _ _⟩

/-! ### Calls in a handler that is closed -/

/-- Whether a call gets its turn. -/
def Action.isEnter : Action → Bool
  | .enter => true
  | _ => false

/-- All that happens to the calls of a closed handler is that one is made, or that the first in
    waiting returns. -/
theorem State.Quiet.call_cases (hs : s.Quiet) (h : s.Step a es s') :
    (a = .close ∧
        s' = { s with returns := s.returns ++ [none], turns := s.turns ++ [s.returns.length] }) ∨
      (a = .enter ∧ ∃ call turns, s.turns = call :: turns ∧
        s' = { s with returns := s.returns.set call (some (.ok ())), turns }) ∨
      (s.caller? a = none ∧ a.isEnter = false ∧ s'.returns = s.returns ∧ s'.turns = s.turns) := by
  cases h with
  | close => exact .inl ⟨rfl, rfl⟩
  | enterClosed hfree hturns hclosed =>
    exact .inr (.inl ⟨rfl, _, _, hturns, by rw [State.finish, ← hfree]⟩)
  | enter hfree hturns hopen => simp [hs.closed] at hopen
  | unsubscribed hclosing | notUnsubscribed hclosing | mark hclosing | detach hclosing
  | drained hclosing | disconnected hclosing => simp [hs.closing] at hclosing
  | _ => exact .inr (.inr ⟨rfl, rfl, rfl, rfl⟩)

/-- A step of a call does nothing about messages and asks nothing of the transport. It only changes
    who waits and who has returned. -/
theorem State.Quiet.idle_call (hs : s.Quiet) (now : s.step? a = some s')
    (hcaller : s.caller? a = some call) : s.entries a = [] ∧ s.milestones a = [] ∧
      ∃ returns turns, s.step? a = some { s with returns, turns } := by
  rcases hs.call_cases (State.step_cases now) with
    ⟨rfl, rfl⟩ | ⟨rfl, other, turns, hturns, rfl⟩ | ⟨hnone, -⟩
  · exact ⟨rfl, rfl, _, _, now⟩
  · exact ⟨rfl, by simp [State.milestones, State.caller?, hturns, hs.closed], _, _, now⟩
  · simp [hnone] at hcaller

/-- How many calls get their turn during a run. -/
def turnsTaken (steps : List (State × Action)) : Nat := steps.countP fun p => p.2.isEnter

theorem turnsTaken_concat (steps : List (State × Action)) (s : State) (a : Action) :
    turnsTaken (steps ++ [(s, a)]) = turnsTaken steps + if a.isEnter then 1 else 0 := by
  simp [turnsTaken, List.countP_append, List.countP_singleton]

/-- A call waits behind so many others. -/
def State.Waits (s : State) (call ahead : Nat) : Prop :=
  ∃ front back, s.turns = front ++ call :: back ∧ front.length = ahead

theorem State.Waits.not_returned (hwaits : s.Waits call ahead) (hin : s.InTurn) :
    s.returns[call]? = some none := by
  obtain ⟨front, back, hline, -⟩ := hwaits
  exact hin.waiting call (by simp [hline])

/-- A call that waits in a closed handler moves up when somebody gets its turn, and returns when it
    gets its own. -/
theorem State.Waits.step (hwaits : s.Waits call ahead) (hs : s.Quiet) (hin : s.InTurn)
    (h : s.Step a es s') :
    s'.returns[call]? = some (some (.ok ())) ∨
      ∃ ahead', s'.Waits call ahead' ∧ ahead = ahead' + if a.isEnter then 1 else 0 := by
  have hwaiting := hwaits.not_returned hin
  obtain ⟨front, back, hline, hahead⟩ := hwaits
  rcases hs.call_cases h with ⟨rfl, rfl⟩ | ⟨rfl, other, turns, hturns, rfl⟩ | ⟨-, henter, -, hturns⟩
  · refine .inr ⟨ahead, ⟨front, back ++ [s.returns.length], ?_, hahead⟩, rfl⟩
    simp [hline]
  · rw [hturns] at hline
    cases front with
    | nil =>
      -- it is the first in waiting
      obtain ⟨rfl, rfl⟩ := List.cons.inj hline
      exact .inl (List.getElem?_set_self (List.getElem?_eq_some_iff.mp hwaiting).1)
    | cons next front =>
      obtain ⟨rfl, rfl⟩ := List.cons.inj hline
      exact .inr ⟨front.length, ⟨front, back, rfl, rfl⟩, hahead.symm⟩
  · exact .inr ⟨ahead, ⟨front, back, hturns.trans hline, hahead⟩, by simp [henter]⟩

/-- As many calls as have got their turn are no longer ahead of one that still waits. -/
theorem State.Waits.of_run (hwaits : s.Waits call ahead) (hs : s.Quiet) (hin : s.InTurn)
    (h : Run State.step? s more s') :
    s'.returns[call]? = some (some (.ok ())) ∨
      ∃ ahead', s'.Waits call ahead' ∧ ahead = ahead' + turnsTaken more := by
  induction h with
  | refl => exact .inr ⟨ahead, hwaits, rfl⟩
  | @step more s₁ a s₂ before now ih =>
    have hcase := State.step_cases now
    have hin₁ : s₁.InTurn := before.invariant hin fun hs now => (State.step_cases now).inTurn hs
    rcases ih with hreturned | ⟨ahead', hwaits', hahead⟩
    · exact .inl (hcase.returned_stays hin₁ hreturned)
    · rcases hwaits'.step (hs.of_run before).1 hin₁ hcase with hreturned | ⟨ahead'', hwaits'', hmoved⟩
      · exact .inl hreturned
      · refine .inr ⟨ahead'', hwaits'', ?_⟩
        rw [turnsTaken_concat]
        omega

/-- Somebody who waits in a closed handler can be given their turn. -/
theorem State.Waits.enter_possible (hwaits : s.Waits call ahead) (hs : s.Quiet) :
    ∃ s', s.step? .enter = some s' := by
  obtain ⟨front, back, hline, -⟩ := hwaits
  obtain ⟨next, turns, hturns⟩ : ∃ next turns, s.turns = next :: turns :=
    List.exists_cons_of_ne_nil (by simp [hline])
  exact ⟨_, (State.Step.enterClosed hs.closing hturns hs.closed).possible⟩

/-! ### The whole run -/

/-- What becomes of a call that is made in some state, if the handler is closed already. -/
structure LateCall (r : State) (post : List (State × Action)) (s : State) : Prop where
  /-- Nothing that it does has an effect. -/
  idle : ∀ q a, (q, a) ∈ (r, .close) :: post → q.caller? a = some r.returns.length →
    q.entries a = [] ∧ q.milestones a = [] ∧
      ∃ returns turns, q.step? a = some { q with returns, turns }
  /-- It has returned without an error, or it has not returned and the first in waiting can be given
      its turn. -/
  goes_on : s.returns[r.returns.length]? = some (some (.ok ())) ∨
    s.returns[r.returns.length]? = some none ∧ ∃ s', s.step? .enter = some s'
  /-- It has returned when those who were ahead of it have had their turn, and it its own. -/
  returned : r.turns.length < turnsTaken post →
    s.returns[r.returns.length]? = some (some (.ok ()))

theorem State.Quiet.lateCall (hr : r.Quiet) (hin : r.InTurn)
    (h : Run State.step? r ((r, .close) :: post) s) : LateCall r post s := by
  -- the call is the last in waiting
  have hfirst : Run State.step? r ([] ++ (r, .close) :: post) s := h
  obtain ⟨-, u, now, hpost⟩ := hfirst.split_at
  have hclose : r.Step .close [] u := State.step_cases now
  have hu : u.Waits r.returns.length r.turns.length := by
    obtain rfl := Option.some.inj now
    exact ⟨r.turns, [], rfl, rfl⟩
  have hs : s.Quiet := (hr.of_run h).1
  have hins : s.InTurn := h.invariant hin fun hs now => (State.step_cases now).inTurn hs
  have hmoved := hu.of_run (hr.step hclose).1 (hclose.inTurn hin) hpost
  constructor
  case idle =>
    intro q a hmem hcaller
    obtain ⟨before, after, hsplit⟩ := List.append_of_mem hmem
    rw [hsplit] at h
    obtain ⟨hbefore, v, now, -⟩ := h.split_at
    exact (hr.of_run hbefore).1.idle_call now hcaller
  case goes_on =>
    rcases hmoved with hreturned | ⟨ahead, hwaits, -⟩
    · exact .inl hreturned
    · exact .inr ⟨hwaits.not_returned hins, hwaits.enter_possible hs⟩
  case returned =>
    intro hlong
    rcases hmoved with hreturned | ⟨ahead, -, hahead⟩
    · exact hreturned
    · omega

/-- What holds of all calls that close a handler. -/
structure ClosedOnce (steps : List (State × Action)) (s : State) : Prop where
  /-- The transport unsubscribes at most once. -/
  unsubscribed_once : (milestones steps).countP Milestone.isUnsubscribed ≤ 1
  /-- It is asked at most once to end the session. -/
  disconnect_once : (milestones steps).countP Milestone.isDisconnect ≤ 1
  /-- Once it has unsubscribed it is not asked to do so again. -/
  not_asked_again : (milestones steps).Pairwise fun earlier later =>
    earlier.isUnsubscribed → later.isUnsubscribe = false
  /-- A handler is drained when no message is being handled and none will be. -/
  drained : ∀ q, (q, .drained) ∈ steps → q.sender = false ∧ q.inFlight = 0
  /-- If a call has returned without an error, some call has gone all the way, and nothing is being
      handled. -/
  returned : ∀ call : Nat, s.returns[call]? = some (some (.ok ())) →
    s.inFlight = 0 ∧ ∃ winner, (course winner).Sublist (milestones steps)
  /-- Calls that are made after one has returned without an error have no effect and return. -/
  late : ∀ (pre post : List (State × Action)) (r : State) (first : Nat),
    steps = pre ++ (r, .close) :: post → r.returns[first]? = some (some (.ok ())) →
    LateCall r post s

/-- However many calls close a handler, at whatever time, and however often the transport refuses,
    the handler is closed once: the transport unsubscribes once and is asked once to end the
    session, all calls that return without an error do so when that has been done, and those that
    come later return without doing anything. -/
theorem closes_once (h : Run State.step? {} steps s) : ClosedOnce steps s := by
  have hpassed := passed_of_run h
  constructor
  case unsubscribed_once =>
    exact hpassed.countP_le_one (by simp [refusal, Milestone.isUnsubscribed]) fun _ => Nat.le_refl _
  case disconnect_once =>
    exact hpassed.countP_le_one (by simp [refusal, Milestone.isDisconnect]) fun _ => Nat.le_refl _
  case not_asked_again => exact hpassed.not_asked_again
  case drained =>
    intro q hmem
    obtain ⟨before, after, rfl⟩ := List.append_of_mem hmem
    obtain ⟨hbefore, u, now, -⟩ := h.split_at
    cases State.step_cases now with
    | drained hclosing hdone => exact ⟨(orderly_of_run hbefore).shut _ (.inl hclosing), hdone⟩
  case returned =>
    intro call hreturned
    have hquiet := quiet_of_returned h hreturned
    exact ⟨hquiet.inFlight, hpassed.course_of_quiet hquiet⟩
  case late =>
    rintro pre post r first rfl hreturned
    obtain ⟨hpre, u, now, hpost⟩ := h.split_at
    exact (quiet_of_returned hpre hreturned).lateCall (inTurn_of_run hpre)
      ((Run.single now).append hpost)

/-! ### An example -/

/-- A message arrives. One call is refused by the transport. Two more are made at the same time; the
    first of them waits until the message has been rejected, and closes the handler. Another call is
    made before the last of the two has got its turn. -/
def closedBySecond : List Action :=
  [.dispatch (.message "" []), .close, .enter, .unsubscribeReply (.error (.injected "refused")),
    .close, .close, .enter, .unsubscribeReply (.ok ()), .mark, .detach, .judge 0, .drained,
    .disconnectReply (.ok ()), .close, .enter, .enter]

theorem closes_once_bySecond :
    ∃ steps s, Run State.step? {} steps s ∧
      milestones steps = refusal 0 ++ course 1 ∧
      s.returns = [some (.error (.unsubscribe commandFilter (.injected "refused"))),
        some (.ok ()), some (.ok ()), some (.ok ())] ∧
      ∃ pre r post, steps = pre ++ (r, .close) :: post ∧ r.returns[1]? = some (some (.ok ())) ∧
        r.turns = [2] ∧ turnsTaken post = 2 ∧ LateCall r post s := by
  have hcomputed : (Run.steps? State.step? {} closedBySecond).map (fun run =>
      (milestones run.1, run.2.returns, turnsTaken (run.1.drop 14),
        run.1[13]?.map fun p => (p.2, p.1.returns[1]?, p.1.turns))) =
      some (refusal 0 ++ course 1,
        [some (.error (.unsubscribe commandFilter (.injected "refused"))),
          some (.ok ()), some (.ok ()), some (.ok ())], 2,
        some (.close, some (some (.ok ())), [2])) := rfl
  obtain ⟨⟨steps, s⟩, hrun, hfacts⟩ := Option.map_eq_some_iff.mp hcomputed
  simp only [Prod.mk.injEq, Option.map_eq_some_iff] at hfacts
  obtain ⟨hmilestones, hreturns, htaken, ⟨r, a⟩, hlast, rfl, hreturned, hturns⟩ := hfacts
  obtain ⟨hlt, hget⟩ := List.getElem?_eq_some_iff.mp hlast
  have hsplit : steps = steps.take 13 ++ (r, .close) :: steps.drop 14 := by
    rw [← hget, List.getElem_cons_drop, List.take_append_drop]
  exact ⟨steps, s, Run.of_steps? hrun, hmilestones, hreturns, _, r, _, hsplit, hreturned, hturns,
    htaken, (closes_once (Run.of_steps? hrun)).late _ _ r 1 hsplit hreturned⟩

end LoraBridge.Handler
