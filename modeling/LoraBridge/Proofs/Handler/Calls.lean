import LoraBridge.Proofs.Handler.Record

/-! # Calls that take turns

  Calls that close the handler wait in the order in which they were made, and one of them at a time
  goes through the phases of closing.

  - `State.caller?`: the call that a step belongs to.
  - `State.InTurn`: calls that wait and the call whose turn it is have not returned, and are all
    different.
  - `State.Step.returned_stays`: what a call has returned is never changed.
  - `State.Doomed`: some calls have not come to anything, and will not if they have not in the end.
-/

namespace LoraBridge.Handler

variable {s s' : State} {a : Action} {es : List Entry} {steps : List (State × Action)}
  {call : Nat} {closing : Closing} {result : Except Error Unit} {gone : Nat → Bool}

/-! ### Turns -/

/-- The call that an action belongs to, if it belongs to one. -/
def State.caller? (s : State) : Action → Option Nat
  | .close => some s.returns.length
  | .enter => s.turns.head?
  | .unsubscribeReply _ => s.closing?.map Prod.fst
  | .mark => s.closing?.map Prod.fst
  | .detach => s.closing?.map Prod.fst
  | .drained => s.closing?.map Prod.fst
  | .disconnectReply _ => s.closing?.map Prod.fst
  | _ => none

/-- Nobody waits who has returned, and nobody waits twice. -/
structure State.InTurn (s : State) : Prop where
  waiting : ∀ call ∈ s.turns, s.returns[call]? = some none
  nodup : s.turns.Nodup
  closing : ∀ call closing, s.closing? = some (call, closing) →
    s.returns[call]? = some none ∧ call ∉ s.turns

theorem State.InTurn.start : State.InTurn {} := ⟨by simp, by simp, by simp⟩

/-- A call that returns is nothing to another one. -/
theorem returns_finish_of_ne {other : Nat} (h : call ≠ other) :
    (s.finish call result).returns[other]? = s.returns[other]? :=
  List.getElem?_set_ne h

/-- The call whose turn it is may go on. -/
theorem State.InTurn.goOn (hs : s.InTurn) {before : Closing}
    (hclosing : s.closing? = some (call, before)) (hreturns : s'.returns = s.returns)
    (hturns : s'.turns = s.turns) (hafter : s'.closing? = some (call, closing)) : s'.InTurn := by
  refine ⟨?_, hturns ▸ hs.nodup, ?_⟩
  · rw [hturns, hreturns]
    exact hs.waiting
  · intro other closing' h
    obtain ⟨rfl, -⟩ := Prod.mk.inj (Option.some.inj (hafter.symm.trans h))
    rw [hturns, hreturns]
    exact hs.closing _ _ hclosing

/-- It may return, too. -/
theorem State.InTurn.finish (hs : s.InTurn) (hclosing : s.closing? = some (call, closing))
    (result : Except Error Unit) : (s.finish call result).InTurn := by
  obtain ⟨-, hnew⟩ := hs.closing call closing hclosing
  refine ⟨?_, hs.nodup, by simp [State.finish]⟩
  intro other hother
  have hne : call ≠ other := fun heq => hnew (heq ▸ hother)
  rw [returns_finish_of_ne hne]
  exact hs.waiting other hother

theorem State.Step.inTurn (h : s.Step a es s') (hs : s.InTurn) : s'.InTurn := by
  cases h with
  | close =>
    -- the new call is the last one, and has not returned
    have hold (other : Nat) (h : s.returns[other]? = some none) :
        (s.returns ++ [none])[other]? = some none := by
      rwa [List.getElem?_append_left (List.getElem?_eq_some_iff.mp h).1]
    have hfresh : s.returns.length ∉ s.turns := by
      intro hmem
      simpa using hs.waiting _ hmem
    refine ⟨?_, ?_, ?_⟩
    · intro other hother
      rcases List.mem_append.mp hother with hother | hother
      · exact hold other (hs.waiting other hother)
      · obtain rfl := List.mem_singleton.mp hother
        simp
    · exact (List.perm_append_singleton _ _).nodup_iff.mpr (List.nodup_cons.mpr ⟨hfresh, hs.nodup⟩)
    · intro other closing hclosing
      obtain ⟨hwaits, hnew⟩ := hs.closing other closing hclosing
      refine ⟨hold other hwaits, ?_⟩
      rw [List.mem_append, List.mem_singleton, not_or]
      refine ⟨hnew, ?_⟩
      rintro rfl
      simp at hwaits
  | @enter call turns hfree hturns hopen =>
    have hnodup := hs.nodup
    rw [hturns, List.nodup_cons] at hnodup
    refine ⟨fun other hother => hs.waiting other ?_, hnodup.2, ?_⟩
    · rw [hturns]
      exact List.mem_cons_of_mem call hother
    · intro other closing hclosing
      obtain ⟨rfl, -⟩ := Prod.mk.inj (Option.some.inj hclosing)
      refine ⟨hs.waiting call ?_, hnodup.1⟩
      rw [hturns]
      exact List.mem_cons_self
  | @enterClosed call turns hfree hturns hclosed =>
    have hnodup := hs.nodup
    rw [hturns, List.nodup_cons] at hnodup
    refine ⟨?_, hnodup.2, by simp [State.finish]⟩
    intro other hother
    have hne : call ≠ other := fun heq => hnodup.1 (heq ▸ hother)
    rw [returns_finish_of_ne hne]
    refine hs.waiting other ?_
    rw [hturns]
    exact List.mem_cons_of_mem call hother
  | unsubscribed hclosing | mark hclosing | detach hclosing | drained hclosing =>
    exact hs.goOn hclosing rfl rfl rfl
  | notUnsubscribed hclosing => exact hs.finish hclosing _
  | @disconnected call reply hclosing =>
    have hnoted : State.InTurn { s with closed := true } := ⟨hs.waiting, hs.nodup, hs.closing⟩
    exact hnoted.finish hclosing _
  | _ => exact ⟨hs.waiting, hs.nodup, hs.closing⟩

theorem inTurn_of_run (h : Run State.step? {} steps s) : s.InTurn :=
  h.invariant State.InTurn.start fun hs now => (State.step_cases now).inTurn hs

/-! ### What calls have returned -/

/-- What a call has returned stays, since only calls that have not returned do. -/
theorem State.Step.returned_stays (h : s.Step a es s') (hs : s.InTurn)
    (hreturned : s.returns[call]? = some (some result)) :
    s'.returns[call]? = some (some result) := by
  have hstays (other : Nat) (answer : Except Error Unit) (hwaits : s.returns[other]? = some none) :
      (s.returns.set other (some answer))[call]? = some (some result) := by
    have hne : other ≠ call := by
      rintro rfl
      simp [hwaits] at hreturned
    rw [List.getElem?_set_ne hne]
    exact hreturned
  cases h with
  | close =>
    show (s.returns ++ [none])[call]? = some (some result)
    rwa [List.getElem?_append_left (List.getElem?_eq_some_iff.mp hreturned).1]
  | @enterClosed other turns hfree hturns hclosed =>
    exact hstays other _ (hs.waiting other (by simp [hturns]))
  | notUnsubscribed hclosing => exact hstays _ _ (hs.closing _ _ hclosing).1
  | disconnected hclosing => exact hstays _ _ (hs.closing _ _ hclosing).1
  | _ => exact hreturned

/-! ### Calls that come to nothing -/

/-- Calls that have not closed the handler, and have not come as far as to be told that it is
    unsubscribed. -/
structure State.Doomed (s : State) (gone : Nat → Bool) : Prop where
  returns : ∀ call, gone call = true → s.returns[call]? ≠ some (some (.ok ()))
  closing : ∀ call closing, gone call = true → s.closing? = some (call, closing) →
    closing = .unsubscribing

/-- Calls that have failed did not come any further. -/
theorem State.InTurn.doomed (hs : s.InTurn)
    (hfailed : ∀ call, gone call = true → ∃ e, s.returns[call]? = some (some (.error e))) :
    s.Doomed gone := by
  constructor
  · intro call hgone h
    obtain ⟨e, herror⟩ := hfailed call hgone
    simp [herror] at h
  · intro call closing hgone hclosing
    obtain ⟨e, herror⟩ := hfailed call hgone
    have hwaits := (hs.closing call closing hclosing).1
    simp [herror] at hwaits

/-- A call that has been told that it is unsubscribed goes on until it has closed the handler, so
    calls that have not come so far in the end had not before. -/
theorem State.Step.doomed (h : s.Step a es s') (hs : s.InTurn) (hafter : s'.Doomed gone) :
    s.Doomed gone := by
  constructor
  · intro call hgone hreturned
    exact hafter.returns call hgone (h.returned_stays hs hreturned)
  · intro call closing hgone hclosing
    -- what follows the first phase is no option for such a call
    have hon {next : Closing} (hnext : s'.closing? = some (call, next))
        (hne : next ≠ .unsubscribing) : closing = .unsubscribing :=
      absurd (hafter.closing call next hgone hnext) hne
    cases h with
    | unsubscribed h | notUnsubscribed h =>
      rw [h] at hclosing
      exact (Prod.mk.inj (Option.some.inj hclosing)).2.symm
    | mark h | detach h | drained h =>
      rw [h] at hclosing
      obtain ⟨rfl, -⟩ := Prod.mk.inj (Option.some.inj hclosing)
      exact hon rfl (by simp)
    | enter hfree | enterClosed hfree => simp [hfree] at hclosing
    | @disconnected other reply h =>
      have hwaits := (hs.closing _ _ h).1
      rw [h] at hclosing
      obtain ⟨rfl, -⟩ := Prod.mk.inj (Option.some.inj hclosing)
      refine absurd ?_ (hafter.returns other hgone)
      show (s.returns.set other _)[other]? = _
      rw [List.getElem?_set_self (List.getElem?_eq_some_iff.mp hwaits).1]
    | _ => exact hafter.closing call closing hgone hclosing

end LoraBridge.Handler
