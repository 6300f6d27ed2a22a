import LoraBridge.Proofs.Handler.Shutdown

/-! # Loops that subscribe

  A loop looks whether the handler has unsubscribed, and asks the transport to subscribe in a
  later step. Once it has been noted that the handler has unsubscribed, no loop passes that look
  any more. What is left are the loops that had passed it before.

  - `State.calling`, `State.attempting`: the loops past their look, and those of them whose question
    is still to come.
  - `State.Step.dwindle`: once the handler has unsubscribed, these only become fewer, by asking and
    by being answered.
  - `unsubscribed_of_returned`: a handler that is closed has unsubscribed.
-/

namespace LoraBridge.Handler

variable {s s' : State} {a : Action} {es : List Entry} {steps more : List (State × Action)}
  {number call : Nat} {loop : Loop}

/-! ### Numbers of loops -/

/-- Loops have different numbers, and those of later loops are still to be given out. -/
structure State.LoopsNumbered (s : State) : Prop where
  nodup : (s.loops.map (·.number)).Nodup
  lt_next : ∀ n ∈ s.loops.map (·.number), n < s.nextLoop

theorem map_number_setLoop (s : State) (number : Nat) (phase : LoopPhase) :
    (s.setLoop number phase).loops.map (·.number) = s.loops.map (·.number) := by
  simp only [State.setLoop, List.map_map]
  apply List.map_congr_left
  intro loop _
  by_cases h : loop.number = number <;> simp [h]

theorem State.LoopsNumbered.endLoop (hn : s.LoopsNumbered) (number : Nat) :
    (s.endLoop number).LoopsNumbered := by
  have hsub : ((s.endLoop number).loops.map (·.number)).Sublist (s.loops.map (·.number)) :=
    List.filter_sublist.map _
  exact ⟨hn.nodup.sublist hsub, fun n hmem => hn.lt_next n (hsub.subset hmem)⟩

theorem State.LoopsNumbered.setLoop (hn : s.LoopsNumbered) (number : Nat) (phase : LoopPhase) :
    (s.setLoop number phase).LoopsNumbered := by
  have hsame := map_number_setLoop s number phase
  exact ⟨hsame ▸ hn.nodup, fun n hmem => hn.lt_next n (hsame ▸ hmem)⟩

/-- No step gives a number twice. -/
theorem State.Step.loopsNumbered (h : s.Step a es s') (hn : s.LoopsNumbered) :
    s'.LoopsNumbered := by
  cases h with
  | connected =>
    have hnew : s.nextLoop ∉ s.loops.map (·.number) :=
      fun hmem => Nat.lt_irrefl _ (hn.lt_next _ hmem)
    have hperm : ((s.loops ++ [({ number := s.nextLoop } : Loop)]).map Loop.number).Perm
        (s.nextLoop :: s.loops.map Loop.number) := by
      rw [List.map_append]
      exact List.perm_append_singleton _ _
    refine ⟨hperm.nodup_iff.mpr (List.nodup_cons.mpr ⟨hnew, hn.nodup⟩), ?_⟩
    intro n hmem
    rcases List.mem_cons.mp (hperm.mem_iff.mp hmem) with rfl | hmem
    · exact Nat.lt_succ_self _
    · exact Nat.lt_succ_of_lt (hn.lt_next n hmem)
  | giveUp hloop | subscribed hloop => exact hn.endLoop _
  | goOn hloop | subscribe hloop | notSubscribed hloop | wake hloop => exact hn.setLoop _ _
  | _ => exact ⟨hn.nodup, hn.lt_next⟩

theorem loopsNumbered_of_run (h : Run State.step? {} steps s) : s.LoopsNumbered :=
  h.invariant ⟨by simp, by simp⟩ fun hn now => (State.step_cases now).loopsNumbered hn

/-! ### Loops past their look -/

/-- The number of a loop that is about to ask. -/
def Loop.calling? (loop : Loop) : Option Nat :=
  if loop.phase = .calling then some loop.number else none

/-- The number of a loop that is about to ask, or has asked and is not answered yet. -/
def Loop.attempting? (loop : Loop) : Option Nat :=
  if loop.phase = .calling ∨ loop.phase = .waiting then some loop.number else none

/-- The loops that are about to ask the transport to subscribe. -/
def State.calling (s : State) : List Nat := s.loops.filterMap Loop.calling?

/-- The loops that are about to ask, or wait for the answer. -/
def State.attempting (s : State) : List Nat := s.loops.filterMap Loop.attempting?

/-- The loop that asks the transport to subscribe. -/
def Action.subscribes? : Action → Option Nat
  | .subscribe number => some number
  | _ => none

/-- The loop that is answered. -/
def Action.answers? : Action → Option Nat
  | .subscribeReply number _ => some number
  | _ => none

/-- The loops that have asked the transport to subscribe, in order. -/
def subscribing (steps : List (State × Action)) : List Nat :=
  steps.filterMap fun p => p.2.subscribes?

/-- The loops that were answered, in order. -/
def answered (steps : List (State × Action)) : List Nat :=
  steps.filterMap fun p => p.2.answers?

/-- What is read off the loops, when one of them ends. -/
theorem State.LoopsNumbered.endLoop_perm (hn : s.LoopsNumbered) (hloop : s.loop? number = some loop)
    (f : Loop → Option Nat) : (s.loops.filterMap f).Perm
      ((f loop).toList ++ (s.endLoop number).loops.filterMap f) :=
  (filterMap_of_find? Loop.number hn.nodup hloop f).1

/-- What is read off the loops, when one of them goes on. -/
theorem State.LoopsNumbered.setLoop_perm (hn : s.LoopsNumbered) (hloop : s.loop? number = some loop)
    (phase : LoopPhase) (f : Loop → Option Nat) : ((s.setLoop number phase).loops.filterMap f).Perm
      ((f { loop with phase }).toList ++ (s.endLoop number).loops.filterMap f) :=
  (filterMap_of_find? Loop.number hn.nodup hloop f).2 fun loop => { loop with phase }

/-- A loop that goes on from one phase to another changes nothing about what is the same of both. -/
theorem State.LoopsNumbered.setLoop_perm_same (hn : s.LoopsNumbered)
    (hloop : s.loop? number = some loop) (phase : LoopPhase) (f : Loop → Option Nat)
    (hsame : f { loop with phase } = f loop) :
    ((s.setLoop number phase).loops.filterMap f).Perm (s.loops.filterMap f) := by
  have hset := hn.setLoop_perm hloop phase f
  rw [hsame] at hset
  exact hset.trans (hn.endLoop_perm hloop f).symm

theorem number_of_loop? (h : s.loop? number = some loop) : loop.number = number := by
  simpa using List.find?_some h

/-- Once the handler has unsubscribed, the loops past their look only become fewer: each of them
    asks once at most, and is answered once at most. -/
theorem State.Step.dwindle (h : s.Step a es s') (hn : s.LoopsNumbered)
    (hunsubscribed : s.unsubscribed = true) :
    s'.unsubscribed = true ∧ (a.subscribes?.toList ++ s'.calling).Perm s.calling ∧
      (a.answers?.toList ++ s'.attempting).Perm s.attempting := by
  cases h with
  | connected =>
    -- a new loop has not looked yet
    have hcalling : State.calling { s with
        loops := s.loops ++ [{ number := s.nextLoop }], nextLoop := s.nextLoop + 1 } =
        s.calling := by
      simp [State.calling, Loop.calling?]
    have hattempting : State.attempting { s with
        loops := s.loops ++ [{ number := s.nextLoop }], nextLoop := s.nextLoop + 1 } =
        s.attempting := by
      simp [State.attempting, Loop.attempting?]
    exact ⟨hunsubscribed, hcalling ▸ .refl _, hattempting ▸ .refl _⟩
  | @giveUp number loop hloop hphase hnoted =>
    have hnone : loop.calling? = none := by simp [Loop.calling?, hphase]
    have hnone' : loop.attempting? = none := by simp [Loop.attempting?, hphase]
    have hcalling := hn.endLoop_perm hloop Loop.calling?
    have hattempting := hn.endLoop_perm hloop Loop.attempting?
    rw [hnone] at hcalling
    rw [hnone'] at hattempting
    exact ⟨hunsubscribed, hcalling.symm, hattempting.symm⟩
  | goOn hloop hphase hnoted => simp [hunsubscribed] at hnoted
  | @subscribe number loop hloop hphase =>
    have hbefore : loop.calling? = some number := by
      simp [Loop.calling?, hphase, number_of_loop? hloop]
    have hafter : Loop.calling? { loop with phase := .waiting } = none := by simp [Loop.calling?]
    have hcalling := hn.endLoop_perm hloop Loop.calling?
    have hcalling' := hn.setLoop_perm hloop .waiting Loop.calling?
    rw [hbefore] at hcalling
    rw [hafter] at hcalling'
    refine ⟨hunsubscribed, (hcalling'.cons number).trans hcalling.symm, ?_⟩
    exact hn.setLoop_perm_same hloop .waiting Loop.attempting? (by simp [Loop.attempting?, hphase])
  | @subscribed number loop hloop hphase =>
    have hnone : loop.calling? = none := by simp [Loop.calling?, hphase]
    have hsome : loop.attempting? = some number := by
      simp [Loop.attempting?, hphase, number_of_loop? hloop]
    have hcalling := hn.endLoop_perm hloop Loop.calling?
    have hattempting := hn.endLoop_perm hloop Loop.attempting?
    rw [hnone] at hcalling
    rw [hsome] at hattempting
    exact ⟨hunsubscribed, hcalling.symm, hattempting.symm⟩
  | @notSubscribed number loop e hloop hphase =>
    have hbefore : loop.attempting? = some number := by
      simp [Loop.attempting?, hphase, number_of_loop? hloop]
    have hafter : Loop.attempting? { loop with phase := .pausing } = none := by
      simp [Loop.attempting?]
    have hattempting := hn.endLoop_perm hloop Loop.attempting?
    have hattempting' := hn.setLoop_perm hloop .pausing Loop.attempting?
    rw [hbefore] at hattempting
    rw [hafter] at hattempting'
    refine ⟨hunsubscribed, ?_, (hattempting'.cons number).trans hattempting.symm⟩
    exact hn.setLoop_perm_same hloop .pausing Loop.calling? (by simp [Loop.calling?, hphase])
  | @wake number loop hloop hphase =>
    refine ⟨hunsubscribed, ?_, ?_⟩
    · exact hn.setLoop_perm_same hloop .checking Loop.calling? (by simp [Loop.calling?, hphase])
    · exact hn.setLoop_perm_same hloop .checking Loop.attempting?
        (by simp [Loop.attempting?, hphase])
  | mark hclosing => exact ⟨rfl, .refl _, .refl _⟩
  | _ => exact ⟨hunsubscribed, .refl _, .refl _⟩

/-- The loops that ask after the handler has unsubscribed are those that were about to, and the
    loops that are answered are those that were about to ask or waited. -/
theorem dwindle_of_run (h : Run State.step? s more s') (hn : s.LoopsNumbered)
    (hunsubscribed : s.unsubscribed = true) :
    (subscribing more ++ s'.calling).Perm s.calling ∧
      (answered more ++ s'.attempting).Perm s.attempting := by
  have hall : (s'.LoopsNumbered ∧ s'.unsubscribed = true) ∧
      (subscribing more ++ s'.calling).Perm s.calling ∧
      (answered more ++ s'.attempting).Perm s.attempting := by
    induction h with
    | refl => exact ⟨⟨hn, hunsubscribed⟩, .refl _, .refl _⟩
    | @step more r a t _ now ih =>
      obtain ⟨⟨hn, hunsubscribed⟩, hcalls, hanswers⟩ := ih
      have hcase := State.step_cases now
      obtain ⟨hunsubscribed, hcall, hanswer⟩ := hcase.dwindle hn hunsubscribed
      have hmore : subscribing (more ++ [(r, a)]) = subscribing more ++ a.subscribes?.toList := by
        cases ha : a.subscribes? <;> simp [subscribing, ha]
      have hmore' : answered (more ++ [(r, a)]) = answered more ++ a.answers?.toList := by
        cases ha : a.answers? <;> simp [answered, ha]
      refine ⟨⟨hcase.loopsNumbered hn, hunsubscribed⟩, ?_, ?_⟩
      · rw [hmore, List.append_assoc]
        exact (hcall.append_left _).trans hcalls
      · rw [hmore', List.append_assoc]
        exact (hanswer.append_left _).trans hanswers
  exact hall.2

/-! ### The note that the handler has unsubscribed -/

/-- A call notes that the handler has unsubscribed before it goes on. -/
structure State.Noted (s : State) : Prop where
  unsubscribed : ∀ call closing, s.closing? = some (call, closing) →
    closing = .unsubscribing ∨ closing = .marking ∨ s.unsubscribed = true
  closed : s.closed = true → s.unsubscribed = true

theorem State.Step.noted (h : s.Step a es s') (hs : s.Noted) : s'.Noted := by
  cases h with
  | mark hclosing => exact ⟨fun _ _ _ => .inr (.inr rfl), fun _ => rfl⟩
  | enterClosed hfree hturns hclosed => exact ⟨by simp [State.finish], hs.closed⟩
  | enter hfree hturns hopen =>
    refine ⟨?_, hs.closed⟩
    rintro call closing h
    obtain ⟨-, rfl⟩ := Prod.mk.inj (Option.some.inj h)
    exact .inl rfl
  | unsubscribed hclosing =>
    refine ⟨?_, hs.closed⟩
    rintro call closing h
    obtain ⟨-, rfl⟩ := Prod.mk.inj (Option.some.inj h)
    exact .inr (.inl rfl)
  | notUnsubscribed hclosing => exact ⟨by simp [State.finish], hs.closed⟩
  | detach hclosing | drained hclosing =>
    have hnoted : s.unsubscribed = true := by simpa using hs.unsubscribed _ _ hclosing
    exact ⟨fun _ _ _ => .inr (.inr hnoted), fun _ => hnoted⟩
  | disconnected hclosing =>
    have hnoted : s.unsubscribed = true := by simpa using hs.unsubscribed _ _ hclosing
    exact ⟨by simp [State.finish], fun _ => hnoted⟩
  | _ => exact ⟨hs.unsubscribed, hs.closed⟩

/-- Once a call has returned without an error, it has been noted that the handler has
    unsubscribed. -/
theorem unsubscribed_of_returned (h : Run State.step? {} steps s)
    (hreturned : s.returns[call]? = some (some (.ok ()))) : s.unsubscribed = true := by
  have hnoted : s.Noted :=
    h.invariant ⟨by simp, by simp⟩ fun hs now => (State.step_cases now).noted hs
  exact hnoted.closed (quiet_of_returned h hreturned).closed

/-- A call is about to note that the handler has unsubscribed if it was, or has just been told. -/
theorem State.Step.marking (h : s.Step a es s') (hmarking : s'.closing? = some (call, .marking)) :
    s.closing? = some (call, .marking) ∨ a = .unsubscribeReply (.ok ()) := by
  cases h with
  | unsubscribed hclosing => exact .inr rfl
  | enterClosed | notUnsubscribed | disconnected => simp [State.finish] at hmarking
  | enter | mark | detach | drained => simp at hmarking
  | _ => exact .inl hmarking

/-- It is noted only by a call that is about to. -/
theorem State.Step.eq_mark (h : s.Step a es s') (hbefore : s.unsubscribed = false)
    (hafter : s'.unsubscribed = true) : a = .mark ∧ ∃ call, s.closing? = some (call, .marking) := by
  cases h with
  | mark hclosing => exact ⟨rfl, _, hclosing⟩
  | _ => exact absurd hafter (by simp [State.finish, State.endTask, State.setTask, State.endLoop,
      State.setLoop, hbefore])

end LoraBridge.Handler
