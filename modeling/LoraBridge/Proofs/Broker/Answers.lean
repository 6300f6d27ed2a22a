import LoraBridge.Proofs.Broker.Unanswered

/-! # Whose answers calls get

  A call that succeeds or is refused was handed an answer that says so. It was the answer to its own
  packet, unless a call of its kind before it had given up: from that time on the answers to such
  calls go to calls that come later.

  - `Call.Sourced`: what a call was told and what it has returned can be traced to what the broker
    has answered.
  - `answered_by_own_or_abandoned`: whose packet was answered.
  - `answered_by_foreign_packet`: a call that succeeds by the answer to the packet of another one,
    while the broker has refused its own.
-/

namespace LoraBridge.Broker

open Transport (Error)

variable {l l' : Link} {a : Link.Action} {steps : List (Link × Link.Action)} {i j : Nat}
  {call call' other : Call}

/-! ### What calls were told -/

/-- The broker has given an answer, and the loop has handed it to the call with a number. -/
def Handed (steps : List (Link × Link.Action)) (i : Nat) (answer : Answer)
    (result : Except Error Unit) : Prop :=
  ∃ r k d, (r, Link.Action.answer k) ∈ steps ∧ r.owed[k]? = some d ∧ d.answer = answer ∧
    d.result = result ∧ r.client.slot? answer = some i ∧
      ∃ call, r.client.calls[i]? = some call ∧ call.listens = true

theorem Handed.append {answer : Answer} {result : Except Error Unit}
    (h : Handed steps i answer result) (more : List (Link × Link.Action)) :
    Handed (steps ++ more) i answer result := by
  obtain ⟨r, k, d, hmem, hrest⟩ := h
  exact ⟨r, k, d, List.mem_append_left _ hmem, hrest⟩

/-- What a call was told and what it has returned come from answers of the broker, or tell that there
    were none. -/
structure Call.Sourced (steps : List (Link × Link.Action)) (i : Nat) (call : Call) : Prop where
  told : ∀ result, call.answer? = some result →
    result = .error .closed ∨ Handed steps i call.kind.answer result
  returned : ∀ result, call.phase = .returned result →
    result = .error .client ∨ result = .error (.timeout call.kind.answer.name) ∨
      ∃ answer, call.answer? = some answer ∧ result = call.own answer

/-- A call that is new was told nothing. -/
theorem Call.Sourced.new (kind : Call.Kind) (filter : String) :
    Call.Sourced steps i { kind, filter } := by
  constructor <;> simp

/-- A call that listens has not returned. -/
theorem Call.ne_returned (hlistens : call.listens = true) (result : Except Error Unit) :
    call.phase ≠ .returned result := by
  rcases (Call.listens_iff.mp hlistens).1 with hphase | hphase <;> simp [hphase]

/-- What a step does to a call can be traced to that step. -/
theorem Call.Evolves.sourced (h : Call.Evolves l i a call call')
    (hs : l.client.Orderly) (hcall : l.client.calls[i]? = some call)
    (hsourced : call.Sourced steps i) : call'.Sourced (steps ++ [(l, a)]) i := by
  have htold : ∀ result, call.answer? = some result →
      result = .error .closed ∨ Handed (steps ++ [(l, a)]) i call.kind.answer result :=
    fun result hanswer => (hsourced.told result hanswer).imp_right (·.append _)
  cases h with
  | same => exact ⟨htold, hsourced.returned⟩
  | enter | request | fail | expire => exact ⟨htold, by simp⟩
  | clearFailed =>
    refine ⟨htold, ?_⟩
    intro result hphase
    obtain rfl := Call.Phase.returned.inj hphase
    exact .inl rfl
  | clearExpired =>
    refine ⟨htold, ?_⟩
    intro result hphase
    obtain rfl := Call.Phase.returned.inj hphase
    exact .inr (.inl rfl)
  | finish hphase hanswer =>
    refine ⟨htold, ?_⟩
    intro result hphase
    obtain rfl := Call.Phase.returned.inj hphase
    exact .inr (.inr ⟨_, hanswer, rfl⟩)
  | @hand _ k d hdebt hslot hlistens =>
    refine ⟨?_, fun result hreturned => absurd hreturned (Call.ne_returned hlistens result)⟩
    intro result hanswer
    obtain rfl := Option.some.inj hanswer
    have hkind := (hs.of_slot hslot hcall).1
    refine .inr ⟨l, k, d, by simp, hdebt, hkind.symm, rfl, ?_, call, hcall, hlistens⟩
    dsimp only
    rwa [hkind]
  | lost hslot hlistens =>
    refine ⟨?_, fun result hreturned => absurd hreturned (Call.ne_returned hlistens result)⟩
    intro result hanswer
    obtain rfl := Option.some.inj hanswer
    exact .inl rfl

/-! ### What holds in every run -/

/-- What every step preserves: nothing is left to look at, calls take turns, and of each kind there is
    at most one unanswered request, unless a call of the kind has given up. -/
structure Link.Sound (l : Link) : Prop where
  delayed : l.client.delayed = []
  orderly : l.client.Orderly
  tight : ∀ answer, l.Abandoned answer ∨ l.Tight answer

theorem Link.Sound.step (hl : l.Sound) (now : l.step? a = some l') : l'.Sound := by
  obtain ⟨hstep, hdelayed⟩ := Link.step_cases hl.delayed now
  refine ⟨hdelayed, hstep.orderly hl.orderly, fun answer => ?_⟩
  rcases hl.tight answer with habandoned | htight
  · exact .inl (hstep.abandoned habandoned)
  · exact hstep.tight hl.orderly htight

theorem Link.sound_of_run (h : Run Link.step? {} steps l) : l.Sound :=
  h.invariant ⟨rfl, .start, fun answer => .inr (.start answer)⟩ Link.Sound.step

theorem Link.sourced_of_run (h : Run Link.step? {} steps l)
    (hcall : l.client.calls[i]? = some call) : call.Sourced steps i := by
  induction h generalizing call with
  | refl => simp at hcall
  | @step steps l a l' before now ih =>
    have hl := Link.sound_of_run before
    rcases (Link.step_cases hl.delayed now).1.evolves hcall with
      ⟨-, kind, filter, rfl⟩ | ⟨call', hcall', hevolves⟩
    · exact .new kind filter
    · exact hevolves.sourced hl.orderly hcall' (ih hcall')

/-- A call that has returned is left alone from then on. -/
theorem Link.returned_of_run (hl : l.Sound) (hcall : l.client.calls[i]? = some call)
    (hreturned : call.hasReturned = true) (h : Run Link.step? l steps l') :
    l'.client.calls[i]? = some call := by
  have hkept : l'.Sound ∧ l'.client.calls[i]? = some call := by
    refine h.invariant (I := fun l => l.Sound ∧ l.client.calls[i]? = some call) ⟨hl, hcall⟩ ?_
    rintro l a l' ⟨hl, hcall⟩ now
    obtain ⟨call', hcall', hevolves⟩ :=
      (Link.step_cases hl.delayed now).1.exists_evolves hcall
    rw [hevolves.eq_of_returned hreturned] at hcall'
    exact ⟨hl.step now, hcall'⟩
  exact hkept.2

/-- While a call listens, whoever of its kind has given up came before it and has returned. -/
theorem Client.Orderly.returned_of_gaveUp {c : Client} (hs : c.Orderly)
    (hcall : c.calls[i]? = some call) (hlistens : call.listens = true)
    (hother : c.calls[j]? = some other) (hkind : other.kind.answer = call.kind.answer)
    (hgave : other.GaveUp) : j < i ∧ other.hasReturned = true := by
  obtain ⟨hphase, hanswer⟩ := Call.listens_iff.mp hlistens
  have hactive : call.isActive = true := by
    rcases hphase with h | h <;> exact Call.isActive_of h rfl
  -- it is not the listening call itself
  have hne : i ≠ j := by
    rintro rfl
    obtain rfl := Option.some.inj (hcall.symm.trans hother)
    cases hgave with
    | lost _ hclosed => simp [hanswer] at hclosed
    | expired h | timeout _ h | closed h => simp [h] at hphase
  have hreturned : other.hasReturned = true := by
    cases hgave with
    | timeout _ h | closed h => exact Call.hasReturned_iff.mpr ⟨_, h⟩
    | expired h | lost h _ =>
      exact absurd (hs.unique hcall hother hkind hactive (Call.isActive_of h rfl)) hne
  refine ⟨?_, hreturned⟩
  by_contra hle
  have hstarted : other.phase ≠ .waiting := by
    intro h
    simp [Call.hasReturned_iff, h] at hreturned
  have := hs.turn j i other call (by omega) hother hcall hkind.symm hstarted
  exact absurd this (by simp [(Call.isActive_iff.mp hactive).2])

/-! ### The answers -/

/-- A call that succeeds or is refused was handed an answer of its kind that says so. The answer was
    to its own packet, or a call of its kind before it had returned without an answer. -/
theorem answered_by_own_or_abandoned {result : Except Error Unit}
    (h : Run Link.step? {} steps l) (hcall : l.client.calls[i]? = some call)
    (hreturned : call.phase = .returned result)
    (hanswered : result = .ok () ∨ ∃ filter, result = .error (.subscribeRefused filter)) :
    ∃ r k d, (r, Link.Action.answer k) ∈ steps ∧ r.owed[k]? = some d ∧
      d.answer = call.kind.answer ∧ r.client.slot? d.answer = some i ∧
      result = call.own d.result ∧
      (d.call = i ∨ ∃ j other, j < i ∧ r.client.calls[j]? = some other ∧
        l.client.calls[j]? = some other ∧ other.kind.answer = call.kind.answer ∧
        (other.result? = some (.error .closed) ∨
          ∃ packet, other.result? = some (.error (.timeout packet)))) := by
  have hsourced := Link.sourced_of_run h hcall
  -- what it has returned is what it was handed
  obtain ⟨answer, htold, hown⟩ : ∃ answer, call.answer? = some answer ∧ result = call.own answer := by
    rcases hsourced.returned result hreturned with rfl | rfl | hown
    · simp at hanswered
    · simp at hanswered
    · exact hown
  have hhanded : Handed steps i call.kind.answer answer := by
    refine (hsourced.told answer htold).resolve_left ?_
    rintro rfl
    simp [hown, Call.own] at hanswered
  obtain ⟨r, k, d, hmem, hdebt, hanswer, rfl, hslot, found, hfound, hlistens⟩ := hhanded
  refine ⟨r, k, d, hmem, hdebt, hanswer, by rwa [hanswer], hown, ?_⟩
  obtain ⟨pre, post, rfl⟩ := List.append_of_mem hmem
  obtain ⟨hpre, u, now, hpost⟩ := h.split_at
  have hr := Link.sound_of_run hpre
  have hkind := (hr.orderly.of_slot hslot hfound).1
  rcases hr.tight d.answer with ⟨j, other, hother, hsame, hgave⟩ | htight
  · right
    rw [hanswer] at hsame
    obtain ⟨hlt, hdone⟩ :=
      hr.orderly.returned_of_gaveUp hfound hlistens hother (hsame.trans hkind.symm) hgave
    have hlater := Link.returned_of_run hr hother hdone ((Run.single now).append hpost)
    exact ⟨j, other, hlt, hother, hlater, hsame, hgave.result hdone⟩
  · left
    -- the only unanswered request of the kind is that of the call in the slot
    have hasks : (d.answer, d.call) ∈ r.asks := by
      refine List.mem_append_right _ (List.mem_map.mpr ⟨d, List.mem_of_getElem? hdebt, rfl⟩)
    have hcaller := (htight.asks d.call hasks).1
    rw [hanswer, hslot] at hcaller
    exact (Option.some.inj hcaller).symm

/-- A call gives up, and the broker then grants its subscription. By that time the next call has
    made its request, which the broker refuses. -/
def lateAnswer : List Link.Action :=
  [.connect, .own (.call (.subscribe .exactlyOnce) "a"), .own (.enter 0), .own (.request 0),
    .transmit false, .own (.expire 0), .own (.clear 0),
    .own (.call (.subscribe .exactlyOnce) "b"), .own (.enter 1), .own (.request 1),
    .transmit true, .answer 0, .own (.finish 1)]

theorem lateAnswer_facts : (Run.steps? Link.step? {} lateAnswer).map (fun run =>
    (run.2.client.calls, run.2.given, run.2.owed)) =
    some ([⟨.subscribe .exactlyOnce, "a", .returned (.error (.timeout "SUBACK")), none⟩,
        ⟨.subscribe .exactlyOnce, "b", .returned (.ok ()), some (.ok ())⟩],
      [⟨0, 1, .suback, false⟩], [⟨1, 2, .suback, true⟩]) := rfl

theorem answered_by_own_or_abandoned_lateAnswer :
    ∃ steps l call, Run Link.step? {} steps l ∧ l.client.calls[1]? = some call ∧
      call.phase = .returned (.ok ()) ∧
      ∃ r k d, (r, Link.Action.answer k) ∈ steps ∧ r.owed[k]? = some d ∧
        d.answer = call.kind.answer ∧ r.client.slot? d.answer = some 1 ∧
        .ok () = call.own d.result ∧
        (d.call = 1 ∨ ∃ j other, j < 1 ∧ r.client.calls[j]? = some other ∧
          l.client.calls[j]? = some other ∧ other.kind.answer = call.kind.answer ∧
          (other.result? = some (.error .closed) ∨
            ∃ packet, other.result? = some (.error (.timeout packet)))) := by
  obtain ⟨⟨steps, l⟩, hrun, hfacts⟩ := Option.map_eq_some_iff.mp lateAnswer_facts
  obtain ⟨hcalls, -⟩ := Prod.mk.inj hfacts
  have hcall : l.client.calls[1]? =
      some ⟨.subscribe .exactlyOnce, "b", .returned (.ok ()), some (.ok ())⟩ := by
    rw [hcalls]
    rfl
  exact ⟨steps, l, _, Run.of_steps? hrun, hcall, rfl,
    answered_by_own_or_abandoned (Run.of_steps? hrun) hcall rfl (.inl rfl)⟩

/-- A call may succeed by an answer that is not its own: the broker has given one answer, to the
    packet of a call that had given up, and the answer that it still owes to this call is that it
    refuses. -/
theorem answered_by_foreign_packet :
    ∃ steps l call, Run Link.step? {} steps l ∧ l.client.calls[1]? = some call ∧
      call.kind = .subscribe .exactlyOnce ∧ call.phase = .returned (.ok ()) ∧
      l.given.map (·.call) = [0] ∧ l.owed = [⟨1, 2, .suback, true⟩] := by
  obtain ⟨⟨steps, l⟩, hrun, hfacts⟩ := Option.map_eq_some_iff.mp lateAnswer_facts
  simp only [Prod.mk.injEq] at hfacts
  obtain ⟨hcalls, hgiven, howed⟩ := hfacts
  refine ⟨steps, l, _, Run.of_steps? hrun, by rw [hcalls]; rfl, rfl, rfl, ?_, howed⟩
  rw [hgiven]
  rfl

end LoraBridge.Broker
