import LoraBridge.Proofs.Broker.Turns

/-! # Requests that are not answered

  The loop of a client does not look at the number of an answer: it hands the answer to the call in
  the slot of its kind. As calls of a kind take turns, that is the call whose packet was answered,
  as long as every call waits for its answer. But a call may give up, after it has waited too long
  or when the session is lost, and its request is still on its way then.

  - `Call.GaveUp`, `Link.Abandoned`: calls that have given up.
  - `Link.Tight`: at most one request of a kind is not answered, and it is that of the call in the
    slot.
  - `Link.Step.tight`: it stays so until a call of the kind gives up.
-/

namespace LoraBridge.Broker

open Transport (Error)

variable {l l' : Link} {a : Link.Action} {steps : List (Link × Link.Action)} {i j : Nat}
  {call call' other : Call} {answer : Answer}

/-! ### Calls that have given up -/

/-- A call that leaves an unanswered request behind, or is about to. -/
inductive Call.GaveUp (call : Call) : Prop
  | expired (hphase : call.phase = .expired)
  | lost (hphase : call.phase = .pending) (hanswer : call.answer? = some (.error .closed))
  | timeout (packet : String) (hphase : call.phase = .returned (.error (.timeout packet)))
  | closed (hphase : call.phase = .returned (.error .closed))

/-- A call that has given up does not take it back. -/
theorem Call.Evolves.gaveUp (h : Call.Evolves l i a call call') (hgave : call.GaveUp) :
    call'.GaveUp := by
  cases h with
  | same => exact hgave
  | clearExpired hphase => exact .timeout _ rfl
  | finish hphase hanswer =>
    cases hgave with
    | lost hpending hclosed =>
      obtain rfl := Option.some.inj (hanswer.symm.trans hclosed)
      exact .closed rfl
    | expired h | timeout _ h | closed h => simp [h] at hphase
  | hand hdebt hslot hlistens | lost hslot hlistens =>
    obtain ⟨hphase, hanswer⟩ := Call.listens_iff.mp hlistens
    cases hgave with
    | lost hpending hclosed => simp [hanswer] at hclosed
    | expired h | timeout _ h | closed h => simp [h] at hphase
  | expire hphase hanswer =>
    cases hgave with
    | lost hpending hclosed => simp [hanswer] at hclosed
    | expired h | timeout _ h | closed h => simp [h] at hphase
  | enter hphase | request hphase | fail hphase | clearFailed hphase =>
    cases hgave with
    | expired h | lost h _ | timeout _ h | closed h => simp [h] at hphase

/-- A call that has given up and returned says why. -/
theorem Call.GaveUp.result (h : call.GaveUp) (hreturned : call.hasReturned = true) :
    call.result? = some (.error .closed) ∨ ∃ packet, call.result? = some (.error (.timeout packet)) := by
  cases h with
  | expired hphase => simp [hasReturned_iff, hphase] at hreturned
  | lost hphase hanswer => simp [hasReturned_iff, hphase] at hreturned
  | timeout packet hphase => exact .inr ⟨packet, by simp [result?, hphase]⟩
  | closed hphase => exact .inl (by simp [result?, hphase])

/-- Some call that waits for this kind of answer has given up. -/
def Link.Abandoned (l : Link) (answer : Answer) : Prop :=
  ∃ (i : Nat) (call : Call), l.client.calls[i]? = some call ∧ call.kind.answer = answer ∧
    call.GaveUp

theorem Link.Step.abandoned (h : l.Step a l') (hl : l.Abandoned answer) : l'.Abandoned answer := by
  obtain ⟨i, call, hcall, hkind, hgave⟩ := hl
  obtain ⟨call', hcall', hevolves⟩ := h.exists_evolves hcall
  exact ⟨i, call', hcall', by rw [hevolves.kind, hkind], hevolves.gaveUp hgave⟩

/-! ### While nobody has given up -/

/-- At most one request for this kind of answer is not answered, and it is that of the call in the
    slot. -/
structure Link.Tight (l : Link) (answer : Answer) : Prop where
  /-- There is none when the next one is made. -/
  requesting : ∀ (i : Nat) (call : Call), l.client.calls[i]? = some call →
    call.kind.answer = answer → call.phase = .requesting →
      (∀ u, (answer, u) ∉ l.asks) ∧
        (l.client.slot? answer = some i ∨ call.answer? = some (.error .closed))
  asks : ∀ u, (answer, u) ∈ l.asks → l.client.slot? answer = some u ∧
    ∃ call, l.client.calls[u]? = some call ∧ call.phase = .pending
  single : (l.asks.filter (·.1 = answer)).length ≤ 1

theorem Link.Tight.start (answer : Answer) : Link.Tight {} answer := by
  constructor <;> simp [Link.asks, Outbox.asks]

/-- The requests of a kind that are not answered become no more. -/
def Link.Fewer (l l' : Link) (answer : Answer) : Prop :=
  (∀ u, (answer, u) ∈ l'.asks → (answer, u) ∈ l.asks) ∧
    (l'.asks.filter (·.1 = answer)).length ≤ (l.asks.filter (·.1 = answer)).length

theorem Link.Fewer.of_subperm (h : l'.asks.Subperm l.asks) (answer : Answer) :
    l.Fewer l' answer :=
  ⟨fun _ hmem => h.subset hmem, (h.filter _).length_le⟩

/-- It stays so while the calls of the kind do not change, or only in other phases. -/
theorem Link.Tight.congr (ht : l.Tight answer)
    (hslot : l'.client.slot? answer = l.client.slot? answer) (hasks : l.Fewer l' answer)
    (hrequesting : ∀ (i : Nat) (call : Call), l'.client.calls[i]? = some call →
      call.kind.answer = answer → call.phase = .requesting → l.client.calls[i]? = some call)
    (hpending : ∀ (u : Nat) (call : Call), l.client.slot? answer = some u →
      l.client.calls[u]? = some call → call.phase = .pending →
        l'.client.calls[u]? = some call) :
    l'.Tight answer := by
  constructor
  case requesting =>
    intro i call hcall hkind hphase
    obtain ⟨hnone, hturn⟩ := ht.requesting i call (hrequesting i call hcall hkind hphase) hkind hphase
    exact ⟨fun u hmem => hnone u (hasks.1 u hmem), by rwa [hslot]⟩
  case asks =>
    intro u hmem
    obtain ⟨hu, call, hcall, hphase⟩ := ht.asks u (hasks.1 u hmem)
    exact ⟨hslot.trans hu, call, hpending u call hu hcall hphase, hphase⟩
  case single => exact Nat.le_trans hasks.2 ht.single

theorem Link.filter_asks (hnone : ∀ u, (answer, u) ∉ l.asks) :
    l.asks.filter (·.1 = answer) = [] := by
  rw [List.filter_eq_nil_iff]
  rintro ⟨other, u⟩ hmem hother
  obtain rfl : other = answer := by simpa using hother
  exact hnone u hmem

/-- It is so when there are no such requests and no call is about to make one. -/
theorem Link.Tight.of_none (hnone : ∀ u, (answer, u) ∉ l.asks)
    (hrequesting : ∀ (i : Nat) (call : Call), l.client.calls[i]? = some call →
      call.kind.answer = answer → call.phase = .requesting →
        l.client.slot? answer = some i ∨ call.answer? = some (.error .closed)) :
    l.Tight answer := by
  constructor
  case requesting =>
    intro i call hcall hkind hphase
    exact ⟨hnone, hrequesting i call hcall hkind hphase⟩
  case asks =>
    intro u hmem
    exact absurd hmem (hnone u)
  case single =>
    rw [Link.filter_asks hnone]
    exact Nat.zero_le _

/-- No request of a kind is unanswered while none of its calls waits for an answer. -/
theorem Link.Tight.asks_none (ht : l.Tight answer)
    (hnone : ∀ (u : Nat) (call : Call), l.client.calls[u]? = some call →
      call.kind.answer = answer → call.phase ≠ .pending) (hs : l.client.Orderly) (u : Nat) :
    (answer, u) ∉ l.asks := by
  intro hmem
  obtain ⟨hslot, call, hcall, hphase⟩ := ht.asks u hmem
  exact hnone u call hcall (hs.of_slot hslot hcall).1 hphase

theorem Link.Fewer.of_outbox {c' : Client} (h : c'.outbox = l.client.outbox) (answer : Answer) :
    l.Fewer { l with client := c' } answer := by
  refine .of_subperm ?_ answer
  rw [Link.asks, h]
  exact .refl _

/-- A call goes on to another phase. -/
theorem Link.Tight.setPhase (ht : l.Tight answer) (hs : l.client.Orderly)
    (hcall : l.client.calls[j]? = some call) {phase : Call.Phase} {c' : Client}
    (hcalls : c'.calls = (l.client.setPhase j phase).calls)
    (hslot : c'.slot? answer = l.client.slot? answer)
    (hasks : l.Fewer { l with client := c' } answer)
    (hphase : call.kind.answer = answer → phase ≠ .requesting ∧
      (call.phase = .pending → l.client.slot? answer ≠ some j)) :
    ({ l with client := c' } : Link).Tight answer := by
  refine ht.congr hslot hasks ?_ ?_
  · intro i found hfound hkind hrequesting
    rw [hcalls, Client.calls_setPhase] at hfound
    split at hfound
    · next hji =>
      subst hji
      rw [hcall] at hfound
      obtain rfl := Option.some.inj hfound
      exact absurd hrequesting (hphase hkind).1
    · exact hfound
  · intro u found hu hfound hpending
    rw [hcalls, Client.calls_setPhase, if_neg, hfound]
    rintro rfl
    obtain rfl := Option.some.inj (hfound.symm.trans hcall)
    by_cases hkind : found.kind.answer = answer
    · exact (hphase hkind).2 hpending hu
    · exact hs.ne_of_slot hu hcall (.inr (.inr hkind)) rfl

/-- A call of the kind gets its turn. -/
theorem Link.Tight.enter (ht : l.Tight call.kind.answer) (hs : l.client.Orderly)
    (hcall : l.client.calls[i]? = some call) (hphase : call.phase = .waiting)
    (hturn : l.client.isTurn i call.kind = true) :
    ({ l with client := (l.client.setPhase i .requesting).setSlot call.kind.answer (some i) } :
      Link).Tight call.kind.answer := by
  have hidle {u : Nat} {other : Call} (hother : l.client.calls[u]? = some other)
      (hkind : other.kind.answer = call.kind.answer) : other.isActive = false :=
    hs.idle_of_turn hcall hphase hturn hother hkind
  refine .of_none ?_ ?_
  · intro u hmem
    have hbefore : (call.kind.answer, u) ∈ l.asks :=
      (Fewer.of_outbox (by cases call.kind.answer <;> rfl) call.kind.answer).1 u hmem
    refine ht.asks_none ?_ hs u hbefore
    intro u other hother hkind hpending
    exact absurd (Call.isActive_of hpending rfl) (by simp [hidle hother hkind])
  · intro u other hother hkind hrequesting
    dsimp only at hother
    rw [Client.calls_setSlot, Client.calls_setPhase] at hother
    left
    dsimp only
    rw [Client.slot?_setSlot, if_pos rfl]
    split at hother
    · next hiu => rw [hiu]
    · exact absurd (Call.isActive_of hrequesting rfl) (by simp [hidle hother hkind])

/-- A call of the kind makes its request. -/
theorem Link.Tight.request (ht : l.Tight call.kind.answer) (hs : l.client.Orderly)
    (hcall : l.client.calls[i]? = some call) (hphase : call.phase = .requesting)
    {request : Request} (hasks : request.asks? = some (call.kind.answer, i)) :
    let l' : Link := { l with
      client := { l.client.setPhase i .pending with outbox := l.client.outbox.push request } }
    l'.Abandoned call.kind.answer ∨ l'.Tight call.kind.answer := by
  intro l'
  obtain ⟨hnone, hturn⟩ := ht.requesting i call hcall rfl hphase
  have hcall' : l'.client.calls[i]? = some { call with phase := .pending } :=
    Client.calls_setPhase_self hcall _
  have hperm : l'.asks.Perm ((call.kind.answer, i) :: l.asks) := by
    have hpush : l'.asks = l.client.outbox.asks ++ [(call.kind.answer, i)] ++
        l.owed.map fun d => (d.answer, d.call) := by
      rw [Link.asks]
      show (l.client.outbox.push request).asks ++ _ = _
      rw [Outbox.asks_push, hasks]
      rfl
    rw [hpush, List.append_assoc]
    exact List.perm_middle
  rcases hturn with hslot | hclosed
  · right
    constructor
    case requesting =>
      intro u other hother hkind hrequesting
      -- the only call of the kind that is under way waits for its answer now
      obtain ⟨hne, hbefore⟩ := Client.ne_of_setPhase hother (by simp [hrequesting])
      exact absurd (hs.unique hcall hbefore hkind (Call.isActive_of hphase rfl)
        (Call.isActive_of hrequesting rfl)) hne
    case asks =>
      intro u hmem
      rcases List.mem_cons.mp (hperm.subset hmem) with heq | hmem
      · obtain ⟨-, rfl⟩ := Prod.mk.inj heq
        refine ⟨?_, _, hcall', rfl⟩
        rw [← hslot]
        cases call.kind.answer <;> rfl
      · exact absurd hmem (hnone u)
    case single =>
      rw [(hperm.filter _).length_eq, List.filter_cons, Link.filter_asks hnone]
      simp
  · exact .inl ⟨i, _, hcall', rfl, .lost rfl hclosed⟩

/-- A call of the kind that could not make its request empties the slot. -/
theorem Link.Tight.clear (ht : l.Tight call.kind.answer) (hs : l.client.Orderly)
    (hcall : l.client.calls[i]? = some call) (hphase : call.phase = .failed)
    (result : Except Error Unit) :
    ({ l with
        client := (l.client.setSlot call.kind.answer none).setPhase i (.returned result) } :
      Link).Tight call.kind.answer := by
  have halone {u : Nat} {other : Call} (hother : l.client.calls[u]? = some other)
      (hkind : other.kind.answer = call.kind.answer) (hactive : other.isActive = true) : i = u :=
    hs.unique hcall hother hkind (Call.isActive_of hphase rfl) hactive
  refine .of_none ?_ ?_
  · intro u hmem
    have hbefore : (call.kind.answer, u) ∈ l.asks :=
      (Fewer.of_outbox (by cases call.kind.answer <;> rfl) call.kind.answer).1 u hmem
    refine ht.asks_none ?_ hs u hbefore
    intro u other hother hkind hpending
    obtain rfl := halone hother hkind (Call.isActive_of hpending rfl)
    obtain rfl := Option.some.inj (hcall.symm.trans hother)
    simp [hphase] at hpending
  · intro u other hother hkind hrequesting
    obtain ⟨hne, hbefore⟩ := Client.ne_of_setPhase hother (by simp [hrequesting])
    rw [Client.calls_setSlot] at hbefore
    exact absurd (halone hbefore hkind (Call.isActive_of hrequesting rfl)) hne

/-- Which call has gone on does not depend on the slots. -/
theorem Client.calls_clear (c : Client) (answer : Answer) (i : Nat) (phase : Call.Phase) :
    ((c.setSlot answer none).setPhase i phase).calls = (c.setPhase i phase).calls := by
  cases answer <;> rfl

/-- A call of the other kind empties the slot of its kind. -/
theorem Link.Tight.clear_other (ht : l.Tight answer) (hs : l.client.Orderly)
    (hcall : l.client.calls[i]? = some call) (hkind : call.kind.answer ≠ answer)
    (result : Except Error Unit) :
    ({ l with
        client := (l.client.setSlot call.kind.answer none).setPhase i (.returned result) } :
      Link).Tight answer := by
  refine ht.setPhase hs hcall (Client.calls_clear _ _ _ _) ?_ (.of_outbox ?_ answer)
    (absurd · hkind)
  · rw [Client.slot?_setPhase, Client.slot?_setSlot, if_neg (Ne.symm hkind)]
  · cases call.kind.answer <;> rfl

theorem Client.CallStep.tight {action : Client.Action} {c' : Client}
    (h : l.client.CallStep action c') (hs : l.client.Orderly) (ht : l.Tight answer) :
    ({ l with client := c' } : Link).Abandoned answer ∨
      ({ l with client := c' } : Link).Tight answer := by
  -- a call that gives up is found among the calls after the step
  have gaveUp {i : Nat} {call : Call} {phase : Call.Phase} {c : Client}
      (hcall : l.client.calls[i]? = some call) (hkind : call.kind.answer = answer)
      (hcalls : c.calls = (l.client.setPhase i phase).calls)
      (hgave : ({ call with phase } : Call).GaveUp) :
      ({ l with client := c } : Link).Abandoned answer := by
    refine ⟨i, { call with phase }, ?_, hkind, hgave⟩
    rw [hcalls, Client.calls_setPhase_self hcall]
  cases h with
  | call kind filter =>
    right
    refine ht.congr (by cases answer <;> rfl) (.of_outbox rfl answer) ?_ ?_
    · intro i call hcall hkind hrequesting
      change (l.client.calls ++ [_])[i]? = some call at hcall
      rw [List.getElem?_append] at hcall
      split at hcall
      · exact hcall
      · obtain rfl := List.mem_singleton.mp (List.mem_of_getElem? hcall)
        simp at hrequesting
    · intro u call hu hcall hpending
      exact (List.getElem?_append_left (List.getElem?_eq_some_iff.mp hcall).1).trans hcall
  | @enter i call hcall hphase hturn =>
    right
    by_cases hkind : call.kind.answer = answer
    · subst hkind
      exact ht.enter hs hcall hphase hturn
    · refine ht.setPhase hs hcall (Client.calls_setSlot _ _ _) ?_ (.of_outbox ?_ answer)
        (absurd · hkind)
      · rw [Client.slot?_setSlot, if_neg (Ne.symm hkind), Client.slot?_setPhase]
      · cases call.kind.answer <;> rfl
  | @request i call request hcall hphase hasks =>
    by_cases hkind : call.kind.answer = answer
    · subst hkind
      exact ht.request hs hcall hphase hasks
    · right
      refine ht.setPhase hs hcall rfl (by cases answer <;> rfl) ?_ (absurd · hkind)
      have hpush : (l.client.outbox.push request).asks =
          l.client.outbox.asks ++ [(call.kind.answer, i)] := by
        rw [Outbox.asks_push, hasks]
        rfl
      constructor
      · intro u hmem
        change (answer, u) ∈ (l.client.outbox.push request).asks ++ _ at hmem
        rw [hpush] at hmem
        simpa [Link.asks, Ne.symm hkind] using hmem
      · show (((l.client.outbox.push request).asks ++ _).filter _).length ≤ _
        rw [hpush]
        simp [Link.asks, hkind]
  | fail hcall hphase =>
    exact .inr (ht.setPhase hs hcall rfl (Client.slot?_setPhase _ _ _ _) (.of_outbox rfl answer)
      fun _ => by simp [hphase])
  | @expire i call hcall hphase hanswer =>
    by_cases hkind : call.kind.answer = answer
    · exact .inl (gaveUp hcall hkind rfl (.expired rfl))
    · exact .inr (ht.setPhase hs hcall rfl (Client.slot?_setPhase _ _ _ _)
        (.of_outbox rfl answer) (absurd · hkind))
  | @clearFailed i call hcall hphase =>
    right
    by_cases hkind : call.kind.answer = answer
    · subst hkind
      exact ht.clear hs hcall hphase _
    · exact ht.clear_other hs hcall hkind _
  | @clearExpired i call hcall hphase =>
    by_cases hkind : call.kind.answer = answer
    · exact .inl (gaveUp hcall hkind (Client.calls_clear _ _ _ _) (.timeout _ rfl))
    · exact .inr (ht.clear_other hs hcall hkind _)
  | finish hcall hphase hanswer =>
    right
    refine ht.setPhase hs hcall rfl (Client.slot?_setPhase _ _ _ _) (.of_outbox rfl answer) ?_
    intro _
    refine ⟨by simp, ?_⟩
    intro _ hslot
    exact hs.ne_of_slot hslot hcall (.inr (.inl (by simp [hanswer]))) rfl
  | same hsame =>
    right
    refine ht.congr (hsame.slot? answer) (.of_subperm ?_ answer) ?_ ?_
    · rw [Link.asks, hsame.asks]
      exact .refl _
    · intro i call hcall _ _
      rwa [← hsame.calls]
    · intro u call _ hcall _
      rwa [← hsame.calls] at hcall

/-- The answer to the only request of its kind that is not answered leaves none. -/
theorem Link.Tight.answered {d : Debt} (ht : l.Tight d.answer)
    (hcalls : (l.client.resolve d.answer d.result).SameCalls l'.client)
    (hasks : l.asks.Perm ((d.answer, d.call) :: l'.asks)) : l'.Tight d.answer := by
  have hmem : (d.answer, d.call) ∈ l.asks := hasks.mem_iff.mpr List.mem_cons_self
  refine .of_none ?_ ?_
  · intro u hmem'
    have hsingle := ht.single
    rw [(hasks.filter _).length_eq, List.filter_cons_of_pos (by simp), List.length_cons] at hsingle
    have hpos : 0 < (l'.asks.filter (·.1 = d.answer)).length :=
      List.length_pos_of_mem (List.mem_filter.mpr ⟨hmem', by simp⟩)
    omega
  · -- no call is about to make a request, as there was an unanswered one
    intro i call' hcall' hkind hrequesting
    obtain ⟨call, hcall, hphase, hkind'⟩ : ∃ call, l.client.calls[i]? = some call ∧
        call'.phase = call.phase ∧ call'.kind = call.kind := by
      rw [hcalls.calls, Client.calls_resolve] at hcall'
      split at hcall'
      · obtain ⟨call, hcall, rfl⟩ := Option.map_eq_some_iff.mp hcall'
        exact ⟨call, hcall, call.phase_hand _⟩
      · exact ⟨call', hcall', rfl, rfl⟩
    rw [hkind'] at hkind
    rw [hphase] at hrequesting
    exact absurd hmem ((ht.requesting i call hcall hkind hrequesting).1 _)

/-- An answer of the other kind changes nothing. -/
theorem Link.Tight.answered_other {d : Debt} (ht : l.Tight answer) (hs : l.client.Orderly)
    (hcalls : (l.client.resolve d.answer d.result).SameCalls l'.client)
    (hasks : l.asks.Perm ((d.answer, d.call) :: l'.asks)) (hne : d.answer ≠ answer) :
    l'.Tight answer := by
  have hsame {i : Nat} {call : Call} (hkind : call.kind.answer = answer) :
      l'.client.calls[i]? = some call ↔ l.client.calls[i]? = some call := by
    rw [hcalls.calls, Client.calls_resolve]
    split
    · next hslot =>
      -- the call that is handed the answer is of the other kind
      obtain ⟨found, hfound, hother, -⟩ := hs.slot d.answer i hslot
      rw [hfound]
      constructor
      · intro h
        obtain rfl := Option.some.inj h
        rw [(found.phase_hand _).2, hother] at hkind
        exact absurd hkind hne
      · intro h
        obtain rfl := Option.some.inj h
        exact absurd (hother.symm.trans hkind) hne
    · rfl
  refine ht.congr ?_ ⟨?_, ?_⟩ ?_ ?_
  · rw [hcalls.slot?, Client.slot?_resolve, if_neg (Ne.symm hne)]
  · intro u hmem
    exact hasks.mem_iff.mpr (List.mem_cons_of_mem _ hmem)
  · refine Nat.le_of_eq ?_
    rw [(hasks.filter _).length_eq, List.filter_cons_of_neg (by simpa using hne)]
  · intro i call hcall hkind _
    exact (hsame hkind).mp hcall
  · intro u call hslot hcall _
    exact (hsame (hs.of_slot hslot hcall).1).mpr hcall

/-- When the session is lost, the call that waits for an answer gives up. -/
theorem Link.Tight.lost (ht : l.Tight answer) (hs : l.client.Orderly)
    (hcalls : l.client.close.SameCalls l'.client) (hasks : l'.asks.Subperm l.asks) :
    l'.Abandoned answer ∨ l'.Tight answer := by
  have hslots {i : Nat} (hslot : l.client.slot? answer = some i) :
      l.client.slot? .suback = some i ∨ l.client.slot? .unsuback = some i := by
    cases answer with
    | suback => exact .inl hslot
    | unsuback => exact .inr hslot
  by_cases hmem : ∃ u, (answer, u) ∈ l.asks
  · obtain ⟨u, hmem⟩ := hmem
    obtain ⟨hslot, call, hcall, hphase⟩ := ht.asks u hmem
    obtain ⟨hkind, -, hanswer⟩ := hs.of_slot hslot hcall
    have hcall' : l'.client.calls[u]? = some (call.hand (.error .closed)) := by
      rw [hcalls.calls, Client.calls_close, if_pos (hslots hslot), hcall]
      rfl
    refine .inl ⟨u, _, hcall', ?_, .lost ?_ (Call.answer?_hand (.inr hphase) (.inl hanswer))⟩
    · rw [(call.phase_hand _).2, hkind]
    · rw [(call.phase_hand _).1, hphase]
  · refine .inr (.of_none (fun u h => hmem ⟨u, hasks.subset h⟩) ?_)
    intro i call' hcall' hkind hrequesting
    right
    rw [hcalls.calls, Client.calls_close] at hcall'
    split at hcall'
    · obtain ⟨call, hcall, rfl⟩ := Option.map_eq_some_iff.mp hcall'
      rw [(call.phase_hand _).2] at hkind
      rw [(call.phase_hand _).1] at hrequesting
      refine Call.answer?_hand (.inl hrequesting) ?_
      exact (ht.requesting i call hcall hkind hrequesting).2.imp_left fun hslot =>
        (hs.of_slot hslot hcall).2.2
    · next hneither =>
      exact (ht.requesting i call' hcall' hkind hrequesting).2.resolve_left fun hslot =>
        hneither (hslots hslot)

/-- A step leaves at most one request of a kind unanswered, unless a call of the kind gives up. -/
theorem Link.Step.tight (h : l.Step a l') (hs : l.client.Orderly) (ht : l.Tight answer) :
    l'.Abandoned answer ∨ l'.Tight answer := by
  cases h with
  | own h => exact h.tight hs ht
  | @answer k d l' hdebt hcalls hasks =>
    right
    by_cases hkind : d.answer = answer
    · subst hkind
      exact ht.answered hcalls hasks
    · exact ht.answered_other hs hcalls hasks hkind
  | lost hcalls hasks => exact ht.lost hs hcalls hasks
  | same hcalls hasks =>
    right
    refine ht.congr (hcalls.slot? answer) (.of_subperm hasks answer) ?_ ?_
    · intro i call hcall _ _
      rwa [← hcalls.calls]
    · intro u call _ hcall _
      rwa [← hcalls.calls] at hcall

end LoraBridge.Broker
