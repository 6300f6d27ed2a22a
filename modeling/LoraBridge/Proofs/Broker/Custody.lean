import LoraBridge.Proofs.Broker.Relay

/-! # Who has the senders of calls

  Calls and the loop of a `Relay` touch the slots one after the other, in any order. The sender of a
  call that waits is in the slot of its kind all the same, or the loop has it: a call empties the
  slot only when it is about to return, and the next one of its kind has its turn after that.

  - `Call.Goes`: what a step that the loop has no part in makes of a call.
  - `Relay.Custody`, `Relay.custody_of_run`: where senders are.
  - `Relay.exists_run_of_client`: what a client can do, a relay can do.
-/

namespace LoraBridge.Broker

open Transport (ConnectFault Error Event)

variable {c c' : Client} {action : Client.Action} {i j : Nat} {call call' other : Call}
  {answer : Answer}

/-! ### What calls do -/

/-- What a step that the loop has no part in makes of a call, and of the slot of its kind. -/
inductive Call.Goes (c' : Client) (i : Nat) (call : Call) : Call → Prop
  | stays : Goes c' i call call
  | enter (hphase : call.phase = .waiting) (hslot : c'.slot? call.kind.answer = some i) :
    Goes c' i call { call with phase := .requesting }
  | request (hphase : call.phase = .requesting) : Goes c' i call { call with phase := .pending }
  | fail (hphase : call.phase = .requesting) : Goes c' i call { call with phase := .failed }
  | expire (hphase : call.phase = .pending) (hanswer : call.answer? = none) :
    Goes c' i call { call with phase := .expired }
  | clear {error : Error} (hphase : call.phase = .failed ∨ call.phase = .expired)
    (hslot : c'.slot? call.kind.answer = none)
    (herror : error = .client ∨ error = .timeout call.kind.answer.name) :
    Goes c' i call { call with phase := .returned (.error error) }
  | finish {result : Except Error Unit} (hphase : call.phase = .pending)
    (hanswer : call.answer? = some result) (hslot : c'.slot? call.kind.answer = none) :
    Goes c' i call { call with phase := .returned (call.own result) }

namespace Call.Goes

theorem kind (h : Goes c' i call call') : call'.kind = call.kind := by
  cases h <;> rfl

/-- Nobody but the loop tells a call anything. -/
theorem answer? (h : Goes c' i call call') : call'.answer? = call.answer? := by
  cases h <;> rfl

theorem started (h : Goes c' i call call') (hphase : call.phase ≠ .waiting) :
    call'.phase ≠ .waiting := by
  cases h with
  | stays => exact hphase
  | _ => simp

theorem eq_of_returned (h : Goes c' i call call') (hreturned : call.hasReturned = true) :
    call' = call := by
  obtain ⟨result, hresult⟩ := Call.hasReturned_iff.mp hreturned
  cases h with
  | stays => rfl
  | clear hphase => simp [hresult] at hphase
  | enter hphase | request hphase | fail hphase | expire hphase | finish hphase =>
    simp [hresult] at hphase

/-- When a call returns, the slot of its kind is empty. -/
theorem emptied (h : Goes c' i call call') (hbefore : call.hasReturned = false)
    (hafter : call'.hasReturned = true) : c'.slot? call'.kind.answer = none := by
  cases h with
  | stays => simp [hbefore] at hafter
  | clear hphase hslot => exact hslot
  | finish hphase hanswer hslot => exact hslot
  | _ => simp [Call.hasReturned_iff] at hafter

/-- A call that waits for its answer has waited before, or has put its sender into the slot now. -/
theorem listens (h : Goes c' i call call') (hlistens : call'.listens = true) :
    call.listens = true ∨ c'.slot? call.kind.answer = some i := by
  cases h with
  | stays => exact .inl hlistens
  | enter hphase hslot => exact .inr hslot
  | request hphase =>
    rw [Call.listens_iff] at hlistens ⊢
    exact .inl ⟨.inl hphase, hlistens.2⟩
  | _ => simp [Call.listens_iff] at hlistens

end Call.Goes

namespace Call

theorem hand_of_not_listens {result : Except Error Unit} (h : call.listens = false) :
    call.hand result = call := by
  simp [hand, h]

/-- Whatever a call is told, it waits for nothing more. -/
theorem listens_hand (result : Except Error Unit) (call : Call) :
    (call.hand result).listens = false := by
  cases h : call.listens with
  | true =>
    rw [← Bool.not_eq_true, listens_iff]
    simp [hand, h]
  | false => rwa [hand_of_not_listens h]

theorem not_listens_of_returned (hreturned : call.hasReturned = true) :
    call.listens = false := by
  obtain ⟨result, hresult⟩ := hasReturned_iff.mp hreturned
  simp [listens, hresult]

end Call

namespace Client

/-- While a call that has been answered is under way, the slot of its kind is empty. -/
theorem Orderly.slot_of_answered (hs : c.Orderly) (hcall : c.calls[i]? = some call)
    (hactive : call.isActive = true) (hanswer : call.answer? ≠ none) :
    c.slot? call.kind.answer = none := by
  rw [Option.eq_none_iff_forall_ne_some]
  intro j hslot
  obtain ⟨other, hother, hkind, hgoing, hnone⟩ := hs.slot _ j hslot
  obtain rfl := hs.unique hcall hother hkind hactive hgoing
  obtain rfl := Option.some.inj (hother.symm.trans hcall)
  exact hanswer hnone

/-- A call after such a step is new or comes from one that there was before. -/
theorem CallStep.goes (h : c.CallStep action c') (hs : c.Orderly)
    (hcall' : c'.calls[j]? = some call') :
    (c.calls[j]? = none ∧ ∃ kind filter, call' = { kind, filter }) ∨
      ∃ call, c.calls[j]? = some call ∧ Call.Goes c' j call call' := by
  -- a call whose phase is set goes on to that phase, and all others stay the same
  have moved {i : Nat} {call : Call} {phase : Call.Phase} (hcall : c.calls[i]? = some call)
      (hgoes : Call.Goes c' i call { call with phase })
      (hcall' : (c.setPhase i phase).calls[j]? = some call') :
      ∃ call, c.calls[j]? = some call ∧ Call.Goes c' j call call' := by
    rw [calls_setPhase] at hcall'
    split at hcall'
    · next hij =>
      subst hij
      rw [hcall] at hcall'
      obtain rfl := Option.some.inj hcall'
      exact ⟨call, hcall, hgoes⟩
    · exact ⟨call', hcall', .stays⟩
  -- who returns with an error has emptied the slot
  have emptied (i : Nat) (phase : Call.Phase) (answer : Answer) :
      ((c.setSlot answer none).setPhase i phase).slot? answer = none := by
    rw [slot?_setPhase, slot?_setSlot, if_pos rfl]
  cases h with
  | call kind filter =>
    rw [List.getElem?_append] at hcall'
    split at hcall'
    · exact .inr ⟨call', hcall', .stays⟩
    · next hlt =>
      refine .inl ⟨List.getElem?_eq_none (by omega), kind, filter, ?_⟩
      exact List.mem_singleton.mp (List.mem_of_getElem? hcall')
  | enter hcall hphase hturn =>
    rw [calls_setSlot] at hcall'
    refine .inr (moved hcall (.enter hphase ?_) hcall')
    rw [slot?_setSlot, if_pos rfl]
  | request hcall hphase hasks => exact .inr (moved hcall (.request hphase) hcall')
  | fail hcall hphase => exact .inr (moved hcall (.fail hphase) hcall')
  | expire hcall hphase hanswer => exact .inr (moved hcall (.expire hphase hanswer) hcall')
  | clearFailed hcall hphase =>
    rw [calls_clear] at hcall'
    exact .inr (moved hcall (.clear (.inl hphase) (emptied _ _ _) (.inl rfl)) hcall')
  | clearExpired hcall hphase =>
    rw [calls_clear] at hcall'
    exact .inr (moved hcall (.clear (.inr hphase) (emptied _ _ _) (.inr rfl)) hcall')
  | finish hcall hphase hanswer =>
    refine .inr (moved hcall (.finish hphase hanswer ?_) hcall')
    rw [slot?_setPhase]
    exact hs.slot_of_answered hcall (Call.isActive_of hphase rfl) (by simp [hanswer])
  | same hsame =>
    rw [hsame.calls] at hcall'
    exact .inr ⟨call', hcall', .stays⟩

theorem CallStep.exists_goes (h : c.CallStep action c') (hs : c.Orderly)
    (hcall : c.calls[j]? = some call) :
    ∃ call', c'.calls[j]? = some call' ∧ Call.Goes c' j call call' := by
  have hlt : j < c'.calls.length :=
    Nat.lt_of_lt_of_le (List.getElem?_eq_some_iff.mp hcall).1 h.length_le
  refine ⟨c'.calls[j], List.getElem?_eq_getElem hlt, ?_⟩
  rcases h.goes hs (List.getElem?_eq_getElem hlt) with ⟨hnone, -⟩ | ⟨before, hbefore, hgoes⟩
  · simp [hnone] at hcall
  · obtain rfl := Option.some.inj (hbefore.symm.trans hcall)
    exact hgoes

/-- Such a step leaves a slot alone, or a call has put its sender into a slot that was empty, or
    the call in the slot has returned. -/
theorem CallStep.slot_cases (h : c.CallStep action c') (hs : c.Orderly) (answer : Answer) :
    c'.slot? answer = c.slot? answer ∨
      (c.slot? answer = none ∧ ∃ i call, c.calls[i]? = some call ∧ call.phase = .waiting ∧
        c'.slot? answer = some i) ∨
      (c'.slot? answer = none ∧ ∀ i, c.slot? answer = some i →
        ∃ call, c'.calls[i]? = some call ∧ call.hasReturned = true) := by
  -- a call that is about to return is the only one of its kind in the slot
  have cleared {i : Nat} {call : Call} {result : Except Error Unit}
      (hcall : c.calls[i]? = some call) (hactive : call.isActive = true) :
      let c' := (c.setSlot call.kind.answer none).setPhase i (.returned result)
      c'.slot? answer = c.slot? answer ∨
        (c'.slot? answer = none ∧ ∀ i, c.slot? answer = some i →
          ∃ call, c'.calls[i]? = some call ∧ call.hasReturned = true) := by
    intro c'
    have hslot : c'.slot? answer = if answer = call.kind.answer then none else c.slot? answer := by
      rw [slot?_setPhase, slot?_setSlot]
    by_cases hkind : answer = call.kind.answer
    · rw [if_pos hkind] at hslot
      refine .inr ⟨hslot, ?_⟩
      intro j hj
      obtain ⟨other, hother, hsame, hgoing, -⟩ := hs.slot answer j hj
      obtain rfl := hs.unique hcall hother (hsame.trans hkind) hactive hgoing
      refine ⟨{ call with phase := .returned result }, ?_, rfl⟩
      rw [calls_clear]
      exact calls_setPhase_self hcall _
    · rw [if_neg hkind] at hslot
      exact .inl hslot
  cases h with
  | call kind filter => exact .inl (by cases answer <;> rfl)
  | @enter i call hcall hphase hturn =>
    rw [slot?_setSlot, slot?_setPhase]
    split
    · next hkind =>
      refine .inr (.inl ⟨?_, i, call, hcall, hphase, rfl⟩)
      -- whoever was in the slot would be under way
      rw [Option.eq_none_iff_forall_ne_some]
      intro j hj
      obtain ⟨other, hother, hsame, hgoing, -⟩ := hs.slot answer j hj
      have hidle := hs.idle_of_turn hcall hphase hturn hother (hsame.trans hkind)
      simp [hgoing] at hidle
    · exact .inl rfl
  | request => exact .inl (by cases answer <;> rfl)
  | fail | expire | finish => exact .inl (slot?_setPhase _ _ _ _)
  | clearFailed hcall hphase =>
    exact (cleared hcall (Call.isActive_of hphase rfl)).imp_right .inr
  | clearExpired hcall hphase =>
    exact (cleared hcall (Call.isActive_of hphase rfl)).imp_right .inr
  | same hsame => exact .inl (hsame.slot? answer)

/-- Whoever is in a slot has been in it, or its turn has come. -/
theorem CallStep.slot_of (h : c.CallStep action c') (hs : c.Orderly)
    (hslot : c'.slot? answer = some i) :
    c.slot? answer = some i ∨ ∃ call, c.calls[i]? = some call ∧ call.phase = .waiting := by
  rcases h.slot_cases hs answer with hsame | ⟨-, j, call, hcall, hphase, hentered⟩ | ⟨hnone, -⟩
  · exact .inl (hsame.symm.trans hslot)
  · obtain rfl := Option.some.inj (hentered.symm.trans hslot)
    exact .inr ⟨call, hcall, hphase⟩
  · rw [hnone] at hslot
    cases hslot

theorem mem_replaced (h : i ∈ c.replaced c') :
    ∃ answer, c.slot? answer = some i ∧ c'.slot? answer ≠ c.slot? answer := by
  obtain ⟨answer, -, h⟩ := List.mem_filterMap.mp h
  split at h
  · simp at h
  · next hne => exact ⟨answer, h, hne⟩

/-! ### Calls that take turns -/

theorem Orderly.congr (hs : c.Orderly) (h : c.SameCalls c') : c'.Orderly := by
  constructor
  · rw [h.calls]
    exact hs.turn
  · rw [h.calls]
    exact hs.waiting
  · intro answer i hslot
    rw [h.slot?] at hslot
    rw [h.calls]
    exact hs.slot answer i hslot

theorem Orderly.callStep (hs : c.Orderly) (h : c.CallStep action c') : c'.Orderly :=
  (Link.Step.own (l := { client := c }) h).orderly hs

/-- It stays so when a slot is emptied, -/
theorem Orderly.setSlot_none (hs : c.Orderly) (answer : Answer) :
    (c.setSlot answer none).Orderly := by
  constructor
  · rw [calls_setSlot]
    exact hs.turn
  · rw [calls_setSlot]
    exact hs.waiting
  · intro other i hslot
    rw [slot?_setSlot] at hslot
    rw [calls_setSlot]
    split at hslot
    · simp at hslot
    · exact hs.slot other i hslot

theorem calls_hand (c : Client) (i : Nat) (result : Except Error Unit) (j : Nat) :
    (c.hand i result).calls[j]? =
      if i = j then c.calls[j]?.map (Call.hand result) else c.calls[j]? := by
  rw [hand, List.getElem?_modify]
  by_cases h : i = j <;> simp [h]

theorem slot?_hand (c : Client) (i : Nat) (result : Except Error Unit) (answer : Answer) :
    (c.hand i result).slot? answer = c.slot? answer := by
  cases answer <;> rfl

/-- What a call was before the loop used a sender. -/
theorem exists_of_hand {result : Except Error Unit}
    (hcall' : (c.hand i result).calls[j]? = some call') :
    ∃ call, c.calls[j]? = some call ∧
      ((i ≠ j ∧ call' = call) ∨ (i = j ∧ call' = call.hand result)) := by
  rw [calls_hand] at hcall'
  split at hcall'
  · next hij =>
    obtain ⟨call, hcall, rfl⟩ := Option.map_eq_some_iff.mp hcall'
    exact ⟨call, hcall, .inr ⟨hij, rfl⟩⟩
  · next hne => exact ⟨call', hcall', .inl ⟨hne, rfl⟩⟩

/-- and when the loop uses a sender that is in no slot. -/
theorem Orderly.hand (hs : c.Orderly) (hout : ∀ answer, c.slot? answer ≠ some i)
    (result : Except Error Unit) : (c.hand i result).Orderly := by
  -- to be told something is not to go on
  have before {j : Nat} {call' : Call} (hcall' : (c.hand i result).calls[j]? = some call') :
      ∃ call, c.calls[j]? = some call ∧ call'.phase = call.phase ∧ call'.kind = call.kind ∧
        (call.phase = .waiting → call' = call) := by
    obtain ⟨call, hcall, ⟨-, rfl⟩ | ⟨-, rfl⟩⟩ := exists_of_hand hcall'
    · exact ⟨_, hcall, rfl, rfl, fun _ => rfl⟩
    · obtain ⟨hphase, hkind⟩ := call.phase_hand result
      refine ⟨call, hcall, hphase, hkind, ?_⟩
      intro hwaiting
      apply Call.hand_of_not_listens
      simp [Call.listens, hwaiting]
  constructor
  · intro j k call' other' hlt hcall' hother' hkind hphase'
    obtain ⟨call, hcall, hphase, hsame, -⟩ := before hcall'
    obtain ⟨other, hother, hphaseOther, hsameOther, -⟩ := before hother'
    rw [hsame, hsameOther] at hkind
    rw [hphase] at hphase'
    have hreturned := hs.turn j k call other hlt hcall hother hkind hphase'
    rwa [Call.hasReturned, Call.result?, hphaseOther]
  · intro j call' hcall' hphase'
    obtain ⟨call, hcall, hphase, -, hwaiting⟩ := before hcall'
    rw [hphase] at hphase'
    rw [hwaiting hphase']
    exact hs.waiting j call hcall hphase'
  · intro answer j hslot
    rw [slot?_hand] at hslot
    obtain ⟨call, hcall, hrest⟩ := hs.slot answer j hslot
    refine ⟨call, ?_, hrest⟩
    have hne : i ≠ j := fun heq => hout answer (heq ▸ hslot)
    rw [calls_hand, if_neg hne, hcall]

end Client

/-! ### Where senders are -/

namespace Relay

variable {r r' : Relay} {a : Action} {steps : List (Relay × Action)}
  {result : Except Error Unit} {fault : ConnectFault}

/-- Where the senders of calls are. -/
structure Custody (r : Relay) : Prop where
  /-- Calls take turns, and a slot holds the call whose turn it is. -/
  orderly : r.client.Orderly
  /-- A sender that the loop has is in no slot, and nothing was sent to its call. -/
  taken : ∀ i result, r.sending? = some (i, result) →
    (∀ answer, r.client.slot? answer ≠ some i) ∧
      ∃ call, r.client.calls[i]? = some call ∧ call.phase ≠ .waiting ∧ call.answer? = none
  /-- The sender of a call that waits for it is in the slot, or the loop has it. -/
  waiting : ∀ (i : Nat) call, r.client.calls[i]? = some call → call.listens = true →
    r.client.slot? call.kind.answer = some i ∨ ∃ result, r.sending? = some (i, result)
  /-- A call whose sender was dropped has returned. -/
  dropped : ∀ i ∈ r.dropped, ∃ call, r.client.calls[i]? = some call ∧ call.hasReturned = true

theorem Custody.hasReturned (hr : r.Custody) (hdropped : i ∈ r.dropped)
    (hcall : r.client.calls[i]? = some call) : call.hasReturned = true := by
  obtain ⟨found, hfound, hreturned⟩ := hr.dropped i hdropped
  rwa [← Option.some.inj (hfound.symm.trans hcall)]

theorem Custody.start : Custody {} := by
  refine ⟨.start, ?_, ?_, ?_⟩
  · intro i result h
    simp [sending?] at h
  · intro i call hcall
    simp at hcall
  · intro i hi
    simp at hi

/-- It stays so when nothing is done to calls, and the loop has no sender. -/
theorem Custody.congr (hr : r.Custody) (hcalls : r.client.SameCalls c')
    (hnone : r.sending? = none) (duty? : Option Duty) (hnone' : duty?.bind (·.sender?) = none) :
    Custody { r with client := c', duty? } := by
  have hsending : sending? { r with client := c', duty? } = none := hnone'
  constructor
  · exact hr.orderly.congr hcalls
  · intro i result h
    rw [hsending] at h
    cases h
  · intro i call hcall hlistens
    left
    dsimp only at hcall ⊢
    rw [hcalls.calls] at hcall
    rw [hcalls.slot?]
    rcases hr.waiting i call hcall hlistens with hslot | ⟨result, hresult⟩
    · exact hslot
    · rw [hnone] at hresult
      cases hresult
  · intro i hi
    dsimp only at hi ⊢
    rw [hcalls.calls]
    exact hr.dropped i hi

/-- It stays so when calls go on. -/
theorem Custody.own (hr : r.Custody) (h : r.client.CallStep action c') :
    Custody { r with client := c', dropped := r.dropped ++ r.client.replaced c' } := by
  have hslots := h.slot_cases hr.orderly
  constructor
  · exact hr.orderly.callStep h
  · intro i result hresult
    obtain ⟨hout, call, hcall, hphase, hanswer⟩ := hr.taken i result hresult
    obtain ⟨call', hcall', hgoes⟩ := h.exists_goes hr.orderly hcall
    refine ⟨?_, call', hcall', hgoes.started hphase, hgoes.answer?.trans hanswer⟩
    intro answer hslot
    rcases h.slot_of hr.orderly hslot with hbefore | ⟨other, hother, hwaiting⟩
    · exact hout answer hbefore
    · -- only a call that had not begun gets into a slot
      obtain rfl := Option.some.inj (hother.symm.trans hcall)
      exact hphase hwaiting
  · intro i call' hcall' hlistens
    rcases h.goes hr.orderly hcall' with ⟨-, kind, filter, rfl⟩ | ⟨call, hcall, hgoes⟩
    · simp [Call.listens_iff] at hlistens
    · rw [hgoes.kind]
      rcases hgoes.listens hlistens with hbefore | hentered
      · rcases hr.waiting i call hcall hbefore with hslot | hsending
        · left
          rcases hslots call.kind.answer with hsame | ⟨hempty, -⟩ | ⟨-, hreturned⟩
          · exact hsame.trans hslot
          · rw [hempty] at hslot
            cases hslot
          · -- a call that has returned does not wait
            obtain ⟨found, hfound, hdone⟩ := hreturned i hslot
            obtain rfl := Option.some.inj (hfound.symm.trans hcall')
            rw [Call.not_listens_of_returned hdone] at hlistens
            cases hlistens
        · exact .inr hsending
      · exact .inl hentered
  · intro i hi
    rcases List.mem_append.mp hi with hi | hi
    · obtain ⟨call, hcall, hreturned⟩ := hr.dropped i hi
      obtain ⟨call', hcall', hgoes⟩ := h.exists_goes hr.orderly hcall
      obtain rfl := hgoes.eq_of_returned hreturned
      exact ⟨_, hcall', hreturned⟩
    · -- what is taken out of a slot is the sender of a call that returns
      obtain ⟨answer, hslot, hne⟩ := Client.mem_replaced hi
      rcases hslots answer with hsame | ⟨hempty, -⟩ | ⟨-, hreturned⟩
      · exact absurd hsame hne
      · rw [hempty] at hslot
        cases hslot
      · exact hreturned i hslot

/-- It stays so when the loop takes a sender out of its slot, -/
theorem Custody.take (hr : r.Custody) {duty : Duty} {answers : List (Answer × Except Error Unit)}
    (hduty : r.duty? = some duty) (hsender : duty.sender? = none) :
    Custody { r with client := r.client.setSlot answer none,
                     duty? := some { duty with
                       answers, sender? := (r.client.slot? answer).map (·, result) } } := by
  have hnone : r.sending? = none := by simp [sending?, hduty, hsender]
  constructor
  · exact hr.orderly.setSlot_none answer
  · intro i sent hsent
    obtain ⟨j, hslot, heq⟩ := Option.map_eq_some_iff.mp hsent
    obtain ⟨rfl, rfl⟩ := Prod.mk.inj heq
    obtain ⟨call, hcall, hkind, hactive, hanswer⟩ := hr.orderly.slot answer j hslot
    refine ⟨?_, call, ?_, (Call.isActive_iff.mp hactive).1, hanswer⟩
    · intro other hother
      dsimp only at hother
      rw [Client.slot?_setSlot] at hother
      split at hother
      · cases hother
      · next hne =>
        -- the other slot is that of another kind
        exact hr.orderly.ne_of_slot hother hcall (.inr (.inr (by rwa [hkind, ne_comm]))) rfl
    · dsimp only
      rw [Client.calls_setSlot, hcall]
  · intro i call hcall hlistens
    dsimp only at hcall ⊢
    rw [Client.calls_setSlot] at hcall
    rw [Client.slot?_setSlot]
    rcases hr.waiting i call hcall hlistens with hslot | ⟨sent, hsent⟩
    · by_cases hkind : call.kind.answer = answer
      · refine .inr ⟨result, ?_⟩
        rw [hkind] at hslot
        simp [sending?, hslot]
      · left
        rwa [if_neg hkind]
    · rw [hnone] at hsent
      cases hsent
  · intro i hi
    dsimp only
    rw [Client.calls_setSlot]
    exact hr.dropped i hi

/-- and when it uses it. -/
theorem Custody.send (hr : r.Custody) {duty : Duty} (hduty : r.duty? = some duty)
    (hsender : duty.sender? = some (i, result)) :
    Custody { r with client := r.client.hand i result,
                     duty? := some { duty with sender? := none } } := by
  have hsending : r.sending? = some (i, result) := by simp [sending?, hduty, hsender]
  constructor
  · exact hr.orderly.hand (hr.taken i result hsending).1 result
  · intro j sent hsent
    cases hsent
  · intro j call' hcall' hlistens
    left
    dsimp only at hcall' ⊢
    rw [Client.slot?_hand]
    obtain ⟨call, hcall, ⟨hne, rfl⟩ | ⟨-, rfl⟩⟩ := Client.exists_of_hand hcall'
    · rcases hr.waiting j _ hcall hlistens with hslot | ⟨sent, hsent⟩
      · exact hslot
      · -- the sender that was used is that of another call
        rw [hsending] at hsent
        exact absurd (Prod.mk.inj (Option.some.inj hsent)).1 hne
    · rw [Call.listens_hand] at hlistens
      cases hlistens
  · intro j hj
    obtain ⟨call, hcall, hreturned⟩ := hr.dropped j hj
    refine ⟨call, ?_, hreturned⟩
    dsimp only
    rw [Client.calls_hand, hcall, Option.map_some,
      Call.hand_of_not_listens (Call.not_listens_of_returned hreturned), ite_self]

theorem Custody.step (hr : r.Custody) (h : r.Step a r') : r'.Custody := by
  cases h with
  | own hstep => exact hr.own hstep
  | forsake hdropped hcall hphase =>
    -- a call whose sender was dropped does not wait for it
    have hreturned := hr.hasReturned hdropped hcall
    simp [Call.hasReturned_iff, hphase] at hreturned
  | idle hduty hcalls =>
    exact hr.congr hcalls (by simp [sending?, hduty]) r.duty? (by simp [hduty])
  | answered hduty hcalls | lost hduty hcalls =>
    exact hr.congr hcalls (by simp [sending?, hduty]) (some _) rfl
  | take hduty hsender => exact hr.take hduty hsender
  | send hduty hsender => exact hr.send hduty hsender
  | @conclude duty loop hduty hsender =>
    have hcalls : r.client.SameCalls { r.client with loop } := ⟨rfl, rfl, rfl⟩
    exact hr.congr hcalls (by simp [sending?, hduty, hsender]) none rfl

theorem custody_of_run (h : Run step? {} steps r) : r.Custody :=
  h.invariant .start fun hr now => hr.step (step_cases now)

/-! ### Clients are relays -/

/-- A call that can give up has a sender that was not dropped. -/
theorem Custody.isForsaken (hr : r.Custody) {action : Client.Action}
    (h : r.client.step? action = some c') : r.isForsaken action = false := by
  cases action with
  | expire i =>
    simp only [Client.step?, Client.expire?, Option.bind_eq_bind, Option.bind_eq_some_iff] at h
    obtain ⟨call, hcall, h⟩ := h
    split at h
    · next hphase =>
      rw [Relay.isForsaken, ← Bool.not_eq_true, List.contains_iff_mem]
      intro hdropped
      have hreturned := hr.hasReturned hdropped hcall
      simp [Call.hasReturned_iff, hphase] at hreturned
    · cases h
  | _ => rfl

/-- Whatever a client can do, a relay can do. -/
theorem exists_run_of_client {before : List (Client × Client.Action)}
    (h : Run Client.step? {} before c) :
    ∃ steps dropped, Run step? {} steps { client := c, dropped } := by
  induction h with
  | refl => exact ⟨[], [], .refl⟩
  | @step before c a c' _ now ih =>
    obtain ⟨steps, dropped, hrun⟩ := ih
    cases hown : Link.isOwn a with
    | true =>
      refine ⟨_, dropped ++ c.replaced c', hrun.step (a := .own a) ?_⟩
      simp [step?, own?, hown, (custody_of_run hrun).isForsaken now, now]
    | false =>
      -- nobody interferes with the loop until it turns to its connection again
      have hpoll : step? { client := c, dropped } (.poll a) =
          some (((c.polled? a).map (face { client := c.polling a, dropped })).getD
            { client := c.polling a, dropped }) := by
        simp [step?, poll?, hown, now]
      obtain rfl := Client.eq_of_polled? hown now
      cases hpolled : c.polled? a with
      | none =>
        rw [hpolled] at hpoll
        exact ⟨_, dropped, hrun.step hpoll⟩
      | some outcome =>
        rw [hpolled] at hpoll
        obtain ⟨more, hreact⟩ :=
          exists_run_react { client := c.polling a, dropped } rfl outcome
        exact ⟨_, dropped, (hrun.step hpoll).append hreact⟩

end Relay

end LoraBridge.Broker
