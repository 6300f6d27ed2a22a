import LoraBridge.Proofs.Broker.Custody

/-! # Who is told what

  What the calls of a `Relay` are told, what they return, and what the loop does for those that wait
  when the session is lost.

  - `Relay.Fares`: what a step makes of a call.
  - `Relay.nodup_uses`: no sender is used twice.
  - `Relay.accounts_of_run`: a call returns what it was told or an error of its own.
  - `Relay.settles_of_run`: while the loop deals with a loss, the calls that waited settle.
  - `Relay.senders_owned`: slots are owned by calls.
-/

namespace LoraBridge.Broker

open Transport (ConnectFault Error Event)

variable {c' : Client} {i : Nat} {call call' : Call} {answer : Answer}
  {result : Except Error Unit}

/-! ### Calls that have given up -/

/-- A call that has given up, or is about to, by an error of its own. -/
inductive Call.HasQuit (call : Call) : Prop
  | failed (hphase : call.phase = .failed)
  | expired (hphase : call.phase = .expired)
  | returned {error : Error} (hphase : call.phase = .returned (.error error))
    (herror : error = .client ∨ error = .timeout call.kind.answer.name)

/-- What a call has returned is an error of its own, or what it makes of what it was told. -/
def Call.Accounts (call : Call) : Prop :=
  call.hasReturned = true →
    call.HasQuit ∨ ∃ told, call.answer? = some told ∧ call.phase = .returned (call.own told)

theorem Call.HasQuit.not_listens (h : call.HasQuit) : call.listens = false := by
  cases h with
  | failed hphase | expired hphase | returned hphase => simp [Call.listens, hphase]

theorem Call.HasQuit.goes (hquit : call.HasQuit) (h : Call.Goes c' i call call') :
    call'.HasQuit := by
  cases h with
  | stays => exact hquit
  | clear hphase hslot herror => exact .returned rfl herror
  | enter hphase | request hphase | fail hphase | expire hphase | finish hphase =>
    -- there is no other way on for it
    cases hquit with
    | failed hquit | expired hquit | returned hquit => simp [hphase] at hquit

theorem Call.Accounts.goes (haccounts : call.Accounts) (h : Call.Goes c' i call call') :
    call'.Accounts := by
  cases h with
  | stays => exact haccounts
  | clear hphase hslot herror => exact fun _ => .inl (.returned rfl herror)
  | finish hphase hanswer => exact fun _ => .inr ⟨_, hanswer, rfl⟩
  | _ =>
    intro hreturned
    simp [Call.hasReturned_iff] at hreturned

/-- A call that was told nothing and does not wait has given up. -/
theorem Call.hasQuit_of_not_listens (haccounts : call.Accounts) (hphase : call.phase ≠ .waiting)
    (hanswer : call.answer? = none) (hlistens : call.listens = false) : call.HasQuit := by
  cases hcase : call.phase with
  | waiting => exact absurd hcase hphase
  | requesting | pending => simp [Call.listens, hcase, hanswer] at hlistens
  | failed => exact .failed hcase
  | expired => exact .expired hcase
  | returned result =>
    rcases haccounts (Call.hasReturned_iff.mpr ⟨result, hcase⟩) with hquit | ⟨told, htold, -⟩
    · exact hquit
    · rw [hanswer] at htold
      cases htold

/-- Only the loss of the session makes a call return that it is closed. -/
theorem Call.Accounts.answer_of_closed (haccounts : call.Accounts)
    (hphase : call.phase = .returned (.error .closed)) : call.answer? = some (.error .closed) := by
  rcases haccounts (Call.hasReturned_iff.mpr ⟨_, hphase⟩) with hquit | ⟨told, htold, hown⟩
  · cases hquit with
    | failed hquit | expired hquit => simp [hphase] at hquit
    | returned hquit herror =>
      -- none of its own errors is this one
      rw [hphase] at hquit
      cases hquit
      simp at herror
  · rw [hphase, Call.Phase.returned.injEq] at hown
    unfold Call.own at hown
    split at hown
    · cases hown
    · rw [htold, ← hown]

namespace Relay

variable {r r' : Relay} {a : Action} {steps : List (Relay × Action)} {fault : ConnectFault}

/-! ### What a step does to calls and slots -/

/-- The sender that the loop uses in a step: whose it is, and what is sent. -/
def used? (r : Relay) : Action → Option (Nat × Except Error Unit)
  | .send => r.sending?
  | _ => none

/-- The senders that were used, in order. -/
def uses (steps : List (Relay × Action)) : List (Nat × Except Error Unit) :=
  steps.filterMap fun e => e.1.used? e.2

theorem uses_concat (steps : List (Relay × Action)) (r : Relay) (a : Action) :
    uses (steps ++ [(r, a)]) = uses steps ++ (r.used? a).toList := filterMap_concat _ _ _

/-- What a step makes of a call. -/
inductive Fares (r : Relay) (a : Action) (r' : Relay) (i : Nat) (call : Call) : Call → Prop
  | goes {call' : Call} (hgoes : call.Goes r'.client i call') : Fares r a r' i call call'
  /-- The loop uses its sender. -/
  | told {result : Except Error Unit} (hused : r.used? a = some (i, result)) :
    Fares r a r' i call (call.hand result)

namespace Fares

theorem kind (h : Fares r a r' i call call') : call'.kind = call.kind := by
  cases h with
  | goes hgoes => exact hgoes.kind
  | told => exact (call.phase_hand _).2

theorem started (h : Fares r a r' i call call') (hphase : call.phase ≠ .waiting) :
    call'.phase ≠ .waiting := by
  cases h with
  | goes hgoes => exact hgoes.started hphase
  | told =>
    rw [(call.phase_hand _).1]
    exact hphase

/-- A call that has returned stays as it is, and when it returns, the slot of its kind is empty. -/
theorem eq_or_emptied (h : Fares r a r' i call call') (hreturned : call'.hasReturned = true) :
    call' = call ∨ r'.client.slot? call'.kind.answer = none := by
  cases h with
  | goes hgoes =>
    cases hbefore : call.hasReturned with
    | true => exact .inl (hgoes.eq_of_returned hbefore)
    | false => exact .inr (hgoes.emptied hbefore hreturned)
  | @told result =>
    left
    apply Call.hand_of_not_listens
    apply Call.not_listens_of_returned
    rwa [Call.hasReturned, Call.result?, ← (call.phase_hand result).1]

theorem answer? (h : Fares r a r' i call call') (hanswer : call'.answer? = some result) :
    call.answer? = some result ∨ r.used? a = some (i, result) := by
  cases h with
  | goes hgoes =>
    rw [hgoes.answer?] at hanswer
    exact .inl hanswer
  | told hused =>
    unfold Call.hand at hanswer
    split at hanswer
    · rw [← Option.some.inj hanswer]
      exact .inr hused
    · exact .inl hanswer

/-- What a call was told is final. -/
theorem answered (h : Fares r a r' i call call') (hanswer : call.answer? = some result) :
    call'.answer? = some result := by
  cases h with
  | goes hgoes => rwa [hgoes.answer?]
  | told =>
    rwa [Call.hand_of_not_listens]
    rw [← Bool.not_eq_true, Call.listens_iff]
    simp [hanswer]

theorem hasQuit (h : Fares r a r' i call call') (hquit : call.HasQuit) : call'.HasQuit := by
  cases h with
  | goes hgoes => exact hquit.goes hgoes
  | told => rwa [Call.hand_of_not_listens hquit.not_listens]

theorem accounts (h : Fares r a r' i call call') (haccounts : call.Accounts) :
    call'.Accounts := by
  cases h with
  | goes hgoes => exact haccounts.goes hgoes
  | @told result =>
    cases hlistens : call.listens with
    | false => rwa [Call.hand_of_not_listens hlistens]
    | true =>
      intro hreturned
      rw [Call.hasReturned, Call.result?, (call.phase_hand result).1] at hreturned
      rw [Call.not_listens_of_returned hreturned] at hlistens
      cases hlistens

end Fares

/-- A call after a step is new or comes from a call before it. -/
theorem Step.fares (h : r.Step a r') (hr : r.Custody) (hcall' : r'.client.calls[i]? = some call') :
    (r.client.calls[i]? = none ∧ ∃ kind filter, call' = { kind, filter }) ∨
      ∃ call, r.client.calls[i]? = some call ∧ Fares r a r' i call call' := by
  cases h with
  | own hstep =>
    refine (hstep.goes hr.orderly hcall').imp_right ?_
    intro ⟨call, hcall, hgoes⟩
    exact ⟨call, hcall, .goes hgoes⟩
  | forsake hdropped hcall hphase =>
    have hreturned := hr.hasReturned hdropped hcall
    simp [Call.hasReturned_iff, hphase] at hreturned
  | idle hduty hcalls | answered hduty hcalls | lost hduty hcalls =>
    dsimp only at hcall'
    rw [hcalls.calls] at hcall'
    exact .inr ⟨call', hcall', .goes .stays⟩
  | take hduty hsender =>
    dsimp only at hcall'
    rw [Client.calls_setSlot] at hcall'
    exact .inr ⟨call', hcall', .goes .stays⟩
  | send hduty hsender =>
    obtain ⟨call, hcall, ⟨-, rfl⟩ | ⟨rfl, rfl⟩⟩ := Client.exists_of_hand hcall'
    · exact .inr ⟨_, hcall, .goes .stays⟩
    · exact .inr ⟨call, hcall, .told (by simp [used?, sending?, hduty, hsender])⟩
  | conclude => exact .inr ⟨call', hcall', .goes .stays⟩

theorem Step.length_le (h : r.Step a r') :
    r.client.calls.length ≤ r'.client.calls.length := by
  cases h with
  | own hstep => exact hstep.length_le
  | idle hduty hcalls | answered hduty hcalls | lost hduty hcalls =>
    exact Nat.le_of_eq (congrArg List.length hcalls.calls).symm
  | take => exact Nat.le_of_eq (congrArg List.length (Client.calls_setSlot _ _ _)).symm
  | forsake => simp [Client.setPhase]
  | send => simp [Client.hand]
  | conclude => exact Nat.le_refl _

theorem Step.exists_fares (h : r.Step a r') (hr : r.Custody)
    (hcall : r.client.calls[i]? = some call) :
    ∃ call', r'.client.calls[i]? = some call' ∧ Fares r a r' i call call' := by
  have hlt : i < r'.client.calls.length :=
    Nat.lt_of_lt_of_le (List.getElem?_eq_some_iff.mp hcall).1 h.length_le
  refine ⟨r'.client.calls[i], List.getElem?_eq_getElem hlt, ?_⟩
  rcases h.fares hr (List.getElem?_eq_getElem hlt) with ⟨hnone, -⟩ | ⟨before, hbefore, hfares⟩
  · simp [hnone] at hcall
  · obtain rfl := Option.some.inj (hbefore.symm.trans hcall)
    exact hfares

/-- Whoever is in a slot has been in it, or its turn has come. -/
theorem Step.slot_of (h : r.Step a r') (hr : r.Custody)
    (hslot : r'.client.slot? answer = some i) :
    r.client.slot? answer = some i ∨
      ∃ call, r.client.calls[i]? = some call ∧ call.phase = .waiting := by
  cases h with
  | own hstep => exact hstep.slot_of hr.orderly hslot
  | forsake =>
    rw [Client.slot?_setPhase] at hslot
    exact .inl hslot
  | idle hduty hcalls | answered hduty hcalls | lost hduty hcalls =>
    exact .inl ((hcalls.slot? answer).symm.trans hslot)
  | take =>
    dsimp only at hslot
    rw [Client.slot?_setSlot] at hslot
    split at hslot
    · cases hslot
    · exact .inl hslot
  | send =>
    rw [Client.slot?_hand] at hslot
    exact .inl hslot
  | conclude => exact .inl (by cases answer <;> exact hslot)

/-- A call that has begun and is in no slot does not get into one. -/
theorem Step.not_in_slot (h : r.Step a r') (hr : r.Custody)
    (hcall : r.client.calls[i]? = some call) (hphase : call.phase ≠ .waiting)
    (hout : ∀ answer, r.client.slot? answer ≠ some i) :
    ∀ answer, r'.client.slot? answer ≠ some i := by
  intro answer hslot
  rcases h.slot_of hr hslot with hbefore | ⟨other, hother, hwaiting⟩
  · exact hout answer hbefore
  · obtain rfl := Option.some.inj (hother.symm.trans hcall)
    exact hphase hwaiting

/-- The loop has kept a sender that it has, or has taken it out of a slot. -/
theorem Step.sending_of (h : r.Step a r') (hsending : r'.sending? = some (i, result)) :
    (r.sending? = some (i, result) ∧ a ≠ .send) ∨ ∃ answer, r.client.slot? answer = some i := by
  cases h with
  | own | forsake => exact .inl ⟨hsending, by simp⟩
  | idle => exact .inl ⟨hsending, by simp⟩
  | answered | lost | send | conclude => cases hsending
  | @take duty answer sent answers hduty hsender =>
    obtain ⟨j, hslot, heq⟩ := Option.map_eq_some_iff.mp hsending
    obtain ⟨rfl, -⟩ := Prod.mk.inj heq
    exact .inr ⟨answer, hslot⟩

/-! ### Senders are used once -/

/-- A call whose sender is gone. -/
structure Spent (r : Relay) (i : Nat) : Prop where
  started : ∃ call, r.client.calls[i]? = some call ∧ call.phase ≠ .waiting
  slot : ∀ answer, r.client.slot? answer ≠ some i
  sending : ∀ result, r.sending? ≠ some (i, result)

theorem Spent.step (hi : r.Spent i) (hr : r.Custody) (h : r.Step a r') : r'.Spent i := by
  obtain ⟨call, hcall, hphase⟩ := hi.started
  constructor
  · obtain ⟨call', hcall', hfares⟩ := h.exists_fares hr hcall
    exact ⟨call', hcall', hfares.started hphase⟩
  · exact h.not_in_slot hr hcall hphase hi.slot
  · intro result hsending
    rcases h.sending_of hsending with ⟨hbefore, -⟩ | ⟨answer, hslot⟩
    · exact hi.sending result hbefore
    · exact hi.slot answer hslot

theorem eq_send_of_used? (h : r.used? a = some (i, result)) :
    a = .send ∧ r.sending? = some (i, result) := by
  cases a with
  | send => exact ⟨rfl, h⟩
  | _ => cases h

/-- When a sender was used, it is gone. -/
theorem Step.spent (h : r.Step a r') (hr : r.Custody) (hused : r.used? a = some (i, result)) :
    r'.Spent i := by
  obtain ⟨rfl, hsending⟩ := eq_send_of_used? hused
  obtain ⟨hout, call, hcall, hphase, -⟩ := hr.taken i result hsending
  constructor
  · obtain ⟨call', hcall', hfares⟩ := h.exists_fares hr hcall
    exact ⟨call', hcall', hfares.started hphase⟩
  · exact h.not_in_slot hr hcall hphase hout
  · intro sent hsent
    rcases h.sending_of hsent with ⟨-, hne⟩ | ⟨answer, hslot⟩
    · exact hne rfl
    · exact hout answer hslot

theorem spent_of_mem_uses (h : Run step? {} steps r) (hmem : (i, result) ∈ uses steps) :
    r.Spent i := by
  induction h with
  | refl => cases hmem
  | @step steps s a t hbefore now ih =>
    have hs := custody_of_run hbefore
    rw [uses_concat] at hmem
    rcases List.mem_append.mp hmem with hmem | hmem
    · exact (ih hmem).step hs (step_cases now)
    · exact (step_cases now).spent hs (Option.mem_toList.mp hmem)

/-- No sender is used twice. -/
theorem nodup_uses (h : Run step? {} steps r) : ((uses steps).map (·.1)).Nodup := by
  -- by induction on the run: the loop does not get a sender back that it has used
  induction h with
  | refl => exact List.nodup_nil
  | @step steps s a t hbefore now ih =>
    rw [uses_concat, List.map_append]
    cases hused : s.used? a with
    | none => simpa using ih
    | some sent =>
      obtain ⟨i, result⟩ := sent
      rw [Option.toList_some, List.map_singleton]
      apply List.nodup_append.mpr
      refine ⟨ih, by simp, ?_⟩
      intro j hj k hk heq
      obtain rfl := List.mem_singleton.mp hk
      obtain ⟨⟨j, before⟩, hmem, rfl⟩ := List.mem_map.mp hj
      subst heq
      exact (spent_of_mem_uses hbefore hmem).sending result (eq_send_of_used? hused).2

/-! ### What calls were told, and what they return -/

/-- Whatever a call was told was sent to it. -/
theorem mem_uses_of_answer (h : Run step? {} steps r) (hcall : r.client.calls[i]? = some call)
    (hanswer : call.answer? = some result) : (i, result) ∈ uses steps := by
  -- the call before the last step was told this, or it was sent in that step
  induction h generalizing call with
  | refl => simp at hcall
  | @step steps s a t hbefore now ih =>
    rw [uses_concat]
    apply List.mem_append.mpr
    rcases (step_cases now).fares (custody_of_run hbefore) hcall with
      ⟨-, kind, filter, rfl⟩ | ⟨before, hcallBefore, hfares⟩
    · cases hanswer
    · rcases hfares.answer? hanswer with htold | hused
      · exact .inl (ih hcallBefore htold)
      · exact .inr (Option.mem_toList.mpr hused)

theorem accounts_of_run (h : Run step? {} steps r) (hcall : r.client.calls[i]? = some call) :
    call.Accounts := by
  induction h generalizing call with
  | refl => simp at hcall
  | @step steps s a t hbefore now ih =>
    rcases (step_cases now).fares (custody_of_run hbefore) hcall with
      ⟨-, kind, filter, rfl⟩ | ⟨before, hcallBefore, hfares⟩
    · intro hreturned
      simp [Call.hasReturned_iff] at hreturned
    · exact hfares.accounts (ih hcallBefore)

/-! ### What the loop does about a loss -/

/-- The loop tells calls that they are closed if it deals with the loss of a session, and only
    then. -/
structure Earnest (r : Relay) : Prop where
  answers : ∀ duty answer result, r.duty? = some duty → (answer, result) ∈ duty.answers →
    (result = .error .closed ↔ r.loss?.isSome = true)
  sending : ∀ i result, r.sending? = some (i, result) →
    (result = .error .closed ↔ r.loss?.isSome = true)

theorem Earnest.step (hr : r.Earnest) (h : r.Step a r') : r'.Earnest := by
  cases h with
  | own | forsake => exact ⟨hr.answers, hr.sending⟩
  | idle => exact ⟨hr.answers, hr.sending⟩
  | @answered action c' answer result hduty hcalls hloop hloses hresult =>
    constructor
    · intro duty other sent hsome hmem
      obtain rfl := Option.some.inj hsome
      obtain ⟨-, rfl⟩ := Prod.mk.inj (List.mem_singleton.mp hmem)
      simp [loss?, hresult]
    · intro i sent hsent
      cases hsent
  | @lost action c' fault =>
    constructor
    · intro duty answer result hsome hmem
      obtain rfl := Option.some.inj hsome
      simp only [Duty.ofLoss, List.mem_cons, Prod.mk.injEq, List.not_mem_nil, or_false] at hmem
      obtain ⟨-, rfl⟩ | ⟨-, rfl⟩ := hmem <;> simp [loss?, Duty.ofLoss]
    · intro i sent hsent
      cases hsent
  | @take duty answer result answers hduty hsender hanswers =>
    have hloss : r.loss? = duty.loss? := by simp [loss?, hduty]
    constructor
    · intro next other sent hsome hmem
      obtain rfl := Option.some.inj hsome
      have hearnest := hr.answers duty other sent hduty (by rw [hanswers]; exact .tail _ hmem)
      rwa [hloss] at hearnest
    · intro i sent hsent
      obtain ⟨j, -, heq⟩ := Option.map_eq_some_iff.mp hsent
      obtain ⟨-, rfl⟩ := Prod.mk.inj heq
      have hearnest := hr.answers duty answer result hduty (by rw [hanswers]; exact .head _)
      rwa [hloss] at hearnest
  | @send duty i result hduty hsender =>
    constructor
    · intro next other sent hsome hmem
      obtain rfl := Option.some.inj hsome
      have hearnest := hr.answers duty other sent hduty hmem
      rwa [loss?, hduty] at hearnest
    · intro i sent hsent
      cases hsent
  | conclude =>
    constructor
    · intro duty answer result hsome
      cases hsome
    · intro i sent hsent
      cases hsent

theorem earnest_of_run (h : Run step? {} steps r) : r.Earnest := by
  refine h.invariant ⟨?_, ?_⟩ fun hr now => hr.step (step_cases now)
  · intro duty answer result hsome
    cases hsome
  · intro i result hsent
    cases hsent

/-- What becomes of a call that waited when the session was lost, while the loop deals with the
    loss. -/
inductive Settles (r : Relay) (i : Nat) (call : Call) : Prop
  | told (hanswer : call.answer? = some (.error .closed))
  | quit (hquit : call.HasQuit)
  /-- The loop is about to tell it. -/
  | sending (hsending : r.sending? = some (i, .error .closed))
  /-- The loop has not got to its slot. -/
  | slot {duty : Duty} {result : Except Error Unit} (hduty : r.duty? = some duty)
    (hmem : (call.kind.answer, result) ∈ duty.answers)
    (hslot : r.client.slot? call.kind.answer = some i)

/-- The loop deals with a loss until it concludes, and begins with it when the session is lost. -/
theorem Step.loss_cases (h : r.Step a r') (hloss : r'.loss? = some fault) :
    (r.loss? = some fault ∧ r.loses? a = none) ∨
      (r.loses? a = some fault ∧ r.client.SameCalls r'.client ∧ r.sending? = none ∧
        r'.duty? = some (.ofLoss fault)) := by
  cases h with
  | own | forsake => exact .inl ⟨hloss, rfl⟩
  | idle hduty hcalls hloses => exact .inl ⟨hloss, hloses⟩
  | answered => cases hloss
  | lost hduty hcalls hloop hloses =>
    obtain rfl := Option.some.inj hloss
    exact .inr ⟨hloses, hcalls, by simp [sending?, hduty], rfl⟩
  | take hduty => exact .inl ⟨by rw [loss?, hduty]; exact hloss, rfl⟩
  | send hduty => exact .inl ⟨by rw [loss?, hduty]; exact hloss, rfl⟩
  | conclude => cases hloss

/-- Calls that waited go on to be told or to give up. -/
theorem Settles.step (hi : r.Settles i call) (hr : r.Custody) (hearnest : r.Earnest)
    (hloss : r.loss?.isSome = true) (hcall : r.client.calls[i]? = some call)
    (hcall' : r'.client.calls[i]? = some call') (haccounts : call.Accounts) (h : r.Step a r')
    (hfares : Fares r a r' i call call') : r'.Settles i call' := by
  cases hi with
  | told hanswer => exact .told (hfares.answered hanswer)
  | quit hquit => exact .quit (hfares.hasQuit hquit)
  | sending hsending =>
    cases h with
    | own | forsake => exact .sending hsending
    | idle hduty | answered hduty | lost hduty => simp [sending?, hduty] at hsending
    | take hduty hsender | conclude hduty hsender => simp [sending?, hduty, hsender] at hsending
    | send hduty hsender =>
      -- if the call does not wait any more, it has given up
      obtain ⟨-, found, hfound, hphase, hanswer⟩ := hr.taken i _ hsending
      obtain rfl := Option.some.inj (hcall.symm.trans hfound)
      simp only [sending?, hduty, Option.bind_some, hsender, Option.some.injEq,
        Prod.mk.injEq] at hsending
      obtain ⟨rfl, rfl⟩ := hsending
      dsimp only at hcall'
      rw [Client.calls_hand, if_pos rfl, hcall] at hcall'
      obtain rfl := Option.some.inj hcall'
      cases hlistens : call.listens with
      | true => exact .told (by simp [Call.hand, hlistens])
      | false =>
        rw [Call.hand_of_not_listens hlistens]
        exact .quit (Call.hasQuit_of_not_listens haccounts hphase hanswer hlistens)
  | @slot duty result hduty hmem hslot =>
    rw [← hfares.kind] at hmem hslot
    cases h with
    | own hstep =>
      rcases hstep.slot_cases hr.orderly call'.kind.answer with hsame | ⟨hempty, -⟩ |
        ⟨-, hreturned⟩
      · exact .slot hduty hmem (hsame.trans hslot)
      · rw [hempty] at hslot
        cases hslot
      · -- the call has returned, and was not told anything
        obtain ⟨found, hfound, hdone⟩ := hreturned i hslot
        obtain rfl := Option.some.inj (hfound.symm.trans hcall')
        obtain ⟨before, hbefore, -, -, hnone⟩ := hr.orderly.slot _ i hslot
        obtain rfl := Option.some.inj (hbefore.symm.trans hcall)
        rcases hfares.accounts haccounts hdone with hquit | ⟨told, htold, -⟩
        · exact .quit hquit
        · rcases hfares.answer? htold with htold | hused
          · rw [hnone] at htold
            cases htold
          · cases hused
    | forsake =>
      refine .slot hduty hmem ?_
      rwa [Client.slot?_setPhase]
    | idle hnone | answered hnone | lost hnone =>
      rw [hnone] at hduty
      cases hduty
    | @take duty' answer sent answers hduty' hsender hanswers =>
      obtain rfl := Option.some.inj (hduty'.symm.trans hduty)
      by_cases hkind : call'.kind.answer = answer
      · -- it is the turn of this slot
        have hclosed : sent = .error .closed :=
          (hearnest.answers duty' answer sent hduty (by rw [hanswers]; exact .head _)).mpr hloss
        subst hkind hclosed
        refine .sending ?_
        simp [sending?, hslot]
      · rw [hanswers] at hmem
        rcases List.mem_cons.mp hmem with heq | hmem
        · exact absurd (Prod.mk.inj heq).1 hkind
        · refine .slot rfl hmem ?_
          dsimp only
          rwa [Client.slot?_setSlot, if_neg hkind]
    | send hduty' =>
      obtain rfl := Option.some.inj (hduty'.symm.trans hduty)
      refine .slot rfl hmem ?_
      rwa [Client.slot?_hand]
    | conclude hduty' hsender hanswers =>
      obtain rfl := Option.some.inj (hduty'.symm.trans hduty)
      rw [hanswers] at hmem
      cases hmem

/-- Calls that waited have settled when the loop has nothing more to do for calls. -/
theorem Settles.done {duty : Duty} (hi : r.Settles i call) (hduty : r.duty? = some duty)
    (hsender : duty.sender? = none) (hanswers : duty.answers = []) :
    call.answer? = some (.error .closed) ∨ call.HasQuit := by
  cases hi with
  | told hanswer => exact .inl hanswer
  | quit hquit => exact .inr hquit
  | sending hsending => simp [sending?, hduty, hsender] at hsending
  | slot hduty' hmem =>
    obtain rfl := Option.some.inj (hduty'.symm.trans hduty)
    rw [hanswers] at hmem
    cases hmem

/-- The last loss of the session in some steps was by this fault, and something is so of all calls
    that waited then. -/
def SinceLoss (steps : List (Relay × Action)) (fault : ConnectFault) (p : Nat → Prop) : Prop :=
  ∃ before s a after, steps = before ++ (s, a) :: after ∧ s.loses? a = some fault ∧
    (∀ e ∈ after, e.1.loses? e.2 = none) ∧
      ∀ (i : Nat) call, s.client.calls[i]? = some call → call.listens = true → p i

theorem SinceLoss.imp {p q : Nat → Prop} (h : SinceLoss steps fault p) (hpq : ∀ i, p i → q i) :
    SinceLoss steps fault q := by
  obtain ⟨before, s, a, after, hsteps, hloses, hquiet, hall⟩ := h
  refine ⟨before, s, a, after, hsteps, hloses, hquiet, ?_⟩
  intro i call hcall hlistens
  exact hpq i (hall i call hcall hlistens)

theorem SinceLoss.concat {p : Nat → Prop} (h : SinceLoss steps fault p)
    (hloses : r.loses? a = none) : SinceLoss (steps ++ [(r, a)]) fault p := by
  obtain ⟨before, s, b, after, rfl, hfault, hquiet, hall⟩ := h
  refine ⟨before, s, b, after ++ [(r, a)], by simp, hfault, ?_, hall⟩
  intro e he
  rcases List.mem_append.mp he with he | he
  · exact hquiet e he
  · obtain rfl := List.mem_singleton.mp he
    exact hloses

/-- While the loop deals with a loss, all calls that waited settle. -/
theorem settles_of_run (h : Run step? {} steps r) (hloss : r.loss? = some fault) :
    SinceLoss steps fault fun i =>
      ∃ call, r.client.calls[i]? = some call ∧ r.Settles i call := by
  -- by induction on the run: the loss is the same until the loop has dealt with it
  induction h with
  | refl => cases hloss
  | @step steps s a t hbefore now ih =>
    have hstep := step_cases now
    have hs := custody_of_run hbefore
    rcases hstep.loss_cases hloss with ⟨hloss, hstays⟩ | ⟨hloses, hcalls, hnone, hduty⟩
    · apply ((ih hloss).concat hstays).imp
      intro i ⟨call, hcall, hsettles⟩
      obtain ⟨call', hcall', hfares⟩ := hstep.exists_fares hs hcall
      exact ⟨call', hcall', hsettles.step hs (earnest_of_run hbefore) (by simp [hloss]) hcall
        hcall' (accounts_of_run hbefore hcall) hstep hfares⟩
    · -- the loop begins with both slots
      refine ⟨steps, s, a, [], rfl, hloses, by simp, ?_⟩
      intro i call hcall hlistens
      have hmem : (call.kind.answer, .error .closed) ∈ (Duty.ofLoss fault).answers := by
        cases call.kind.answer <;> simp [Duty.ofLoss]
      refine ⟨call, by rwa [hcalls.calls], .slot hduty hmem ?_⟩
      rw [hcalls.slot?]
      rcases hs.waiting i call hcall hlistens with hslot | ⟨result, hsending⟩
      · exact hslot
      · rw [hnone] at hsending
        cases hsending

/-! ### Slots are owned -/

theorem exists_of_mem_uses (h : (i, result) ∈ uses steps) :
    ∃ before s after, steps = before ++ (s, .send) :: after ∧ s.sending? = some (i, result) := by
  obtain ⟨⟨s, a⟩, hmem, hused⟩ := List.mem_filterMap.mp h
  obtain ⟨before, after, hsteps⟩ := List.append_of_mem hmem
  obtain ⟨rfl, hsending⟩ := eq_send_of_used? hused
  exact ⟨before, s, after, hsteps, hsending⟩

/-- A call is told that it is closed when the loop deals with a loss of the session. -/
theorem exists_loss_of_closed (h : Run step? {} steps r) (hcall : r.client.calls[i]? = some call)
    (hanswer : call.answer? = some (.error .closed)) :
    ∃ before s after fault, steps = before ++ (s, .send) :: after ∧
      s.sending? = some (i, .error .closed) ∧ ∃ e ∈ before, e.1.loses? e.2 = some fault := by
  obtain ⟨before, s, after, rfl, hsending⟩ :=
    exists_of_mem_uses (mem_uses_of_answer h hcall hanswer)
  have hbefore := h.split_at.1
  have hloss := ((earnest_of_run hbefore).sending i _ hsending).mp rfl
  obtain ⟨fault, hfault⟩ := Option.isSome_iff_exists.mp hloss
  obtain ⟨earlier, u, b, later, rfl, hloses, -⟩ := settles_of_run hbefore hfault
  exact ⟨_, s, after, fault, rfl, hsending, (u, b), by simp, hloses⟩

theorem result_cases (h : Run step? {} steps r) (hcall : r.client.calls[i]? = some call)
    (hphase : call.phase = .returned result) :
    result = .error .client ∨ result = .error (.timeout call.kind.answer.name) ∨
      ∃ told, (i, told) ∈ uses steps ∧ result = call.own told := by
  rcases accounts_of_run h hcall (Call.hasReturned_iff.mpr ⟨result, hphase⟩) with hquit |
    ⟨told, htold, hown⟩
  · cases hquit with
    | failed hquit | expired hquit => simp [hphase] at hquit
    | returned hquit herror =>
      rw [hphase, Call.Phase.returned.injEq] at hquit
      rw [hquit, Except.error.injEq, Except.error.injEq]
      exact herror.imp_right .inl
  · rw [hphase, Call.Phase.returned.injEq] at hown
    exact .inr (.inr ⟨told, mem_uses_of_answer h hcall htold, hown⟩)

/-- When a call returns, the slot of its kind is empty. -/
theorem Step.eq_or_emptied (h : r.Step a r') (hr : r.Custody)
    (hcall' : r'.client.calls[i]? = some call') (hreturned : call'.hasReturned = true) :
    r.client.calls[i]? = some call' ∨ r'.client.slot? call'.kind.answer = none := by
  rcases h.fares hr hcall' with ⟨-, kind, filter, rfl⟩ | ⟨call, hcall, hfares⟩
  · simp [Call.hasReturned_iff] at hreturned
  · refine (hfares.eq_or_emptied hreturned).imp_left ?_
    intro hsame
    rwa [hsame]

/-- When a loss of the session is reported, the calls that waited before it have settled. -/
theorem settled_of_reported (h : Run step? {} steps r) (hstep : r.Step a r') {message : String}
    (hreported : r.client.loop.Reported r'.client.loop message) :
    ∃ fault, fault.message = message ∧ SinceLoss steps fault fun i =>
      ∃ call, r'.client.calls[i]? = some call ∧
        (call.answer? = some (.error .closed) ∨ call.HasQuit) := by
  obtain ⟨duty, fault, hduty, hsender, hanswers, hfault, hmessage, hcalls⟩ :=
    hstep.loss_of_reported hreported
  have hloss : r.loss? = some fault := by simp [loss?, hduty, hfault]
  refine ⟨fault, hmessage, (settles_of_run h hloss).imp ?_⟩
  intro i ⟨call, hcall, hsettles⟩
  rw [hcalls]
  exact ⟨call, hcall, hsettles.done hduty hsender hanswers⟩

/-- Slots are owned: what is so of senders and calls after some steps. -/
structure Owned (steps : List (Relay × Action)) (r : Relay) : Prop where
  /-- Who is in a slot is the only call of its kind that has begun and not returned. -/
  slot : ∀ answer i, r.client.slot? answer = some i →
    (∃ call, r.client.calls[i]? = some call ∧ call.kind.answer = answer ∧ call.isActive = true) ∧
      ∀ (j : Nat) other, r.client.calls[j]? = some other → other.kind.answer = answer →
        other.isActive = true → j = i
  /-- The sender of a call that waits was not dropped: it is in the slot, or the loop is about to
      use it. -/
  waiting : ∀ (i : Nat) call, r.client.calls[i]? = some call → call.listens = true →
    i ∉ r.dropped ∧
      (r.client.slot? call.kind.answer = some i ∨ ∃ result, r.sending? = some (i, result))
  /-- A call that is closed was told so after the session was lost. -/
  closed : ∀ (i : Nat) call, r.client.calls[i]? = some call →
    call.answer? = some (.error .closed) ∨ call.phase = .returned (.error .closed) →
      ∃ before s after fault, steps = before ++ (s, .send) :: after ∧
        s.sending? = some (i, .error .closed) ∧ ∃ e ∈ before, e.1.loses? e.2 = some fault
  /-- No sender is used twice, -/
  once : ((uses steps).map (·.1)).Nodup
  /-- a call was told nothing but what was sent to it, -/
  told : ∀ (i : Nat) call result, r.client.calls[i]? = some call →
    call.answer? = some result → (i, result) ∈ uses steps
  /-- and what it returns is that or an error of its own. -/
  returned : ∀ (i : Nat) call result, r.client.calls[i]? = some call →
    call.phase = .returned result →
      result = .error .client ∨ result = .error (.timeout call.kind.answer.name) ∨
        ∃ told, (i, told) ∈ uses steps ∧ result = call.own told
  /-- A call that has returned in a step had returned before it, or its slot is empty. -/
  emptied : ∀ before s a after t, steps = before ++ (s, a) :: after → s.step? a = some t →
    ∀ (i : Nat) call, t.client.calls[i]? = some call → call.hasReturned = true →
      s.client.calls[i]? = some call ∨ t.client.slot? call.kind.answer = none
  /-- When a loss of the session is reported, every call that waited before it was told, or has
      given up. -/
  reported : ∀ before s a after t message, steps = before ++ (s, a) :: after →
    s.step? a = some t → s.client.loop.Reported t.client.loop message →
      ∃ fault, fault.message = message ∧ SinceLoss before fault fun i =>
        ∃ call, t.client.calls[i]? = some call ∧
          (call.answer? = some (.error .closed) ∨ call.HasQuit)

/-- Slots are owned, whatever calls and the loop do side by side. That covers all that a client can
    do. -/
theorem senders_owned :
    (∀ {steps r}, Run step? {} steps r → Owned steps r) ∧
      ∀ {before c}, Run Client.step? {} before c →
        ∃ steps dropped, Run step? {} steps { client := c, dropped } := by
  refine ⟨?_, exists_run_of_client⟩
  intro steps r h
  have hr := custody_of_run h
  constructor
  case slot =>
    intro answer i hslot
    obtain ⟨call, hcall, hkind, hactive, -⟩ := hr.orderly.slot answer i hslot
    refine ⟨⟨call, hcall, hkind, hactive⟩, ?_⟩
    intro j other hother hsame hgoing
    exact hr.orderly.unique hother hcall (hkind.trans hsame.symm) hgoing hactive
  case waiting =>
    intro i call hcall hlistens
    refine ⟨?_, hr.waiting i call hcall hlistens⟩
    intro hdropped
    rw [Call.not_listens_of_returned (hr.hasReturned hdropped hcall)] at hlistens
    cases hlistens
  case closed =>
    intro i call hcall hclosed
    apply exists_loss_of_closed h hcall
    exact hclosed.elim id (accounts_of_run h hcall).answer_of_closed
  case once => exact nodup_uses h
  case told =>
    intro i call result hcall hanswer
    exact mem_uses_of_answer h hcall hanswer
  case returned =>
    intro i call result hcall hphase
    exact result_cases h hcall hphase
  case emptied =>
    intro before s a after t hsteps now i call hcall hreturned
    subst hsteps
    exact (step_cases now).eq_or_emptied (custody_of_run h.split_at.1) hcall hreturned
  case reported =>
    intro before s a after t message hsteps now hreported
    subst hsteps
    exact settled_of_reported h.split_at.1 (step_cases now) hreported

/-- A call gives up while the loop has its sender, and the next one of its kind has its turn before
    the loop uses that sender. Then the session is lost while two calls wait. -/
def crossing : List Action :=
  [.poll (.outcome .connected),
    .own (.call (.subscribe .exactlyOnce) "a"), .own (.enter 0), .own (.request 0),
    .poll (.outcome (.suback 1 false)), .take, .own (.expire 0), .own (.clear 0),
    .own (.call (.subscribe .exactlyOnce) "b"), .own (.enter 1), .own (.request 1),
    .send, .conclude,
    .own (.call .unsubscribe "a"), .own (.enter 2), .own (.request 2),
    .poll (.outcome (.failed .unreachable)), .take, .send, .take, .send, .conclude,
    .own (.finish 1), .own (.finish 2)]

theorem crossing_facts : (Run.steps? step? {} crossing).map (fun run =>
    (run.2.client.calls, uses run.1, run.2.client.loop.events)) =
    some ([⟨.subscribe .exactlyOnce, "a", .returned (.error (.timeout "SUBACK")), none⟩,
        ⟨.subscribe .exactlyOnce, "b", .returned (.error .closed), some (.error .closed)⟩,
        ⟨.unsubscribe, "a", .returned (.error .closed), some (.error .closed)⟩],
      [(0, .ok ()), (1, .error .closed), (2, .error .closed)],
      [.connected, .lost ConnectFault.unreachable.message]) := rfl

theorem senders_owned_crossing :
    (∃ steps r, Run step? {} steps r ∧ Owned steps r ∧
      r.client.calls.map (·.phase) = [.returned (.error (.timeout "SUBACK")),
        .returned (.error .closed), .returned (.error .closed)] ∧
      uses steps = [(0, .ok ()), (1, .error .closed), (2, .error .closed)] ∧
      ∃ before s after fault, steps = before ++ (s, .send) :: after ∧
        s.sending? = some (2, .error .closed) ∧ ∃ e ∈ before, e.1.loses? e.2 = some fault) ∧
      ∃ steps dropped, Run step? {} steps { client := Client.react {} .connected, dropped } := by
  constructor
  · obtain ⟨⟨steps, r⟩, hsteps, hfacts⟩ := Option.map_eq_some_iff.mp crossing_facts
    simp only [Prod.mk.injEq] at hfacts
    obtain ⟨hcalls, huses, -⟩ := hfacts
    have hrun := Run.of_steps? hsteps
    have howned := senders_owned.1 hrun
    have hcall : r.client.calls[2]? = some
        ⟨.unsubscribe, "a", .returned (.error .closed), some (.error .closed)⟩ := by
      rw [hcalls]
      rfl
    refine ⟨steps, r, hrun, howned, ?_, huses, howned.closed 2 _ hcall (.inl rfl)⟩
    rw [hcalls]
    rfl
  · exact senders_owned.2 (Run.single (a := .outcome .connected) rfl)

end Relay

end LoraBridge.Broker
