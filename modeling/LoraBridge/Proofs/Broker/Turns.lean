import LoraBridge.Proofs.Broker.Steps

/-! # Calls take turns

  Of each kind only one call is under way at a time, and the slot for answers of its kind holds it
  or nothing.

  - `Call.Evolves`: what a step does to a single call.
  - `Client.Orderly`: calls of a kind have their turns in the order in which they were made.
-/

namespace LoraBridge.Broker

open Transport (Error)

variable {c : Client} {l l' : Link} {a : Link.Action} {i j : Nat} {call call' other : Call}
  {answer : Answer}

/-! ### Slots and calls of a client -/

theorem Client.slot?_setSlot (c : Client) (answer other : Answer) (call? : Option Nat) :
    (c.setSlot answer call?).slot? other = if other = answer then call? else c.slot? other := by
  cases answer <;> cases other <;> rfl

theorem Client.calls_setSlot (c : Client) (answer : Answer) (call? : Option Nat) :
    (c.setSlot answer call?).calls = c.calls := by
  cases answer <;> rfl

theorem Client.slot?_setPhase (c : Client) (i : Nat) (phase : Call.Phase) (answer : Answer) :
    (c.setPhase i phase).slot? answer = c.slot? answer := by
  cases answer <;> rfl

theorem Client.calls_setPhase (c : Client) (i : Nat) (phase : Call.Phase) (j : Nat) :
    (c.setPhase i phase).calls[j]? =
      if i = j then c.calls[j]?.map (fun call => { call with phase }) else c.calls[j]? := by
  rw [setPhase, List.getElem?_modify]
  by_cases h : i = j <;> simp [h]

theorem Client.calls_setPhase_self (hcall : c.calls[i]? = some call) (phase : Call.Phase) :
    (c.setPhase i phase).calls[i]? = some { call with phase } := by
  rw [calls_setPhase, if_pos rfl, hcall]
  rfl

/-- A call in another phase than the one that was set is another call. -/
theorem Client.ne_of_setPhase {phase : Call.Phase}
    (hcall : (c.setPhase i phase).calls[j]? = some call) (hphase : call.phase ≠ phase) :
    i ≠ j ∧ c.calls[j]? = some call := by
  rw [calls_setPhase] at hcall
  split at hcall
  · obtain ⟨before, -, rfl⟩ := Option.map_eq_some_iff.mp hcall
    exact absurd rfl hphase
  · next hne => exact ⟨hne, hcall⟩

theorem Client.slot?_resolve (c : Client) (answer other : Answer) (result : Except Error Unit) :
    (c.resolve answer result).slot? other = if other = answer then none else c.slot? other := by
  unfold resolve
  cases hslot : c.slot? answer with
  | none =>
    dsimp only
    split
    · next h => rw [h, hslot]
    · rfl
  | some i =>
    rw [slot?_setSlot]
    split
    · rfl
    · cases other <;> rfl

theorem Client.calls_resolve (c : Client) (answer : Answer) (result : Except Error Unit) (j : Nat) :
    (c.resolve answer result).calls[j]? =
      if c.slot? answer = some j then c.calls[j]?.map (Call.hand result) else c.calls[j]? := by
  unfold resolve
  cases hslot : c.slot? answer with
  | none => simp
  | some i =>
    rw [calls_setSlot, List.getElem?_modify]
    by_cases h : i = j <;> simp [h]

theorem Client.slot?_close (c : Client) (answer : Answer) : c.close.slot? answer = none := by
  rw [close, slot?_resolve, slot?_resolve]
  cases answer <;> rfl

/-- A call that was handed something is not handed anything more. -/
theorem Call.hand_hand (result : Except Error Unit) (call : Call) :
    (call.hand result).hand result = call.hand result := by
  by_cases h : call.listens = true
  · have hhanded : call.hand result = { call with answer? := some result } := by simp [hand, h]
    have hdeaf : ({ call with answer? := some result } : Call).listens = false := by
      unfold listens
      cases call.phase <;> rfl
    rw [hhanded, hand, hdeaf]
    rfl
  · have hsame : call.hand result = call := by simp [hand, h]
    rw [hsame, hsame]

theorem Client.calls_close (c : Client) (j : Nat) : c.close.calls[j]? =
    if c.slot? .suback = some j ∨ c.slot? .unsuback = some j then
      c.calls[j]?.map (Call.hand (.error .closed))
    else c.calls[j]? := by
  have hother : (c.resolve .suback (.error .closed)).slot? .unsuback = c.slot? .unsuback := by
    rw [slot?_resolve]
    rfl
  rw [close, calls_resolve, calls_resolve, hother]
  by_cases hsuback : c.slot? .suback = some j
  · by_cases hunsuback : c.slot? .unsuback = some j
    · rw [if_pos hunsuback, if_pos hsuback, if_pos (.inl hsuback), Option.map_map]
      congr 1
      funext call
      exact call.hand_hand _
    · rw [if_neg hunsuback, if_pos hsuback, if_pos (.inl hsuback)]
  · rw [if_neg hsuback]
    by_cases hunsuback : c.slot? .unsuback = some j
    · rw [if_pos hunsuback, if_pos (.inr hunsuback)]
    · rw [if_neg hunsuback, if_neg (not_or.mpr ⟨hsuback, hunsuback⟩)]

/-! ### What becomes of a call -/

/-- What a step does to the call with a number, under which conditions. -/
inductive Call.Evolves (l : Link) (i : Nat) : Link.Action → Call → Call → Prop
  | same {a : Link.Action} (call : Call) : Evolves l i a call call
  | enter {call : Call} (hphase : call.phase = .waiting)
    (hturn : l.client.isTurn i call.kind = true) :
    Evolves l i (.own (.enter i)) call { call with phase := .requesting }
  | request {call : Call} (hphase : call.phase = .requesting) :
    Evolves l i (.own (.request i)) call { call with phase := .pending }
  | fail {call : Call} (hphase : call.phase = .requesting) :
    Evolves l i (.own (.request i)) call { call with phase := .failed }
  | expire {call : Call} (hphase : call.phase = .pending) (hanswer : call.answer? = none) :
    Evolves l i (.own (.expire i)) call { call with phase := .expired }
  | clearFailed {call : Call} (hphase : call.phase = .failed) :
    Evolves l i (.own (.clear i)) call { call with phase := .returned (.error .client) }
  | clearExpired {call : Call} (hphase : call.phase = .expired) :
    Evolves l i (.own (.clear i)) call
      { call with phase := .returned (.error (.timeout call.kind.answer.name)) }
  | finish {call : Call} {result : Except Error Unit} (hphase : call.phase = .pending)
    (hanswer : call.answer? = some result) :
    Evolves l i (.own (.finish i)) call { call with phase := .returned (call.own result) }
  /-- It is handed an answer of the broker. -/
  | hand {call : Call} {k : Nat} {d : Debt} (hdebt : l.owed[k]? = some d)
    (hslot : l.client.slot? d.answer = some i) (hlistens : call.listens = true) :
    Evolves l i (.answer k) call { call with answer? := some d.result }
  /-- It is told that the session was lost. -/
  | lost {a : Link.Action} {call : Call} {answer : Answer}
    (hslot : l.client.slot? answer = some i) (hlistens : call.listens = true) :
    Evolves l i a call { call with answer? := some (.error .closed) }

theorem Call.listens_iff : call.listens = true ↔
    (call.phase = .requesting ∨ call.phase = .pending) ∧ call.answer? = none := by
  unfold listens
  cases call.phase <;> simp

theorem Call.result?_eq_some_iff {result : Except Error Unit} :
    call.result? = some result ↔ call.phase = .returned result := by
  unfold result?
  cases call.phase <;> simp

theorem Call.hasReturned_iff :
    call.hasReturned = true ↔ ∃ result, call.phase = .returned result := by
  unfold hasReturned result?
  cases call.phase <;> simp

/-- A call that is handed something has changed or does not listen. -/
theorem Call.hand_cases (result : Except Error Unit) (call : Call) :
    (call.listens = true ∧ call.hand result = { call with answer? := some result }) ∨
      call.hand result = call := by
  by_cases h : call.listens = true
  · exact .inl ⟨h, by simp [hand, h]⟩
  · exact .inr (by simp [hand, h])

/-- To be handed something is not to go on. -/
theorem Call.phase_hand (result : Except Error Unit) (call : Call) :
    (call.hand result).phase = call.phase ∧ (call.hand result).kind = call.kind := by
  rcases call.hand_cases result with ⟨-, h⟩ | h <;> rw [h] <;> exact ⟨rfl, rfl⟩

/-- A call that waits for an answer or is about to ask for it has the one it is handed, if it had no
    other. -/
theorem Call.answer?_hand {result : Except Error Unit}
    (hphase : call.phase = .requesting ∨ call.phase = .pending)
    (hanswer : call.answer? = none ∨ call.answer? = some result) :
    (call.hand result).answer? = some result := by
  rcases hanswer with hnone | hsome
  · simp [hand, listens_iff.mpr ⟨hphase, hnone⟩]
  · unfold hand
    split
    · rfl
    · exact hsome

/-- A call that a client has after one of its own steps is new or comes from one it had. -/
theorem Client.CallStep.evolves {action : Client.Action} {c' : Client}
    (h : l.client.CallStep action c') (hcall' : c'.calls[j]? = some call') :
    (l.client.calls[j]? = none ∧ ∃ kind filter, call' = { kind, filter }) ∨
      ∃ call, l.client.calls[j]? = some call ∧ Call.Evolves l j (.own action) call call' := by
  -- a call whose phase is set goes on to that phase, and all others stay the same
  have moved {i : Nat} {call : Call} {phase : Call.Phase} {action : Client.Action}
      (hcall : l.client.calls[i]? = some call)
      (hevolves : Call.Evolves l i (.own action) call { call with phase })
      (hcall' : (l.client.setPhase i phase).calls[j]? = some call') :
      ∃ call, l.client.calls[j]? = some call ∧ Call.Evolves l j (.own action) call call' := by
    rw [Client.calls_setPhase] at hcall'
    split at hcall'
    · next hij =>
      subst hij
      rw [hcall] at hcall'
      obtain rfl := Option.some.inj hcall'
      exact ⟨call, hcall, hevolves⟩
    · exact ⟨call', hcall', .same call'⟩
  cases h with
  | call kind filter =>
    rw [List.getElem?_append] at hcall'
    split at hcall'
    · exact .inr ⟨call', hcall', .same call'⟩
    · next hlt =>
      refine .inl ⟨List.getElem?_eq_none (by omega), kind, filter, ?_⟩
      exact List.mem_singleton.mp (List.mem_of_getElem? hcall')
  | enter hcall hphase hturn =>
    rw [Client.calls_setSlot] at hcall'
    exact .inr (moved hcall (.enter hphase hturn) hcall')
  | request hcall hphase hasks => exact .inr (moved hcall (.request hphase) hcall')
  | fail hcall hphase => exact .inr (moved hcall (.fail hphase) hcall')
  | expire hcall hphase hanswer => exact .inr (moved hcall (.expire hphase hanswer) hcall')
  | clearFailed hcall hphase =>
    rw [Client.setPhase, Client.calls_setSlot] at hcall'
    exact .inr (moved hcall (.clearFailed hphase) hcall')
  | clearExpired hcall hphase =>
    rw [Client.setPhase, Client.calls_setSlot] at hcall'
    exact .inr (moved hcall (.clearExpired hphase) hcall')
  | finish hcall hphase hanswer => exact .inr (moved hcall (.finish hphase hanswer) hcall')
  | same hsame =>
    rw [hsame.calls] at hcall'
    exact .inr ⟨call', hcall', .same call'⟩

/-- A call after a step is new or comes from a call before it. -/
theorem Link.Step.evolves (h : l.Step a l') (hcall' : l'.client.calls[j]? = some call') :
    (l.client.calls[j]? = none ∧ ∃ kind filter, call' = { kind, filter }) ∨
      ∃ call, l.client.calls[j]? = some call ∧ Call.Evolves l j a call call' := by
  cases h with
  | own h => exact h.evolves hcall'
  | answer hdebt hcalls hasks =>
    right
    rw [hcalls.calls, Client.calls_resolve] at hcall'
    split at hcall'
    · next hslot =>
      obtain ⟨call, hcall, rfl⟩ := Option.map_eq_some_iff.mp hcall'
      refine ⟨call, hcall, ?_⟩
      rcases call.hand_cases (Debt.result _) with ⟨hlistens, hhanded⟩ | hsame
      · rw [hhanded]
        exact .hand hdebt hslot hlistens
      · rw [hsame]
        exact .same call
    · exact ⟨call', hcall', .same call'⟩
  | lost hcalls hasks =>
    right
    rw [hcalls.calls, Client.calls_close] at hcall'
    split at hcall'
    · next hslots =>
      obtain ⟨answer, hslot⟩ : ∃ answer, l.client.slot? answer = some j :=
        hslots.elim (fun h => ⟨_, h⟩) fun h => ⟨_, h⟩
      obtain ⟨call, hcall, rfl⟩ := Option.map_eq_some_iff.mp hcall'
      refine ⟨call, hcall, ?_⟩
      rcases call.hand_cases (.error .closed) with ⟨hlistens, hhanded⟩ | hsame
      · rw [hhanded]
        exact .lost hslot hlistens
      · rw [hsame]
        exact .same call
    · exact ⟨call', hcall', .same call'⟩
  | same hcalls hasks =>
    rw [hcalls.calls] at hcall'
    exact .inr ⟨call', hcall', .same call'⟩

theorem Client.length_resolve (c : Client) (answer : Answer) (result : Except Error Unit) :
    (c.resolve answer result).calls.length = c.calls.length := by
  unfold resolve
  cases c.slot? answer with
  | none => rfl
  | some i => rw [calls_setSlot, List.length_modify]

theorem Client.CallStep.length_le {action : Client.Action} {c' : Client}
    (h : c.CallStep action c') : c.calls.length ≤ c'.calls.length := by
  cases h with
  | call kind filter => simp
  | enter => simp [Client.calls_setSlot, Client.setPhase]
  | clearFailed | clearExpired => simp [Client.setPhase, Client.calls_setSlot]
  | same hsame => exact Nat.le_of_eq (by rw [hsame.calls])
  | _ => simp [Client.setPhase]

/-- No call is forgotten. -/
theorem Link.Step.length_le (h : l.Step a l') :
    l.client.calls.length ≤ l'.client.calls.length := by
  cases h with
  | own h => exact h.length_le
  | answer hdebt hcalls hasks =>
    exact Nat.le_of_eq (by rw [hcalls.calls, Client.length_resolve])
  | lost hcalls hasks =>
    exact Nat.le_of_eq (by
      rw [hcalls.calls, Client.close, Client.length_resolve, Client.length_resolve])
  | same hcalls hasks => exact Nat.le_of_eq (by rw [hcalls.calls])

/-- New calls are made by steps that make one. -/
theorem Link.Step.length_eq (h : l.Step a l')
    (hnew : ∀ kind filter, a ≠ .own (.call kind filter)) :
    l'.client.calls.length = l.client.calls.length := by
  cases h with
  | own h =>
    cases h with
    | call kind filter => exact absurd rfl (hnew kind filter)
    | enter => simp [Client.calls_setSlot, Client.setPhase]
    | clearFailed | clearExpired => simp [Client.setPhase, Client.calls_setSlot]
    | same hsame => exact congrArg List.length hsame.calls
    | _ => simp [Client.setPhase]
  | answer hdebt hcalls hasks => rw [hcalls.calls, Client.length_resolve]
  | lost hcalls hasks =>
    rw [hcalls.calls, Client.close, Client.length_resolve, Client.length_resolve]
  | same hcalls hasks => rw [hcalls.calls]

/-- After any other step a call comes from one that there was before. -/
theorem Link.Step.exists_before (h : l.Step a l')
    (hnew : ∀ kind filter, a ≠ .own (.call kind filter))
    (hcall' : l'.client.calls[j]? = some call') :
    ∃ call, l.client.calls[j]? = some call ∧ Call.Evolves l j a call call' := by
  rcases h.evolves hcall' with ⟨hnone, -⟩ | hbefore
  · have hlt := (List.getElem?_eq_some_iff.mp hcall').1
    rw [h.length_eq hnew] at hlt
    rw [List.getElem?_eq_none_iff] at hnone
    omega
  · exact hbefore

/-- What a step makes of a call. -/
theorem Link.Step.exists_evolves (h : l.Step a l') (hcall : l.client.calls[j]? = some call) :
    ∃ call', l'.client.calls[j]? = some call' ∧ Call.Evolves l j a call call' := by
  have hlt : j < l'.client.calls.length :=
    Nat.lt_of_lt_of_le (List.getElem?_eq_some_iff.mp hcall).1 h.length_le
  obtain ⟨call', hcall'⟩ : ∃ call', l'.client.calls[j]? = some call' :=
    ⟨_, List.getElem?_eq_getElem hlt⟩
  refine ⟨call', hcall', ?_⟩
  rcases h.evolves hcall' with ⟨hnone, -⟩ | ⟨before, hbefore, hevolves⟩
  · simp [hnone] at hcall
  · obtain rfl := Option.some.inj (hbefore.symm.trans hcall)
    exact hevolves

/-- A call stays one of its kind. -/
theorem Call.Evolves.kind (h : Call.Evolves l i a call call') : call'.kind = call.kind := by
  cases h <;> rfl

/-- A call that has returned stays as it is. -/
theorem Call.Evolves.eq_of_returned (h : Call.Evolves l i a call call')
    (hreturned : call.hasReturned = true) : call' = call := by
  cases h with
  | same => rfl
  | hand hdebt hslot hlistens | lost hslot hlistens =>
    rcases (Call.listens_iff.mp hlistens).1 with hphase | hphase <;>
      simp [Call.hasReturned_iff, hphase] at hreturned
  | _ => simp [Call.hasReturned_iff, *] at hreturned

/-! ### Turns -/

/-- Whether a call in a phase is under way. -/
def Call.Phase.isActive : Call.Phase → Bool
  | .waiting | .returned _ => false
  | _ => true

/-- Whether a call is under way: it has had its turn and has not returned. -/
def Call.isActive (call : Call) : Bool := call.phase.isActive

/-- Calls of a kind take turns, and the slot for answers of the kind holds a call whose turn it is
    and that has not been answered. -/
structure Client.Orderly (c : Client) : Prop where
  /-- When a call has had its turn, all calls of its kind before it have returned. -/
  turn : ∀ (i j : Nat) call other, j < i → c.calls[i]? = some call → c.calls[j]? = some other →
    other.kind.answer = call.kind.answer → call.phase ≠ .waiting → other.hasReturned = true
  /-- A call has been told nothing before its turn. -/
  waiting : ∀ (i : Nat) call, c.calls[i]? = some call → call.phase = .waiting →
    call.answer? = none
  slot : ∀ answer i, c.slot? answer = some i → ∃ call, c.calls[i]? = some call ∧
    call.kind.answer = answer ∧ call.isActive = true ∧ call.answer? = none

theorem Call.isActive_of {phase : Call.Phase} (hphase : call.phase = phase)
    (hactive : phase.isActive = true) : call.isActive = true := by
  rw [isActive, hphase, hactive]

theorem Call.isActive_iff : call.isActive = true ↔
    call.phase ≠ .waiting ∧ call.hasReturned = false := by
  unfold isActive hasReturned result?
  cases call.phase <;> simp [Phase.isActive]

theorem Client.isTurn_iff {kind : Call.Kind} : c.isTurn i kind = true ↔
    ∀ j other, j < i → c.calls[j]? = some other → other.kind.answer = kind.answer →
      other.hasReturned = true := by
  simp only [isTurn, List.all_eq_true, Bool.or_eq_true, decide_eq_true_eq]
  constructor
  · intro h j other hlt hother hkind
    have hmem : other ∈ c.calls.take i := by
      refine List.mem_of_getElem? (i := j) ?_
      rw [List.getElem?_take, if_pos hlt, hother]
    exact (h other hmem).resolve_left (by simp [hkind])
  · intro h other hmem
    obtain ⟨j, hj⟩ := List.getElem?_of_mem hmem
    rw [List.getElem?_take] at hj
    split at hj
    · next hlt =>
      by_cases hkind : other.kind.answer = kind.answer
      · exact .inr (h j other hlt hj hkind)
      · exact .inl hkind
    · simp at hj

/-- Of each kind at most one call is under way. -/
theorem Client.Orderly.unique (hs : c.Orderly) (hcall : c.calls[i]? = some call)
    (hother : c.calls[j]? = some other) (hkind : other.kind.answer = call.kind.answer)
    (hactive : call.isActive = true) (hactive' : other.isActive = true) : i = j := by
  obtain ⟨hturn, hgoing⟩ := Call.isActive_iff.mp hactive
  obtain ⟨hturn', hgoing'⟩ := Call.isActive_iff.mp hactive'
  rcases Nat.lt_trichotomy i j with hlt | heq | hlt
  · simp [hs.turn j i other call hlt hother hcall hkind.symm hturn'] at hgoing
  · exact heq
  · simp [hs.turn i j call other hlt hcall hother hkind hturn] at hgoing'

/-- A call whose turn it is follows none that is under way. -/
theorem Client.Orderly.idle_of_turn (hs : c.Orderly)
    (hcall : c.calls[i]? = some call) (hphase : call.phase = .waiting)
    (hturn : c.isTurn i call.kind = true) (hother : c.calls[j]? = some other)
    (hkind : other.kind.answer = call.kind.answer) : other.isActive = false := by
  rw [← Bool.not_eq_true, Call.isActive_iff]
  rintro ⟨hstarted, hgoing⟩
  rcases Nat.lt_trichotomy j i with hlt | rfl | hlt
  · simp [Client.isTurn_iff.mp hturn j other hlt hother hkind] at hgoing
  · obtain rfl := Option.some.inj (hother.symm.trans hcall)
    exact hstarted hphase
  · have hreturned := hs.turn j i other call hlt hother hcall hkind.symm hstarted
    simp [Call.hasReturned_iff, hphase] at hreturned

/-- What is known of the call in a slot. -/
theorem Client.Orderly.of_slot (hs : c.Orderly) (hslot : c.slot? answer = some i)
    (hcall : c.calls[i]? = some call) :
    call.kind.answer = answer ∧ call.isActive = true ∧ call.answer? = none := by
  obtain ⟨found, hfound, hrest⟩ := hs.slot answer i hslot
  obtain rfl := Option.some.inj (hfound.symm.trans hcall)
  exact hrest

theorem Client.Orderly.start : Client.Orderly {} := by
  refine ⟨by simp, by simp, ?_⟩
  intro answer i h
  cases answer <;> simp [Client.slot?] at h

/-- A call that waits was waiting, and one that has its turn now has had its turn before or gets it
    in this step. -/
theorem Call.Evolves.waiting (h : Call.Evolves l i a call call') :
    (call'.phase = .waiting → call' = call) ∧
      (call'.phase ≠ .waiting → call.phase ≠ .waiting ∨ l.client.isTurn i call.kind = true) := by
  cases h with
  | same => exact ⟨fun _ => rfl, .inl⟩
  | enter hphase hturn => exact ⟨by simp, fun _ => .inr hturn⟩
  | hand hdebt hslot hlistens | lost hslot hlistens =>
    have hphase : call.phase ≠ .waiting := by
      rcases (Call.listens_iff.mp hlistens).1 with hphase | hphase <;> simp [hphase]
    exact ⟨fun hwaiting => absurd hwaiting hphase, fun _ => .inl hphase⟩
  | _ => simp [*]

/-- The slot keeps its call when a call goes on to a phase in which it is under way, and when
    another call goes on to any phase. -/
theorem Client.Orderly.slot_setPhase (hs : c.Orderly) (hslot : c.slot? answer = some i)
    {phase : Call.Phase} (hphase : j = i → phase.isActive = true) :
    ∃ call, (c.setPhase j phase).calls[i]? = some call ∧ call.kind.answer = answer ∧
      call.isActive = true ∧ call.answer? = none := by
  obtain ⟨call, hcall, hkind, hactive, hanswer⟩ := hs.slot answer i hslot
  rw [calls_setPhase, hcall]
  by_cases hji : j = i
  · exact ⟨{ call with phase }, by rw [if_pos hji]; rfl, hkind, hphase hji, hanswer⟩
  · exact ⟨call, by rw [if_neg hji], hkind, hactive, hanswer⟩

/-- The call in a slot is none that is not under way, and none that has been answered. -/
theorem Client.Orderly.ne_of_slot (hs : c.Orderly) (hslot : c.slot? answer = some i)
    (hcall : c.calls[j]? = some call)
    (hnone : call.isActive = false ∨ call.answer? ≠ none ∨ call.kind.answer ≠ answer) : j ≠ i := by
  rintro rfl
  obtain ⟨hkind, hactive, hanswer⟩ := hs.of_slot hslot hcall
  rcases hnone with hnone | hnone | hnone
  · simp [hactive] at hnone
  · exact hnone hanswer
  · exact hnone hkind

theorem Client.CallStep.slot {action : Client.Action} {c' : Client} (h : c.CallStep action c')
    (hs : c.Orderly) (hslot : c'.slot? answer = some i) :
    ∃ call, c'.calls[i]? = some call ∧ call.kind.answer = answer ∧ call.isActive = true ∧
      call.answer? = none := by
  cases h with
  | call kind filter =>
    obtain ⟨call, hcall, hrest⟩ := hs.slot answer i (by cases answer <;> exact hslot)
    have hlt := (List.getElem?_eq_some_iff.mp hcall).1
    exact ⟨call, by rw [List.getElem?_append_left hlt, hcall], hrest⟩
  | @enter j call hcall hphase hturn =>
    rw [Client.slot?_setSlot] at hslot
    rw [Client.calls_setSlot]
    split at hslot
    · next hkind =>
      -- the call that has its turn now is in the slot
      obtain rfl := Option.some.inj hslot
      exact ⟨_, Client.calls_setPhase_self hcall _, hkind.symm, rfl,
        hs.waiting j call hcall hphase⟩
    · rw [Client.slot?_setPhase] at hslot
      exact hs.slot_setPhase hslot fun _ => rfl
  | request hcall hphase hasks =>
    have hbefore : c.slot? answer = some i := by cases answer <;> exact hslot
    exact hs.slot_setPhase hbefore fun _ => rfl
  | fail hcall hphase | expire hcall hphase hanswer =>
    rw [Client.slot?_setPhase] at hslot
    exact hs.slot_setPhase hslot fun _ => rfl
  | clearFailed hcall hphase | clearExpired hcall hphase =>
    rw [Client.slot?_setPhase, Client.slot?_setSlot] at hslot
    split at hslot
    · simp at hslot
    · next hkind =>
      have hne := hs.ne_of_slot hslot hcall (.inr (.inr (Ne.symm hkind)))
      rw [Client.setPhase, Client.calls_setSlot]
      exact hs.slot_setPhase hslot fun heq => absurd heq hne
  | finish hcall hphase hanswer =>
    rw [Client.slot?_setPhase] at hslot
    have hne := hs.ne_of_slot hslot hcall (.inr (.inl (by simp [hanswer])))
    exact hs.slot_setPhase hslot fun heq => absurd heq hne
  | same hsame =>
    rw [hsame.slot?] at hslot
    rw [hsame.calls]
    exact hs.slot answer i hslot

theorem Link.Step.orderly (h : l.Step a l') (hs : l.client.Orderly) : l'.client.Orderly := by
  constructor
  case turn =>
    intro i j call' other' hlt hcall' hother' hkind hturn
    rcases h.evolves hcall' with ⟨-, kind, filter, rfl⟩ | ⟨call, hcall, hevolves⟩
    · exact absurd rfl hturn
    · obtain ⟨other, hother⟩ : ∃ other, l.client.calls[j]? = some other :=
        ⟨_, List.getElem?_eq_getElem (Nat.lt_trans hlt (List.getElem?_eq_some_iff.mp hcall).1)⟩
      obtain ⟨found, hfound, hevolves'⟩ := h.exists_evolves hother
      obtain rfl := Option.some.inj (hfound.symm.trans hother')
      rw [hevolves.kind, hevolves'.kind] at hkind
      -- the other call had returned before the step, and so it stays as it was
      have hreturned : other.hasReturned = true := by
        rcases hevolves.waiting.2 hturn with hbefore | hnow
        · exact hs.turn i j call other hlt hcall hother hkind hbefore
        · exact Client.isTurn_iff.mp hnow j other hlt hother hkind
      rw [hevolves'.eq_of_returned hreturned]
      exact hreturned
  case waiting =>
    intro i call' hcall' hwaiting
    rcases h.evolves hcall' with ⟨-, kind, filter, rfl⟩ | ⟨call, hcall, hevolves⟩
    · rfl
    · obtain rfl := hevolves.waiting.1 hwaiting
      exact hs.waiting i _ hcall hwaiting
  case slot =>
    intro answer i hslot
    cases h with
    | own h => exact h.slot hs hslot
    | answer hdebt hcalls hasks =>
      rw [hcalls.slot?, Client.slot?_resolve] at hslot
      split at hslot
      · simp at hslot
      · next hne =>
        obtain ⟨call, hcall, hkind, hactive, hanswer⟩ := hs.slot answer i hslot
        refine ⟨call, ?_, hkind, hactive, hanswer⟩
        -- the call in this slot is not the one that is answered, which is of another kind
        rw [hcalls.calls, Client.calls_resolve, if_neg, hcall]
        intro hslot'
        exact hs.ne_of_slot hslot' hcall (.inr (.inr (by rwa [hkind]))) rfl
    | lost hcalls hasks =>
      rw [hcalls.slot?, Client.slot?_close] at hslot
      simp at hslot
    | same hcalls hasks =>
      rw [hcalls.slot?] at hslot
      rw [hcalls.calls]
      exact hs.slot answer i hslot

end LoraBridge.Broker
