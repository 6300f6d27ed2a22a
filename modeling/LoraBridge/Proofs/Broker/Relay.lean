import LoraBridge.Proofs.Broker.Translation
import LoraBridge.Proofs.Broker.Turns

/-! # How answers get to calls

  `Client.react` hands an answer to a call in one step. The loop and the calls share nothing but the
  slots, though, and each of them touches a slot only for a moment: others may take their steps in
  between. A `Relay` is a client at that grain.

  - A slot holds the sender of a call. The loop takes the sender out of its slot in one step and
    uses it in another one. If the call has given up by then, the answer is lost.
  - When the session is lost, the loop does this with one slot after the other. In the end it
    reports the loss.
  - Whatever a call puts into a slot, its sender or nothing, takes the place of what is there. The
    sender that was there is dropped, and a call that still waits for it fails with `Error.closed`.

  - `Relay.Step`, `Relay.step_cases`: what can happen, case by case.
  - `Relay.Step.loss_of_reported`: a loss is reported when it has been dealt with.
  - `Relay.exists_run_react`: a loop that nobody interferes with does what `Client.react` says.
-/

namespace LoraBridge.Broker

open Transport (ConnectFault Error Event)

/-! ### What the loop has to do -/

/-- What the loop has to do for calls before it turns to its connection again. -/
structure Duty where
  /-- The answers that are left, each for the call in the slot of its kind. -/
  answers : List (Answer × Except Error Unit)
  /-- The call whose sender the loop has taken out of a slot, and what it is about to send. -/
  sender? : Option (Nat × Except Error Unit) := none
  /-- The loss of the session that is reported in the end. -/
  loss? : Option ConnectFault := none

/-- What the loop has to do when the session is lost. -/
def Duty.ofLoss (fault : ConnectFault) : Duty :=
  { answers := [(.suback, .error .closed), (.unsuback, .error .closed)], loss? := some fault }

/-- What an outcome of the connection gives the loop to do for calls. A session that is lost while
    the client is leaving, or that has not come about, is nothing to them. -/
def Outcome.duty? (l : Loop) : Outcome → Option Duty
  | .suback _ refused =>
    some { answers := [(.suback, if refused then .error (.subscribeRefused "") else .ok ())] }
  | .unsuback _ => some { answers := [(.unsuback, .ok ())] }
  | .failed fault => if l.reportsLoss then some (.ofLoss fault) else none
  | _ => none

/-- The client while its loop is given what comes of an action: its outbox has been seen to. -/
def Client.polling (c : Client) : Client.Action → Client
  | .transmit => (c.prepare?.map (·.2)).getD c
  | .ping => { c with outbox := c.outbox.ping.2 }
  | .pong => { c with outbox := { c.outbox with waits := false } }
  | .acknowledge number => { c with outbox := (c.outbox.acknowledge number).2 }
  | _ => c

/-- The client after the sender of a call was used. -/
def Client.hand (c : Client) (i : Nat) (result : Except Error Unit) : Client :=
  { c with calls := c.calls.modify i (Call.hand result) }

/-- The calls whose senders are in a slot of one client and not in that slot of the next. -/
def Client.replaced (c c' : Client) : List Nat :=
  [Answer.suback, .unsuback].filterMap fun answer =>
    if c'.slot? answer = c.slot? answer then none else c.slot? answer

namespace Loop

theorem events_report (l : Loop) (event : Event) :
    (l.report event).events = if l.receiver then l.events ++ [event] else l.events := by
  unfold report
  split <;> rfl

/-- Whether a loop has reported one more event, the loss of a session. -/
def Reported (l l' : Loop) (message : String) : Prop := l'.events = l.events ++ [.lost message]

variable {l l' : Loop} {message : String}

theorem not_reported (h : l'.events.length ≤ l.events.length) : ¬ l.Reported l' message := by
  intro hreported
  have hlength := congrArg List.length hreported
  rw [List.length_append, List.length_singleton] at hlength
  omega

theorem reported_report {event : Event} (h : l.Reported (l.report event) message) :
    event = .lost message := by
  unfold Reported at h
  rw [events_report] at h
  split at h
  · exact List.singleton_inj.mp (List.append_cancel_left h)
  · exact absurd h (not_reported (Nat.le_refl _))

/-- What is nothing to calls is not the loss of a session. -/
theorem not_reported_react {outcome : Outcome} (hnone : outcome.duty? l = none) :
    ¬ l.Reported (l.react outcome) message := by
  intro h
  unfold react at h
  split at h
  · exact not_reported (Nat.le_refl _) h
  · next hruns =>
    cases outcome with
    | connected => simpa using reported_report (l := { l.tell (.ok ()) with phase := .running }) h
    | message topic payload => simpa using reported_report h
    | failed fault =>
      dsimp only at h
      split at h
      · exact not_reported (Nat.le_refl _) h
      · next hfirst =>
        split at h
        · exact not_reported (Nat.le_refl _) h
        · next hstays =>
          -- a loop that reports the loss deals with it before
          have hphase : l.phase = .running := by
            cases hphase : l.phase with
            | running => rfl
            | connecting => exact absurd hphase hfirst
            | stopped => exact absurd hphase hruns
          simp [Outcome.duty?, reportsLoss, hphase, hstays] at hnone
    | _ => exact not_reported (Nat.le_refl _) h

end Loop

namespace Client

variable {c c' c'' : Client} {a : Action}

theorem SameCalls.trans (h : c.SameCalls c') (h' : c'.SameCalls c'') : c.SameCalls c'' :=
  ⟨h'.calls.trans h.calls, h'.suback.trans h.suback, h'.unsuback.trans h.unsuback⟩

theorem polling_of_prepare? {dispatch : Dispatch} (h : c.prepare? = some (dispatch, c')) :
    c.polling .transmit = c' := by
  simp [polling, h]

/-- What is done about the outbox is nothing to calls, -/
theorem sameCalls_polling (c : Client) (a : Action) : c.SameCalls (c.polling a) := by
  cases a with
  | transmit =>
    cases hprepare : c.prepare? with
    | none =>
      simp only [polling, hprepare]
      exact ⟨rfl, rfl, rfl⟩
    | some prepared =>
      obtain ⟨dispatch, c'⟩ := prepared
      rw [polling_of_prepare? hprepare]
      unfold prepare? at hprepare
      split at hprepare
      · obtain ⟨⟨other, outbox⟩, -, heq⟩ := Option.map_eq_some_iff.mp hprepare
        obtain ⟨-, rfl⟩ := Prod.mk.inj heq
        exact ⟨rfl, rfl, rfl⟩
      · simp at hprepare
  | _ => exact ⟨rfl, rfl, rfl⟩

/-- and nothing to the loop. -/
theorem loop_polling (c : Client) (a : Action) : (c.polling a).loop = c.loop := by
  cases a with
  | transmit =>
    cases hprepare : c.prepare? with
    | none => simp [polling, hprepare]
    | some prepared =>
      rw [polling_of_prepare? hprepare]
      exact loop_prepare? hprepare
  | _ => rfl

/-- What an action of the loop does is what the loop makes of the outcome. -/
theorem eq_of_polled? (hloop : Link.isOwn a = false) (h : c.step? a = some c') :
    c' = ((c.polled? a).map (c.polling a).react).getD (c.polling a) := by
  cases a with
  | transmit =>
    obtain ⟨⟨dispatch, sent⟩, hprepare, rfl⟩ := Option.map_eq_some_iff.mp h
    rw [polling_of_prepare? hprepare]
    simp only [polled?, hprepare, Option.bind_some]
    cases dispatch with
    | send packet => cases packet <;> rfl
    | _ => rfl
  | ping =>
    simp only [step?, Option.ite_none_right_eq_some, Option.some.injEq] at h
    obtain ⟨-, rfl⟩ := h
    unfold ping polling polled?
    dsimp only
    split <;> rfl
  | pong =>
    obtain rfl := Option.some.inj h
    rfl
  | acknowledge number =>
    obtain rfl := Option.some.inj h
    unfold acknowledge
    simp only [takeAll, take, settled, polling, polled?]
    cases (c.outbox.acknowledge number).1 with
    | true => rfl
    | false =>
      simp only [Bool.false_eq_true, if_false, List.append_nil]
      rfl
  | outcome outcome =>
    obtain rfl := Option.some.inj h
    rfl
  | _ => simp [Link.isOwn] at hloop

/-- What the loop has no part in is not reported as a loss. -/
theorem not_reported_own {message : String} (hown : Link.isOwn a = true)
    (h : c.step? a = some c') : ¬ c.loop.Reported c'.loop message := by
  apply Loop.not_reported
  have hloop := loopStep_of_step? h
  generalize c'.loop = l at hloop ⊢
  cases hloop with
  | poll hpolled => cases a <;> simp [Link.isOwn, polled?] at hown hpolled
  | take hevents => simp [hevents]
  | drop => exact Nat.zero_le _
  | leave | idle => exact Nat.le_refl _

theorem setSlot_slot? (c : Client) (answer : Answer) :
    c.setSlot answer (c.slot? answer) = c := by
  cases answer <;> rfl

theorem resolve_of_none {answer : Answer} (hslot : c.slot? answer = none)
    (result : Except Error Unit) : c.resolve answer result = c.setSlot answer none := by
  have hsame := c.setSlot_slot? answer
  rw [hslot] at hsame
  unfold resolve
  rw [hslot, hsame]

theorem resolve_of_some {answer : Answer} {i : Nat} (hslot : c.slot? answer = some i)
    (result : Except Error Unit) :
    c.resolve answer result = (c.setSlot answer none).hand i result := by
  unfold resolve
  rw [hslot]
  cases answer <;> rfl

/-- An outcome that is nothing to a loop that runs is nothing to its client either. -/
theorem eq_of_react {outcome : Outcome} (hruns : c.loop.phase ≠ .stopped)
    (hsame : c.loop.react outcome = c.loop) (hloop : c'.loop = c.loop) :
    { c' with loop := c'.loop.react outcome,
              up := c'.up && (c'.loop.react outcome).phase ≠ .stopped } = c' := by
  rw [hloop, hsame, ← hloop]
  rw [← hloop] at hruns
  simp [hruns]

theorem react_suback (hruns : c.loop.phase ≠ .stopped) (number : Nat) (refused : Bool) :
    c.react (.suback number refused) =
      c.resolve .suback (if refused then .error (.subscribeRefused "") else .ok ()) := by
  unfold react
  rw [if_neg hruns]
  apply eq_of_react hruns
  · simp [Loop.react]
  · exact (c.loop_resolve _ _).1

theorem react_unsuback (hruns : c.loop.phase ≠ .stopped) (number : Nat) :
    c.react (.unsuback number) = c.resolve .unsuback (.ok ()) := by
  unfold react
  rw [if_neg hruns]
  apply eq_of_react hruns
  · simp [Loop.react]
  · exact (c.loop_resolve _ _).1

/-- The loss of a session that the loop reports. -/
theorem react_lost (hreports : c.loop.reportsLoss = true) (fault : ConnectFault) :
    c.react (.failed fault) =
      { c.down.close with loop := c.down.close.loop.report (.lost fault.message) } := by
  obtain ⟨hloop, hup⟩ := c.down.loop_resolve .suback (.error .closed)
  obtain ⟨hloop', hup'⟩ :=
    (c.down.resolve .suback (.error .closed)).loop_resolve .unsuback (.error .closed)
  have hclosed : c.down.close.loop = c.loop := hloop'.trans hloop
  have hdown : c.down.close.up = false := hup'.trans hup
  have hstill : c.down.loop.reportsLoss = true := hreports
  rw [Loop.reportsLoss, Bool.and_eq_true, decide_eq_true_eq, Bool.not_eq_true'] at hreports
  obtain ⟨hphase, hstays⟩ := hreports
  have hreact : c.loop.react (.failed fault) = c.loop.report (.lost fault.message) := by
    simp [Loop.react, hphase, hstays]
  unfold react
  rw [if_neg (by simp [hphase])]
  simp only [hstill, if_true]
  change { c.down.close with
    loop := c.down.close.loop.react (.failed fault),
    up := c.down.close.up &&
      decide ((c.down.close.loop.react (.failed fault)).phase ≠ Loop.Phase.stopped) } = _
  rw [hclosed, hdown, hreact, Bool.false_and, ← hdown]

/-- An outcome that gives the loop nothing to do for calls is nothing to them. -/
theorem sameCalls_react (c : Client) {outcome : Outcome} (hnone : outcome.duty? c.loop = none) :
    c.SameCalls (c.react outcome) := by
  unfold react
  split
  · exact ⟨rfl, rfl, rfl⟩
  · cases outcome with
    | suback | unsuback => simp [Outcome.duty?] at hnone
    | failed fault =>
      have hsilent : c.loop.reportsLoss = false := by simpa [Outcome.duty?] using hnone
      have hsilent : c.down.loop.reportsLoss = false := hsilent
      simp only [hsilent]
      exact ⟨rfl, rfl, rfl⟩
    | _ => exact ⟨rfl, rfl, rfl⟩

end Client

/-! ### The relay -/

/-- A client whose loop may be about to answer calls. -/
structure Relay where
  client : Client := {}
  /-- What the loop has to do, unless it waits for its connection. -/
  duty? : Option Duty := none
  /-- The calls whose senders were dropped. -/
  dropped : List Nat := []

namespace Relay

/-- What happens next to a relay. -/
inductive Action where
  /-- A call, or somebody else who has to do with the client, takes a step. -/
  | own (action : Client.Action)
  /-- A call learns that its sender was dropped, and returns. -/
  | forsake (i : Nat)
  /-- The connection gives the loop what comes of an action. -/
  | poll (action : Client.Action)
  /-- The loop takes the next sender out of its slot, if there is one. -/
  | take
  /-- The loop uses the sender that it has taken. -/
  | send
  /-- The loop has done what it had to do, and reports a loss. -/
  | conclude
deriving Repr

variable (r : Relay)

/-- The call whose sender the loop has, and what it is about to send. -/
def sending? : Option (Nat × Except Error Unit) := r.duty?.bind (·.sender?)

/-- The loss that the loop is dealing with. -/
def loss? : Option ConnectFault := r.duty?.bind (·.loss?)

/-- Whether a call would give up though its sender was dropped, which it learns of at once. -/
def isForsaken : Client.Action → Bool
  | .expire i => r.dropped.contains i
  | _ => false

/-- The relay after a step that the loop has no part in. -/
def own? (action : Client.Action) : Option Relay :=
  if Link.isOwn action && !r.isForsaken action then
    (r.client.step? action).map fun client =>
      { r with client, dropped := r.dropped ++ r.client.replaced client }
  else none

/-- The relay after a call has learnt that its sender was dropped. -/
def forsake? (i : Nat) : Option Relay := do
  let call ← r.client.calls[i]?
  let .pending := call.phase | none
  if r.dropped.contains i && call.answer?.isNone then
    some { r with client := r.client.setPhase i (.returned (.error .closed)) }
  else none

/-- The relay after an outcome was given to the loop. -/
def face (outcome : Outcome) : Relay :=
  if r.client.loop.phase = .stopped then r
  else match outcome.duty? r.client.loop with
    | some duty =>
      { r with client := if duty.loss?.isSome then r.client.down else r.client,
               duty? := some duty }
    | none => { r with client := r.client.react outcome }

/-- The relay after the loop was given what comes of an action. -/
def poll? (action : Client.Action) : Option Relay :=
  if r.duty?.isSome || Link.isOwn action then none
  else (r.client.step? action).map fun _ =>
    let r' := { r with client := r.client.polling action }
    ((r.client.polled? action).map r'.face).getD r'

/-- The relay after the loop has emptied the next slot. -/
def take? : Option Relay := do
  let duty ← r.duty?
  match duty.sender?, duty.answers with
  | none, (answer, result) :: answers =>
    let sender? := (r.client.slot? answer).map (·, result)
    some { r with client := r.client.setSlot answer none,
                  duty? := some { duty with answers, sender? } }
  | _, _ => none

/-- The relay after the loop has used the sender that it had taken. -/
def send? : Option Relay := do
  let duty ← r.duty?
  let (i, result) ← duty.sender?
  some { r with client := r.client.hand i result, duty? := some { duty with sender? := none } }

/-- The relay after the loop has reported the loss that it was dealing with, if any. -/
def conclude? : Option Relay := do
  let duty ← r.duty?
  match duty.sender?, duty.answers with
  | none, [] =>
    let loop := (duty.loss?.map fun fault => r.client.loop.report (.lost fault.message)).getD
      r.client.loop
    some { r with client := { r.client with loop }, duty? := none }
  | _, _ => none

/-- The relay after an action, if the action is possible. -/
def step? : Action → Option Relay
  | .own action => r.own? action
  | .forsake i => r.forsake? i
  | .poll action => r.poll? action
  | .take => r.take?
  | .send => r.send?
  | .conclude => r.conclude?

/-- The fault by which the session is lost in a step, if the loop goes on. -/
def loses? : Action → Option ConnectFault
  | .poll action =>
    match r.client.polled? action with
    | some (.failed fault) => if r.client.loop.reportsLoss then some fault else none
    | _ => none
  | _ => none

/-! ### Steps by their cases -/

/-- What an action does to a relay, under which conditions. -/
inductive Step (r : Relay) : Action → Relay → Prop
  | own {action : Client.Action} {c' : Client} (hstep : r.client.CallStep action c')
    (hforsaken : r.isForsaken action = false)
    (hsilent : ∀ message, ¬ r.client.loop.Reported c'.loop message) :
    Step r (.own action)
      { r with client := c', dropped := r.dropped ++ r.client.replaced c' }
  | forsake {i : Nat} {call : Call} (hdropped : i ∈ r.dropped)
    (hcall : r.client.calls[i]? = some call) (hphase : call.phase = .pending) :
    Step r (.forsake i) { r with client := r.client.setPhase i (.returned (.error .closed)) }
  /-- What comes of the connection is nothing to calls. -/
  | idle {action : Client.Action} {c' : Client} (hduty : r.duty? = none)
    (hcalls : r.client.SameCalls c') (hloses : r.loses? (.poll action) = none)
    (hsilent : ∀ message, ¬ r.client.loop.Reported c'.loop message) :
    Step r (.poll action) { r with client := c' }
  /-- The broker has given an answer. -/
  | answered {action : Client.Action} {c' : Client} {answer : Answer}
    {result : Except Error Unit} (hduty : r.duty? = none) (hcalls : r.client.SameCalls c')
    (hloop : c'.loop = r.client.loop) (hloses : r.loses? (.poll action) = none)
    (hresult : result ≠ .error .closed) :
    Step r (.poll action) { r with client := c', duty? := some { answers := [(answer, result)] } }
  | lost {action : Client.Action} {c' : Client} {fault : ConnectFault} (hduty : r.duty? = none)
    (hcalls : r.client.SameCalls c') (hloop : c'.loop = r.client.loop)
    (hloses : r.loses? (.poll action) = some fault) :
    Step r (.poll action) { r with client := c', duty? := some (.ofLoss fault) }
  | take {duty : Duty} {answer : Answer} {result : Except Error Unit}
    {answers : List (Answer × Except Error Unit)} (hduty : r.duty? = some duty)
    (hsender : duty.sender? = none) (hanswers : duty.answers = (answer, result) :: answers) :
    Step r .take
      { r with client := r.client.setSlot answer none,
               duty? := some { duty with
                 answers, sender? := (r.client.slot? answer).map (·, result) } }
  | send {duty : Duty} {i : Nat} {result : Except Error Unit} (hduty : r.duty? = some duty)
    (hsender : duty.sender? = some (i, result)) :
    Step r .send
      { r with client := r.client.hand i result, duty? := some { duty with sender? := none } }
  | conclude {duty : Duty} {loop : Loop} (hduty : r.duty? = some duty)
    (hsender : duty.sender? = none) (hanswers : duty.answers = [])
    (hloop : loop = (duty.loss?.map fun fault =>
      r.client.loop.report (.lost fault.message)).getD r.client.loop) :
    Step r .conclude { r with client := { r.client with loop }, duty? := none }

variable {r} {r' : Relay} {a : Action}

/-- What comes of the connection is looked at in one of these ways. -/
theorem step_poll {action : Client.Action} (h : r.poll? action = some r') :
    r.Step (.poll action) r' := by
  unfold poll? at h
  split at h
  · simp at h
  · next hfree =>
    obtain ⟨-, -, rfl⟩ := Option.map_eq_some_iff.mp h
    rw [Bool.or_eq_true, not_or] at hfree
    have hduty : r.duty? = none := by simpa using hfree.1
    have hcalls := r.client.sameCalls_polling action
    have hloop := r.client.loop_polling action
    have hsame (message : String) :
        ¬ r.client.loop.Reported (r.client.polling action).loop message := by
      rw [hloop]
      exact Loop.not_reported (Nat.le_refl _)
    cases hpolled : r.client.polled? action with
    | none => exact .idle hduty hcalls (by simp [loses?, hpolled]) hsame
    | some outcome =>
      show r.Step _ (face { r with client := r.client.polling action } outcome)
      unfold face
      dsimp only
      rw [hloop]
      split
      · next hstopped =>
        refine .idle hduty hcalls ?_ hsame
        -- a loop that has ended loses nothing
        cases outcome <;> simp [loses?, hpolled, Loop.reportsLoss, hstopped]
      · cases hanswers : outcome.duty? r.client.loop with
        | none =>
          refine .idle hduty (hcalls.trans (Client.sameCalls_react _ (by rwa [hloop]))) ?_ ?_
          · cases outcome with
            | failed fault => simpa [loses?, hpolled, Outcome.duty?] using hanswers
            | _ => simp [loses?, hpolled]
          · intro message
            rw [Client.loop_react, hloop]
            exact Loop.not_reported_react hanswers
        | some duty =>
          cases outcome with
          | suback number refused =>
            obtain rfl := Option.some.inj hanswers
            refine .answered hduty hcalls hloop (by simp [loses?, hpolled]) ?_
            cases refused <;> simp
          | unsuback number =>
            obtain rfl := Option.some.inj hanswers
            exact .answered hduty hcalls hloop (by simp [loses?, hpolled]) (by simp)
          | failed fault =>
            simp only [Outcome.duty?, Option.ite_none_right_eq_some, Option.some.injEq] at hanswers
            obtain ⟨hreports, rfl⟩ := hanswers
            refine .lost hduty (hcalls.trans ⟨rfl, rfl, rfl⟩) hloop ?_
            simp [loses?, hpolled, hreports]
          | _ => simp [Outcome.duty?] at hanswers

theorem step_cases (h : r.step? a = some r') : r.Step a r' := by
  cases a with
  | own action =>
    simp only [step?, own?] at h
    split at h
    · next hown =>
      obtain ⟨c', hstep, rfl⟩ := Option.map_eq_some_iff.mp h
      rw [Bool.and_eq_true, Bool.not_eq_true'] at hown
      exact .own (Client.callStep_of_own hown.1 hstep) hown.2
        (fun _ => Client.not_reported_own hown.1 hstep)
    · simp at h
  | forsake i =>
    simp only [step?, forsake?, Option.bind_eq_bind, Option.bind_eq_some_iff] at h
    obtain ⟨call, hcall, h⟩ := h
    split at h
    · next hphase =>
      split at h
      · next hforsaken =>
        obtain rfl := Option.some.inj h
        rw [Bool.and_eq_true] at hforsaken
        exact .forsake (by simpa using hforsaken.1) hcall hphase
      · simp at h
    · simp at h
  | poll action => exact step_poll h
  | take =>
    simp only [step?, take?, Option.bind_eq_bind, Option.bind_eq_some_iff] at h
    obtain ⟨duty, hduty, h⟩ := h
    split at h
    · next answer result answers hsender hanswers =>
      obtain rfl := Option.some.inj h
      exact .take hduty hsender hanswers
    · simp at h
  | send =>
    simp only [step?, send?, Option.bind_eq_bind, Option.bind_eq_some_iff, Option.some.injEq] at h
    obtain ⟨duty, hduty, ⟨i, result⟩, hsender, rfl⟩ := h
    exact .send hduty hsender
  | conclude =>
    simp only [step?, conclude?, Option.bind_eq_bind, Option.bind_eq_some_iff] at h
    obtain ⟨duty, hduty, h⟩ := h
    split at h
    · next hsender hanswers =>
      obtain rfl := Option.some.inj h
      exact .conclude hduty hsender hanswers rfl
    · simp at h

/-- A loss is reported when the loop has dealt with it. -/
theorem Step.loss_of_reported (h : r.Step a r') {message : String}
    (hreported : r.client.loop.Reported r'.client.loop message) :
    ∃ duty fault, r.duty? = some duty ∧ duty.sender? = none ∧ duty.answers = [] ∧
      duty.loss? = some fault ∧ fault.message = message ∧
        r'.client.calls = r.client.calls := by
  have hstays : ¬ r.client.loop.Reported r.client.loop message :=
    Loop.not_reported (Nat.le_refl _)
  cases h with
  | own hstep hforsaken hsilent => exact absurd hreported (hsilent message)
  | idle hduty hcalls hloses hsilent => exact absurd hreported (hsilent message)
  | answered hduty hcalls hloop | lost hduty hcalls hloop =>
    dsimp only at hreported
    rw [hloop] at hreported
    exact absurd hreported hstays
  | forsake | send => exact absurd hreported hstays
  | take =>
    dsimp only at hreported
    rw [(r.client.loop_setSlot _ _).1] at hreported
    exact absurd hreported hstays
  | @conclude duty loop hduty hsender hanswers hloop =>
    subst hloop
    cases hloss : duty.loss? with
    | none =>
      rw [hloss] at hreported
      exact absurd hreported hstays
    | some fault =>
      rw [hloss] at hreported
      have hevent := Loop.reported_report hreported
      exact ⟨duty, fault, hduty, hsender, hanswers, hloss, Event.lost.inj hevent, rfl⟩

/-! ### Loops that nobody interferes with -/

/-- The loop takes the sender of a call and uses it. -/
theorem exists_run_resolve (r : Relay) {answer : Answer} {result : Except Error Unit}
    {answers : List (Answer × Except Error Unit)} {loss? : Option ConnectFault}
    (hduty : r.duty? = some { answers := (answer, result) :: answers, loss? }) :
    ∃ steps, Run step? r steps
      { r with client := r.client.resolve answer result, duty? := some { answers, loss? } } := by
  have htake : r.step? .take = some
      { r with client := r.client.setSlot answer none,
               duty? := some { answers, sender? := (r.client.slot? answer).map (·, result),
                               loss? } } := by
    simp [step?, take?, hduty]
  cases hslot : r.client.slot? answer with
  | none =>
    rw [hslot] at htake
    rw [Client.resolve_of_none hslot]
    exact ⟨_, Run.single htake⟩
  | some i =>
    rw [hslot] at htake
    rw [Client.resolve_of_some hslot]
    exact ⟨_, .step (Run.single htake) (a := .send) rfl⟩

/-- When it has nothing more to do for calls, the loop turns to its connection again. -/
theorem exists_run_conclude (r : Relay) {loss? : Option ConnectFault}
    (hduty : r.duty? = some { answers := [], loss? }) :
    ∃ steps, Run step? r steps
      { r with client := { r.client with
                 loop := (loss?.map fun fault => r.client.loop.report (.lost fault.message)).getD
                   r.client.loop },
               duty? := none } := by
  refine ⟨_, Run.single (a := .conclude) ?_⟩
  simp [step?, conclude?, hduty]

/-- An answer of the broker goes to the call in the slot, whatever its number. -/
theorem exists_run_answer (r : Relay) (hduty : r.duty? = none) {answer : Answer}
    {result : Except Error Unit} :
    ∃ steps, Run step? { r with duty? := some { answers := [(answer, result)] } } steps
      { r with client := r.client.resolve answer result } := by
  obtain ⟨steps, hresolve⟩ :=
    exists_run_resolve { r with duty? := some { answers := [(answer, result)] } } rfl
  obtain ⟨more, hconclude⟩ := exists_run_conclude
    { r with client := r.client.resolve answer result, duty? := some { answers := [] } } rfl
  have hrun := hresolve.append hconclude
  rw [← hduty] at hrun
  exact ⟨_, hrun⟩

/-- The loss of the session goes to the calls in both slots, and is reported then. -/
theorem exists_run_loss (r : Relay) (fault : ConnectFault) :
    ∃ steps, Run step? { r with duty? := some (.ofLoss fault) } steps
      { r with client := { r.client.close with
                 loop := r.client.close.loop.report (.lost fault.message) },
               duty? := none } := by
  obtain ⟨steps, hfirst⟩ := exists_run_resolve { r with duty? := some (.ofLoss fault) } rfl
  obtain ⟨more, hsecond⟩ := exists_run_resolve
    { r with client := r.client.resolve .suback (.error .closed),
             duty? := some { answers := [(.unsuback, .error .closed)], loss? := some fault } } rfl
  obtain ⟨last, hconclude⟩ := exists_run_conclude
    { r with client := r.client.close, duty? := some { answers := [], loss? := some fault } } rfl
  exact ⟨_, (hfirst.append hsecond).append hconclude⟩

/-- A loop that nobody interferes with does what `Client.react` says. -/
theorem exists_run_react (r : Relay) (hduty : r.duty? = none) (outcome : Outcome) :
    ∃ steps, Run step? (r.face outcome) steps { r with client := r.client.react outcome } := by
  by_cases hstopped : r.client.loop.phase = .stopped
  · rw [face, if_pos hstopped, Client.react_of_stopped _ hstopped]
    exact ⟨[], .refl⟩
  · rw [face, if_neg hstopped]
    cases outcome with
    | suback number refused =>
      rw [Client.react_suback hstopped]
      exact r.exists_run_answer hduty
    | unsuback number =>
      rw [Client.react_unsuback hstopped]
      exact r.exists_run_answer hduty
    | failed fault =>
      cases hreports : r.client.loop.reportsLoss with
      | true =>
        simp only [Outcome.duty?, hreports, if_true]
        rw [Client.react_lost hreports, hduty]
        exact exists_run_loss { r with client := r.client.down } fault
      | false =>
        simp only [Outcome.duty?, hreports]
        exact ⟨[], .refl⟩
    | _ => exact ⟨[], .refl⟩

end Relay

end LoraBridge.Broker
