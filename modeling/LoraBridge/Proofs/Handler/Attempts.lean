import LoraBridge.Proofs.Handler.Post
import Mathlib.Data.List.Nodup

/-! # Attempts to subscribe

  Every time the session comes up a loop begins, which subscribes to the command topic and tries
  again after a pause if that fails. All loops ask the same transport, and it fails as often as it
  was told to, whichever loops ask. So the number of attempts does not depend on which loop meets
  which failure.

  - `Paced`: a handler on a local transport, the clock of its timers and the pauses that they time.
    `Fleet.paced?_act`: a fleet that is run does what its instances can do like this.
  - `Paced.Does`: what a step is to the loops and their attempts, as long as nobody closes the
    handler or touches the subscriptions.
  - `Paced.Counted`: what is known of all attempts together. `Paced.Stands`: what is known of one
    loop. Both are preserved by every step.
  - `Paced.attempts_counted`: so if `n` attempts were made to fail and `m` loops begin, these are
    the first, and after `n + m` attempts all loops have ended.
-/

namespace LoraBridge.Transport.Local

variable (t : Local) {call : Call} {filter : String} {qos : QoS}

/-! ### Attempts at a transport -/

theorem attempts_subscribe : (t.subscribe filter qos).2.attempts = t.attempts + 1 := by
  unfold subscribe
  dsimp only
  split
  · rfl
  · split <;> rfl

theorem failingSubscribes_subscribe :
    (t.subscribe filter qos).2.failingSubscribes = t.failingSubscribes - 1 := by
  unfold subscribe
  dsimp only
  split
  · next n hfails => simp [hfails]
  · next hzero => split <;> simp [hzero]

theorem isOk_subscribe :
    (t.subscribe filter qos).1.isOk = decide (t.failingSubscribes = 0) := by
  unfold subscribe
  dsimp only
  split
  · next n hfails => simp [hfails, Except.isOk, Except.toBool]
  · next hzero => split <;> simp [hzero, Except.isOk, Except.toBool]

/-- Whether a call leaves the subscriptions and the attempts to subscribe alone. -/
def Call.isCalm : Call → Bool
  | .dropConnection _ => false
  | .failNextSubscribes _ => false
  | .subscribe .. => false
  | .unsubscribe _ => false
  | _ => true

/-- Transports that are the same to whoever subscribes. -/
structure SameAttempts (t t' : Local) : Prop where
  subscriptions : t'.subscriptions = t.subscriptions
  attempts : t'.attempts = t.attempts
  failing : t'.failingSubscribes = t.failingSubscribes

theorem SameAttempts.refl : t.SameAttempts t := ⟨rfl, rfl, rfl⟩

theorem sameAttempts_inject (event : Event) : t.SameAttempts (t.inject event) := by
  unfold inject
  split <;> exact ⟨rfl, rfl, rfl⟩

theorem sameAttempts_apply (hcalm : call.isCalm = true) : t.SameAttempts (t.apply call) := by
  cases call with
  | connect | inject => exact t.sameAttempts_inject _
  | deliver topic payload =>
    simp only [apply, deliver]
    split
    · exact t.sameAttempts_inject _
    · exact .refl t
  | publish publication =>
    simp only [apply, publish]
    split <;> exact ⟨rfl, rfl, rfl⟩
  | dropConnection | failNextSubscribes | subscribe | unsubscribe => cases hcalm
  | _ => exact ⟨rfl, rfl, rfl⟩

end LoraBridge.Transport.Local

namespace LoraBridge.Handler

open Transport (Event Local)

/-! ### Handlers that nobody closes -/

/-- Nobody has closed the handler, nor is anybody about to. -/
structure State.Unclosed (s : State) : Prop where
  unsubscribed : s.unsubscribed = false
  closing : s.closing? = none
  turns : s.turns = []

theorem State.Step.unclosed {s s' : State} {a : Action} {es : List Entry} (h : s.Step a es s')
    (hclose : a ≠ .close) (hs : s.Unclosed) : s'.Unclosed := by
  obtain ⟨hunsubscribed, hclosing, hturns⟩ := hs
  cases h with
  | close => exact absurd rfl hclose
  | enterClosed _ hcall | enter _ hcall => simp [hturns] at hcall
  | unsubscribed hcall | notUnsubscribed hcall | mark hcall | detach hcall | drained hcall
  | disconnected hcall => simp [hclosing] at hcall
  | _ => exact ⟨hunsubscribed, hclosing, hturns⟩

theorem State.loop?_endLoop (s : State) (number n : Nat) :
    (s.endLoop number).loop? n = if n = number then none else s.loop? n :=
  find?_filter_key Loop.number number s.loops n

theorem State.loop?_setLoop (s : State) (number : Nat) (phase : LoopPhase) (n : Nat) :
    (s.setLoop number phase).loop? n =
      (s.loop? n).map fun loop => if n = number then { loop with phase } else loop :=
  find?_map_key Loop.number (fun loop => { loop with phase }) (fun _ => rfl) number s.loops n

theorem State.loop?_setLoop_self {s : State} {number : Nat} {loop : Loop}
    (h : s.loop? number = some loop) (phase : LoopPhase) :
    (s.setLoop number phase).loop? number = some { loop with phase } := by
  simp [State.loop?_setLoop, h]

theorem State.loop?_setLoop_of_ne (s : State) {number n : Nat} (h : n ≠ number)
    (phase : LoopPhase) : (s.setLoop number phase).loop? n = s.loop? n := by
  simp [State.loop?_setLoop, h]

/-! ### Time for pauses -/

/-- A handler on a local transport, with its timers and their clock. -/
structure Paced where
  inst : Instance
  now : Nat

namespace Paced

/-- What happens next. -/
inductive Action where
  /-- Time passes. -/
  | pass (ms : Nat)
  /-- Something happens at the station. -/
  | act (action : Station.Action)
deriving Repr

variable (p : Paced)

def handler : State := p.inst.station.handler

def transport : Local := p.inst.station.transport

/-- Whether an action would end a pause that is not over. -/
def isEarly : Station.Action → Bool
  | .own (.wake number) => p.now < p.inst.pauseEnd number
  | _ => false

/-- What comes of an action, if it is possible: a loop goes on when its pause is over. -/
def step? : Action → Option Paced
  | .pass ms => some { p with now := p.now + ms }
  | .act action =>
    if p.isEarly action then none
    else (p.inst.station.step? action).map fun station =>
      { p with inst := { p.inst with station }.startTimers p.now action }

/-! ### What is seen of loops -/

/-- Whether an action begins a loop. -/
def begins : Action → Bool
  | .act .dispatch => p.transport.events.head? = some .connected
  | _ => false

/-- How an attempt to subscribe turns out. -/
def outcome? : Action → Option Bool
  | .act (.subscribeReply _) => some (p.transport.subscribe commandFilter .exactlyOnce).1.isOk
  | _ => none

/-- What happens to a loop. -/
inductive Happening where
  /-- An attempt has failed at this time. -/
  | failed (time : Nat)
  /-- It goes on after its pause, at this time. -/
  | rested (time : Nat)
  /-- It has subscribed. -/
  | succeeded
deriving DecidableEq, Repr

/-- What an action is to the loop with a number. -/
def happening? (number : Nat) : Action → Option Happening
  | .act (.subscribeReply loop) =>
    if loop = number then
      some (if (p.transport.subscribe commandFilter .exactlyOnce).1.isOk then .succeeded
        else .failed p.now)
    else none
  | .act (.own (.wake loop)) => if loop = number then some (.rested p.now) else none
  | _ => none

/-- How many loops have begun. -/
def begun (steps : List (Paced × Action)) : Nat := steps.countP fun e => e.1.begins e.2

/-- How all attempts turned out, in order. -/
def outcomes (steps : List (Paced × Action)) : List Bool :=
  steps.filterMap fun e => e.1.outcome? e.2

/-- What has happened to the loop with a number. -/
def course (number : Nat) (steps : List (Paced × Action)) : List Happening :=
  steps.filterMap fun e => e.1.happening? number e.2

/-! ### Steps -/

/-- Whether an action neither closes the handler nor touches the subscriptions. -/
def Action.isCalm : Action → Bool
  | .pass _ => true
  | .act (.script call) => call.isCalm
  | .act (.own .close) => false
  | .act _ => true

/-- What a calm step is to the loops and their attempts. -/
inductive Does (p p' : Paced) (a : Action) : Prop
  | begun (hbegins : p.begins a = true) (houtcome : p.outcome? a = none)
    (hquiet : ∀ number, p.happening? number a = none)
    (hloops : p'.handler.loops = p.handler.loops ++ [{ number := p.handler.nextLoop }])
    (hnext : p'.handler.nextLoop = p.handler.nextLoop + 1)
    (hsame : p.transport.SameAttempts p'.transport)
  | failed {number : Nat} {loop : Loop} (ha : a = .act (.subscribeReply number))
    (hloop : p.handler.loop? number = some loop) (hphase : loop.phase ≠ .pausing)
    (hfails : p.transport.failingSubscribes ≠ 0)
    (hhandler : p'.handler = p.handler.setLoop number .pausing)
    (htransport : p'.transport = (p.transport.subscribe commandFilter .exactlyOnce).2)
  | succeeded {number : Nat} {loop : Loop} (ha : a = .act (.subscribeReply number))
    (hloop : p.handler.loop? number = some loop) (hphase : loop.phase ≠ .pausing)
    (hworks : p.transport.failingSubscribes = 0)
    (hhandler : p'.handler = p.handler.endLoop number)
    (htransport : p'.transport = (p.transport.subscribe commandFilter .exactlyOnce).2)
  | moved {number : Nat} {loop : Loop} {phase : LoopPhase}
    (ha : a = .act (.own (.check number)) ∨ a = .act (.own (.subscribe number)))
    (hloop : p.handler.loop? number = some loop) (hbefore : loop.phase ≠ .pausing)
    (hafter : phase ≠ .pausing) (hhandler : p'.handler = p.handler.setLoop number phase)
    (hsame : p.transport.SameAttempts p'.transport)
  | rested {number : Nat} {loop : Loop} (ha : a = .act (.own (.wake number)))
    (hrested : p.inst.pauseEnd number ≤ p.now) (hloop : p.handler.loop? number = some loop)
    (hphase : loop.phase = .pausing) (hhandler : p'.handler = p.handler.setLoop number .checking)
    (hsame : p.transport.SameAttempts p'.transport)
  | other (hbegins : p.begins a = false) (houtcome : p.outcome? a = none)
    (hquiet : ∀ number, p.happening? number a = none)
    (hloops : p'.handler.loops = p.handler.loops)
    (hnext : p'.handler.nextLoop = p.handler.nextLoop)
    (hsame : p.transport.SameAttempts p'.transport)

variable {p} {p' : Paced} {a : Action} {action : Station.Action} {station : Station}
  {steps : List (Paced × Action)} {number n : Nat}

/-- What becomes of the timers is nothing to the station. -/
theorem step?_act_cases (h : p.step? (.act action) = some p') :
    p.isEarly action = false ∧ p.inst.station.step? action = some p'.inst.station ∧
      p' = { p with
        inst := { p.inst with station := p'.inst.station }.startTimers p.now action } := by
  simp only [step?] at h
  split at h
  · cases h
  · next hearly =>
    obtain ⟨station, hstep, rfl⟩ := Option.map_eq_some_iff.mp h
    have hstation := Fleet.station_startTimers { p.inst with station } p.now action
    exact ⟨by simpa using hearly, by rw [hstep]; exact congrArg some hstation.symm,
      by simp only [hstation]⟩

/-- Everything a calm step of an open handler can be. -/
theorem does_of_step (h : p.step? a = some p') (hcalm : a.isCalm = true)
    (hopen : p.handler.Unclosed) : p.Does p' a := by
  cases a with
  | pass ms =>
    obtain rfl := Option.some.inj h
    exact .other rfl rfl (fun _ => rfl) rfl rfl (.refl _)
  | act action =>
    obtain ⟨hearly, hstep, -⟩ := step?_act_cases h
    rcases Station.step_cases hstep with ⟨call, rfl, hscript⟩ | ⟨b, t, hresolve, hhandler, ht⟩
    · have hsame : p.transport.SameAttempts p'.transport := by
        show p.transport.SameAttempts p'.inst.station.transport
        rw [hscript]
        exact p.transport.sameAttempts_apply hcalm
      have hhandler : p'.handler = p.handler := by
        show p'.inst.station.handler = p.inst.station.handler
        rw [hscript]
      exact .other rfl rfl (fun _ => rfl) (by rw [hhandler]) (by rw [hhandler]) hsame
    · have ht : p'.transport = t := ht
      have hhandler : p.handler.step? b = some p'.handler := hhandler
      generalize hafter : p'.handler = after at hhandler
      obtain ⟨es, hcase⟩ : ∃ es, p.handler.Step b es after := ⟨_, State.step_cases hhandler⟩
      cases Station.resolve?_cases hresolve with
      | @dispatch event events hevents =>
        have hsame : p.transport.SameAttempts p'.transport := by
          rw [ht]
          exact ⟨rfl, rfl, rfl⟩
        have hhead : p.transport.events = event :: events := hevents
        cases hcase with
        | connected =>
          exact .begun (by simp [begins, hhead]) rfl (fun _ => rfl) (by rw [hafter])
            (by rw [hafter]) hsame
        | accept | drop | lost =>
          exact .other (by simp [begins, hhead]) rfl (fun _ => rfl) (by rw [hafter])
            (by rw [hafter]) hsame
      | @subscribeReply number reply t hreply =>
        have htransport : p'.transport =
            (p.transport.subscribe commandFilter .exactlyOnce).2 := by
          rw [ht]
          exact (congrArg Prod.snd hreply).symm
        have hok : (p.transport.subscribe commandFilter .exactlyOnce).1.isOk =
            decide (p.transport.failingSubscribes = 0) := p.transport.isOk_subscribe
        rw [show (p.transport.subscribe commandFilter .exactlyOnce).1 = reply from
          congrArg Prod.fst hreply] at hok
        cases hcase with
        | subscribed hloop hphase =>
          exact .succeeded rfl hloop (by simp [hphase]) (of_decide_eq_true hok.symm) hafter
            htransport
        | notSubscribed hloop hphase =>
          exact .failed rfl hloop (by simp [hphase]) (of_decide_eq_false hok.symm) hafter htransport
      | unsubscribeReply hreply =>
        cases hcase with
        | unsubscribed hclosing | notUnsubscribed hclosing => simp [hopen.closing] at hclosing
      | stuck | disconnectReply =>
        cases hcase with
        | disconnected hclosing => simp [hopen.closing] at hclosing
      | own hown =>
        have hsame : p.transport.SameAttempts p'.transport := by
          rw [ht]
          exact .refl _
        have hrest (hloops : after.loops = p.handler.loops)
            (hnext : after.nextLoop = p.handler.nextLoop)
            (hquiet : ∀ number, p.happening? number (.act (.own b)) = none) :
            p.Does p' (.act (.own b)) :=
          .other rfl rfl hquiet (by rw [hafter, hloops]) (by rw [hafter, hnext]) hsame
        cases hcase with
        | giveUp _ _ hunsubscribed => simp [hopen.unsubscribed] at hunsubscribed
        | goOn hloop hphase =>
          exact .moved (.inl rfl) hloop (by simp [hphase]) (by simp) hafter hsame
        | subscribe hloop hphase =>
          exact .moved (.inr rfl) hloop (by simp [hphase]) (by simp) hafter hsame
        | wake hloop hphase =>
          have hrested : p.inst.pauseEnd _ ≤ p.now := Nat.le_of_not_lt (of_decide_eq_false hearly)
          exact .rested rfl hrested hloop hphase hafter hsame
        | close => cases hcalm
        | subscribed | notSubscribed | unsubscribed | notUnsubscribed | disconnected => cases hown
        | accept | drop | connected | lost => cases hown
        | _ => exact hrest rfl rfl fun _ => rfl

/-! ### All attempts together -/

/-- How so many attempts turn out, if so many were made to fail: these are the first. -/
def failingFirst (n attempts : Nat) : List Bool :=
  List.replicate (min attempts n) false ++ List.replicate (attempts - n) true

/-- One attempt more fails if not all have failed that were to. -/
theorem failingFirst_succ (n attempts : Nat) :
    failingFirst n (attempts + 1) = failingFirst n attempts ++ [decide (n ≤ attempts)] := by
  unfold failingFirst
  by_cases h : n ≤ attempts
  · have hmin : min (attempts + 1) n = min attempts n := by omega
    have hmore : attempts + 1 - n = (attempts - n) + 1 := by omega
    rw [hmin, hmore, List.replicate_succ', decide_eq_true h, List.append_assoc]
  · have hmin : min (attempts + 1) n = min attempts n + 1 := by omega
    have hnone : attempts - n = 0 := by omega
    have hnone' : attempts + 1 - n = 0 := by omega
    rw [hmin, hnone, hnone', List.replicate_succ', decide_eq_false h]
    simp

/-- What is known after some steps, if `n` attempts were made to fail before: which attempts have
    failed, and that every other one has ended a loop and keeps the command topic subscribed. -/
structure Counted (start : Paced) (n : Nat) (steps : List (Paced × Action)) (p : Paced) :
    Prop where
  inOrder : outcomes steps = failingFirst n (outcomes steps).length
  made : p.transport.attempts = start.transport.attempts + (outcomes steps).length
  failing : p.transport.failingSubscribes = n - (outcomes steps).length
  ended : (outcomes steps).length - n + p.handler.loops.length = begun steps
  numbered : p.handler.nextLoop = start.handler.nextLoop + begun steps
  holds : n < (outcomes steps).length → p.transport.holds commandFilter = true

theorem begun_concat (steps : List (Paced × Action)) (p : Paced) (a : Action) :
    begun (steps ++ [(p, a)]) = begun steps + if p.begins a then 1 else 0 := by
  rw [begun, List.countP_append, List.countP_singleton, begun]

/-- An attempt takes away one failure, if there is one left. -/
theorem outcomes_answer (steps : List (Paced × Action)) (p : Paced) (number : Nat) :
    outcomes (steps ++ [(p, .act (.subscribeReply number))]) =
      outcomes steps ++ [decide (p.transport.failingSubscribes = 0)] := by
  rw [outcomes, filterMap_concat, ← outcomes, ← Local.isOk_subscribe]
  rfl

theorem outcomes_other (steps : List (Paced × Action)) (h : p.outcome? a = none) :
    outcomes (steps ++ [(p, a)]) = outcomes steps := by
  rw [outcomes, filterMap_concat, ← outcomes, h]
  exact List.append_nil _

/-- A step that is no attempt leaves what is known of attempts as it was. -/
theorem Counted.other {start : Paced} (h : Counted start n steps p) (houtcome : p.outcome? a = none)
    (hsame : p.transport.SameAttempts p'.transport)
    (hended : p'.handler.loops.length = p.handler.loops.length + if p.begins a then 1 else 0)
    (hnext : p'.handler.nextLoop = p.handler.nextLoop + if p.begins a then 1 else 0) :
    Counted start n (steps ++ [(p, a)]) p' := by
  obtain ⟨horder, hmade, hfailing, hbalance, hnumbered, hholds⟩ := h
  rw [← outcomes_other steps houtcome] at horder hmade hfailing hbalance hholds
  refine ⟨horder, hsame.attempts.trans hmade, hsame.failing.trans hfailing, ?_, ?_, ?_⟩
  · rw [begun_concat, hended, ← hbalance, Nat.add_assoc]
  · rw [begun_concat, hnext, hnumbered, Nat.add_assoc]
  · intro hmore
    rw [Local.holds, hsame.subscriptions]
    exact hholds hmore

/-- An attempt is the next one that fails, or ends its loop. -/
theorem Counted.answer {start : Paced} (h : Counted start n steps p)
    (htransport : p'.transport = (p.transport.subscribe commandFilter .exactlyOnce).2)
    (hended : p'.handler.loops.length + (if p.transport.failingSubscribes = 0 then 1 else 0) =
      p.handler.loops.length)
    (hnext : p'.handler.nextLoop = p.handler.nextLoop) :
    Counted start n (steps ++ [(p, .act (.subscribeReply number))]) p' := by
  obtain ⟨horder, hmade, hfailing, hbalance, hnumbered, hholds⟩ := h
  have hlast := outcomes_answer steps p number
  have hlength : (outcomes (steps ++ [(p, .act (.subscribeReply number))])).length =
      (outcomes steps).length + 1 := by
    rw [hlast, List.length_append, List.length_singleton]
  have hworks : p.transport.failingSubscribes = 0 ↔ n ≤ (outcomes steps).length := by omega
  have hbegun : begun (steps ++ [(p, .act (.subscribeReply number))]) = begun steps :=
    begun_concat steps p (.act (.subscribeReply number))
  refine ⟨?_, ?_, ?_, ?_, hbegun ▸ hnext.trans hnumbered, ?_⟩
  · rw [hlength, failingFirst_succ, hlast, ← horder]
    simp only [hworks]
  · rw [hlength, htransport, Local.attempts_subscribe, hmade, Nat.add_assoc]
  · rw [hlength, htransport, Local.failingSubscribes_subscribe, hfailing, Nat.sub_sub]
  · rw [hlength, hbegun, ← hbalance]
    split at hended <;> omega
  · intro hmore
    rw [hlength] at hmore
    have hzero : p.transport.failingSubscribes = 0 := hworks.mpr (by omega)
    rw [htransport]
    exact p.transport.holds_of_subscribe_ok (Prod.ext (p.transport.subscribe_ok_iff.mpr hzero) rfl)

theorem length_setLoop (s : State) (number : Nat) (phase : LoopPhase) :
    (s.setLoop number phase).loops.length = s.loops.length := List.length_map _

theorem length_endLoop {s : State} {loop : Loop} (hn : s.LoopsNumbered)
    (hloop : s.loop? number = some loop) :
    (s.endLoop number).loops.length + 1 = s.loops.length := by
  have hperm := hn.endLoop_perm hloop fun loop => some loop.number
  have hlength := hperm.length_eq
  simp only [Option.toList_some, List.length_append, List.length_map, List.length_singleton,
    List.filterMap_eq_map'] at hlength
  omega

theorem Counted.step {start : Paced} (h : Counted start n steps p) (hdoes : p.Does p' a)
    (hn : p.handler.LoopsNumbered) : Counted start n (steps ++ [(p, a)]) p' := by
  cases hdoes with
  | begun hbegins houtcome _ hloops hnext hsame =>
    exact h.other houtcome hsame (by rw [hloops, hbegins]; simp) (by rw [hnext, hbegins]; rfl)
  | failed ha _ _ hfails hhandler htransport =>
    subst ha
    exact h.answer htransport (by rw [hhandler, length_setLoop, if_neg hfails, Nat.add_zero])
      (by rw [hhandler]; rfl)
  | succeeded ha hloop _ hworks hhandler htransport =>
    subst ha
    exact h.answer htransport (by rw [hhandler, if_pos hworks, length_endLoop hn hloop])
      (by rw [hhandler]; rfl)
  | moved ha _ _ _ hhandler hsame =>
    have houtcome : p.outcome? a = none := by rcases ha with rfl | rfl <;> rfl
    have hnone : p.begins a = false := by rcases ha with rfl | rfl <;> rfl
    exact h.other houtcome hsame (by rw [hhandler, length_setLoop, hnone]; rfl)
      (by rw [hhandler, hnone]; rfl)
  | rested ha _ _ _ hhandler hsame =>
    subst ha
    exact h.other rfl hsame (by rw [hhandler, length_setLoop]; rfl) (by rw [hhandler]; rfl)
  | other hbegins houtcome _ hloops hnext hsame =>
    exact h.other houtcome hsame (by rw [hloops, hbegins]; rfl) (by rw [hnext, hbegins]; rfl)

/-! ### One loop -/

/-- Failures, each of them with its pause, and every pause was long enough. -/
inductive Rests : List Happening → Prop
  | nil : Rests []
  | again {before : List Happening} {failure rest : Nat} (h : Rests before)
    (hlong : failure + resubscribePause.millis ≤ rest) :
    Rests (before ++ [.failed failure, .rested rest])

/-- Where the loop with a number stands, by what has happened to it. -/
inductive Stands (p : Paced) (number : Nat) (happened : List Happening) : Prop
  /-- It has not begun. -/
  | unborn (hnumber : p.handler.nextLoop ≤ number) (hnone : happened = [])
  /-- It tries, for the first time or once more. -/
  | trying {loop : Loop} (hloop : p.handler.loop? number = some loop)
    (hphase : loop.phase ≠ .pausing) (h : Rests happened)
  /-- Its last attempt has failed, and its pause lasts as long as pauses do. -/
  | pausing {loop : Loop} {before : List Happening} {failure : Nat}
    (hloop : p.handler.loop? number = some loop) (hphase : loop.phase = .pausing)
    (h : Rests before) (hlast : happened = before ++ [.failed failure])
    (hpause : p.inst.pauseEnd number = failure + resubscribePause.millis)
  /-- It has ended with its first success. -/
  | ended {before : List Happening} (hloop : p.handler.loop? number = none)
    (hnumber : number < p.handler.nextLoop) (h : Rests before)
    (hlast : happened = before ++ [.succeeded])

theorem pauseEnd_self (h : p.step? (.act (.subscribeReply number)) = some p') :
    p'.inst.pauseEnd number = p.now + resubscribePause.millis := by
  obtain ⟨-, -, hafter⟩ := step?_act_cases h
  rw [hafter]
  simp [Instance.startTimers, Instance.pauseEnd]

/-- A pause is timed when an attempt of its loop is answered, and at no other time. -/
theorem pauseEnd_of_ne (h : p.step? a = some p') (ha : a ≠ .act (.subscribeReply number)) :
    p'.inst.pauseEnd number = p.inst.pauseEnd number := by
  cases a with
  | pass ms =>
    obtain rfl := Option.some.inj h
    rfl
  | act action =>
    obtain ⟨-, -, hafter⟩ := step?_act_cases h
    rw [hafter]
    unfold Instance.startTimers
    split
    · next loop =>
      have hne : number ≠ loop := by
        intro heq
        exact ha (by rw [heq])
      have hothers := find?_filter_key Prod.fst loop p.inst.pauses number
      rw [if_neg hne] at hothers
      simp only [Instance.pauseEnd]
      rw [List.find?_cons_of_neg (by simpa using fun h => hne h.symm), hothers]
    · rfl
    · rfl

/-- A step that does not concern a loop leaves it where it stands. -/
theorem Stands.quiet {happened : List Happening} (h : p.Stands number happened)
    (hquiet : p.happening? number a = none)
    (hloop : p'.handler.loop? number = p.handler.loop? number)
    (hnext : p'.handler.nextLoop ≤ number ↔ p.handler.nextLoop ≤ number)
    (hpause : p'.inst.pauseEnd number = p.inst.pauseEnd number) :
    p'.Stands number (happened ++ (p.happening? number a).toList) := by
  rw [hquiet, Option.toList_none, List.append_nil]
  cases h with
  | unborn hnumber hnone => exact .unborn (hnext.mpr hnumber) hnone
  | trying hthere hphase h => exact .trying (hloop.trans hthere) hphase h
  | pausing hthere hphase h hlast hend =>
    exact .pausing (hloop.trans hthere) hphase h hlast (hpause.trans hend)
  | ended hgone hnumber h hlast => exact .ended (hloop.trans hgone) (by omega) h hlast

theorem lt_next_of_loop? {s : State} {loop : Loop} (hn : s.LoopsNumbered)
    (hloop : s.loop? number = some loop) : number < s.nextLoop := by
  have hmem : loop ∈ s.loops := List.mem_of_find?_eq_some hloop
  have hlt := hn.lt_next loop.number (List.mem_map_of_mem hmem)
  rwa [number_of_loop? hloop] at hlt

/-- Nothing has happened to a loop that has not begun. -/
theorem Stands.eq_nil {happened : List Happening} (h : p.Stands number happened)
    (hn : p.handler.LoopsNumbered) (hnumber : p.handler.nextLoop ≤ number) : happened = [] := by
  cases h with
  | unborn _ hnone => exact hnone
  | trying hloop | pausing hloop =>
    have hlt := lt_next_of_loop? hn hloop
    omega
  | ended _ hlt => omega

/-- A loop that tries has had a pause for each of its failures. -/
theorem Stands.rests {happened : List Happening} {loop : Loop} (h : p.Stands number happened)
    (hn : p.handler.LoopsNumbered) (hloop : p.handler.loop? number = some loop)
    (hphase : loop.phase ≠ .pausing) : Rests happened := by
  cases h with
  | unborn hle =>
    have hlt := lt_next_of_loop? hn hloop
    omega
  | trying _ _ h => exact h
  | pausing hthere hpausing =>
    obtain rfl := Option.some.inj (hloop.symm.trans hthere)
    exact absurd hpausing hphase
  | ended hgone => simp [hloop] at hgone

/-- A loop that goes on after its pause has had one for each of its failures, too. -/
theorem Stands.rests_of_pausing {happened : List Happening} {loop : Loop}
    (h : p.Stands number happened) (hn : p.handler.LoopsNumbered)
    (hloop : p.handler.loop? number = some loop) (hphase : loop.phase = .pausing)
    (hrested : p.inst.pauseEnd number ≤ p.now) : Rests (happened ++ [.rested p.now]) := by
  cases h with
  | unborn hle =>
    have hlt := lt_next_of_loop? hn hloop
    omega
  | trying hthere hnot =>
    obtain rfl := Option.some.inj (hloop.symm.trans hthere)
    exact absurd hphase hnot
  | pausing _ _ h hfailed hpause =>
    rw [hfailed, List.append_assoc]
    exact .again h (hpause ▸ hrested)
  | ended hgone => simp [hloop] at hgone

/-- A loop that begins stands at its beginning, and all others stand where they stood. -/
theorem Stands.begun {happened : List Happening} (h : p.Stands number happened)
    (hn : p.handler.LoopsNumbered) (hquiet : p.happening? number a = none)
    (hloops : p'.handler.loops = p.handler.loops ++ [{ number := p.handler.nextLoop }])
    (hnext : p'.handler.nextLoop = p.handler.nextLoop + 1)
    (hpause : p'.inst.pauseEnd number = p.inst.pauseEnd number) :
    p'.Stands number (happened ++ (p.happening? number a).toList) := by
  have hfind : p'.handler.loop? number = (p.handler.loop? number).or
      (if p.handler.nextLoop = number then some { number := p.handler.nextLoop } else none) := by
    rw [State.loop?, hloops, List.find?_append, List.find?_singleton, State.loop?]
    simp
  by_cases hnew : number = p.handler.nextLoop
  · have hnone : happened = [] := h.eq_nil hn (Nat.le_of_eq hnew.symm)
    have hnot : p.handler.loop? number = none := by
      cases hfound : p.handler.loop? number with
      | none => rfl
      | some loop =>
        have hlt := lt_next_of_loop? hn hfound
        omega
    rw [hnot, if_pos hnew.symm] at hfind
    rw [hquiet, hnone]
    exact .trying hfind (by simp) .nil
  · refine h.quiet hquiet ?_ (by omega) hpause
    rw [hfind, if_neg (Ne.symm hnew), Option.or_none]

/-- Every step is one that a loop may take, if it concerns the loop at all. -/
theorem Stands.step {happened : List Happening} (h : p.Stands number happened)
    (hdoes : p.Does p' a) (now : p.step? a = some p') (hn : p.handler.LoopsNumbered) :
    p'.Stands number (happened ++ (p.happening? number a).toList) := by
  cases hdoes with
  | begun hbegins _ hquiet hloops hnext =>
    have hpause : p'.inst.pauseEnd number = p.inst.pauseEnd number :=
      pauseEnd_of_ne now (by rintro rfl; cases hbegins)
    exact h.begun hn (hquiet number) hloops hnext hpause
  | @failed m loop ha hloop hphase hfails hhandler =>
    subst ha
    by_cases hown : m = number
    · subst hown
      have hlast : p.happening? m (.act (.subscribeReply m)) = some (.failed p.now) := by
        simp [happening?, Local.isOk_subscribe, hfails]
      have hpausing := State.loop?_setLoop_self hloop .pausing
      rw [← hhandler] at hpausing
      rw [hlast]
      exact .pausing hpausing rfl (h.rests hn hloop hphase) rfl (pauseEnd_self now)
    · have hsame := p.handler.loop?_setLoop_of_ne (Ne.symm hown) .pausing
      rw [← hhandler] at hsame
      exact h.quiet (if_neg hown) hsame (by rw [hhandler]; rfl)
        (pauseEnd_of_ne now (by simpa using hown))
  | @succeeded m loop ha hloop hphase hworks hhandler =>
    subst ha
    have hfind := p.handler.loop?_endLoop m number
    rw [← hhandler] at hfind
    have hnext : p'.handler.nextLoop = p.handler.nextLoop := by rw [hhandler]; rfl
    by_cases hown : m = number
    · subst hown
      have hlast : p.happening? m (.act (.subscribeReply m)) = some .succeeded := by
        simp [happening?, Local.isOk_subscribe, hworks]
      rw [if_pos rfl] at hfind
      rw [hlast]
      exact .ended hfind (hnext ▸ lt_next_of_loop? hn hloop) (h.rests hn hloop hphase) rfl
    · rw [if_neg (Ne.symm hown)] at hfind
      exact h.quiet (if_neg hown) hfind (by rw [hnext])
        (pauseEnd_of_ne now (by simpa using hown))
  | @moved m loop phase ha hloop hbefore hafter hhandler =>
    have hquiet : p.happening? number a = none := by
      rcases ha with rfl | rfl <;> rfl
    by_cases hown : m = number
    · subst hown
      have htrying := State.loop?_setLoop_self hloop phase
      rw [← hhandler] at htrying
      rw [hquiet, Option.toList_none, List.append_nil]
      exact .trying htrying hafter (h.rests hn hloop hbefore)
    · have hsame := p.handler.loop?_setLoop_of_ne (Ne.symm hown) phase
      rw [← hhandler] at hsame
      exact h.quiet hquiet hsame (by rw [hhandler]; rfl)
        (pauseEnd_of_ne now (by rcases ha with rfl | rfl <;> simp))
  | @rested m loop ha hrested hloop hphase hhandler =>
    subst ha
    by_cases hown : m = number
    · subst hown
      have hlast : p.happening? m (.act (.own (.wake m))) = some (.rested p.now) := if_pos rfl
      have htrying := State.loop?_setLoop_self hloop .checking
      rw [← hhandler] at htrying
      rw [hlast]
      exact .trying htrying (by simp) (h.rests_of_pausing hn hloop hphase hrested)
    · have hsame := p.handler.loop?_setLoop_of_ne (Ne.symm hown) .checking
      rw [← hhandler] at hsame
      exact h.quiet (if_neg hown) hsame (by rw [hhandler]; rfl) (pauseEnd_of_ne now (by simp))
  | other _ houtcome hquiet hloops hnext =>
    have hpause : p'.inst.pauseEnd number = p.inst.pauseEnd number :=
      pauseEnd_of_ne now (by rintro rfl; cases houtcome)
    exact h.quiet (hquiet number) (by rw [State.loop?, hloops, State.loop?]) (by rw [hnext]) hpause

/-! ### Runs -/

/-- What happens at the station. -/
def stations (steps : List (Paced × Action)) : List (Station × Station.Action) :=
  steps.filterMap fun e =>
    match e.2 with
    | .act action => some (e.1.inst.station, action)
    | .pass _ => none

theorem run_station {start : Paced} (h : Run step? start steps p) :
    Run Station.step? start.inst.station (stations steps) p.inst.station := by
  induction h with
  | refl => exact .refl
  | @step steps r a p _ now ih =>
    rw [stations, filterMap_concat, ← stations]
    cases a with
    | pass ms =>
      obtain rfl := Option.some.inj now
      simpa using ih
    | act action => exact .step ih (step?_act_cases now).2.1

theorem unclosed_of_step (h : p.step? a = some p') (hcalm : a.isCalm = true)
    (hopen : p.handler.Unclosed) : p'.handler.Unclosed := by
  cases a with
  | pass ms =>
    obtain rfl := Option.some.inj h
    exact hopen
  | act action =>
    have hstep := (step?_act_cases h).2.1
    rcases Station.step_cases hstep with ⟨call, rfl, hscript⟩ | ⟨b, t, hresolve, hhandler, -⟩
    · show p'.inst.station.handler.Unclosed
      rw [hscript]
      exact hopen
    · refine (State.step_cases hhandler).unclosed ?_ hopen
      rintro rfl
      cases Station.resolve?_cases hresolve with
      | own hown => cases hcalm

/-- Some steps that neither close a handler nor touch its subscriptions, begun when no loop was
    there and `n` attempts had been made to fail. -/
structure Calm (start : Paced) (n : Nat) (steps : List (Paced × Action)) (p : Paced) : Prop where
  reached : ∃ history, Run Station.step? {} history start.inst.station
  unclosed : start.handler.Unclosed
  idle : start.handler.loops = []
  failing : start.transport.failingSubscribes = n
  run : Run step? start steps p
  calm : ∀ e ∈ steps, e.2.isCalm = true

variable {start : Paced}

/-- The handler was put to use before, and so far nothing but that has happened. -/
theorem Calm.exists_run (h : Calm start n steps p) :
    ∃ history, Run Station.step? {} history p.inst.station := by
  obtain ⟨history, hreached⟩ := h.reached
  exact ⟨_, hreached.append (run_station h.run)⟩

theorem Calm.known (h : Calm start n steps p) : p.handler.Unclosed ∧ Counted start n steps p ∧
    ∀ number, start.handler.nextLoop ≤ number → p.Stands number (course number steps) := by
  obtain ⟨⟨history, hreached⟩, hopen, hidle, hfailing, hrun, hcalm⟩ := h
  induction hrun with
  | refl =>
    have hcounted : Counted start n [] start :=
      ⟨by simp [outcomes, failingFirst], rfl, hfailing, by simp [hidle, begun, outcomes], rfl,
        by simp [outcomes]⟩
    exact ⟨hopen, hcounted, fun number hnumber => .unborn hnumber rfl⟩
  | @step steps r a p hbefore now ih =>
    rw [List.forall_mem_append] at hcalm
    have hlast : a.isCalm = true := hcalm.2 (r, a) (List.mem_singleton_self _)
    obtain ⟨hstays, hcounted, hstands⟩ := ih hcalm.1
    have hn : r.handler.LoopsNumbered :=
      loopsNumbered_of_run (Station.run_inner (hreached.append (run_station hbefore)))
    have hdoes := does_of_step now hlast hstays
    refine ⟨unclosed_of_step now hlast hstays, hcounted.step hdoes hn, fun number hnumber => ?_⟩
    rw [course, filterMap_concat]
    exact (hstands number hnumber).step hdoes now hn

/-! ### How many attempts it takes -/

theorem Rests.getLast? {before : List Happening} (h : Rests before) :
    before.getLast? = none ∨ ∃ rest, before.getLast? = some (.rested rest) := by
  cases h with
  | nil => exact .inl rfl
  | @again before failure rest => exact .inr ⟨rest, by simp⟩

/-- A loop whose last attempt has failed goes on when its pause is over, and not before. -/
theorem Stands.wake_iff {before : List Happening} {failure : Nat}
    (h : p.Stands number (before ++ [.failed failure])) :
    (p.step? (.act (.own (.wake number)))).isSome = true ↔
      failure + resubscribePause.millis ≤ p.now := by
  cases h with
  | unborn _ hnone => simp at hnone
  | trying _ _ hrests =>
    rcases hrests.getLast? with hnone | ⟨rest, hlast⟩
    · simp at hnone
    · simp at hlast
  | ended _ _ _ hlast =>
    obtain ⟨-, hlast⟩ := List.append_inj' hlast rfl
    cases hlast
  | pausing hloop hphase hrests hlast hpause =>
    obtain ⟨-, hlast⟩ := List.append_inj' hlast rfl
    simp only [List.cons.injEq, Happening.failed.injEq, and_true] at hlast
    have hwake : p.handler.step? (.wake number) = some (p.handler.setLoop number .checking) := by
      simp [State.step?, hloop, hphase]
    have hstation : (p.inst.station.step? (.own (.wake number))).isSome = true := by
      rw [handler] at hwake
      simp [Station.step?, Station.resolve?, Station.isOwn, hwake]
    rw [hlast, ← hpause]
    have hover : p.isEarly (.own (.wake number)) = false ↔ p.inst.pauseEnd number ≤ p.now := by
      simp [isEarly]
    rw [← hover]
    cases hearly : p.isEarly (.own (.wake number)) <;> simp [step?, hearly, hstation]

end Paced

/-- No filter is subscribed to twice at a station. -/
theorem Station.nodup_of_run {s : Station} {steps : List (Station × Station.Action)}
    (h : Run Station.step? {} steps s) : (s.transport.subscriptions.map (·.1)).Nodup := by
  refine h.invariant (I := fun s => (s.transport.subscriptions.map (·.1)).Nodup) List.nodup_nil ?_
  intro s a s' hs now
  rcases step_cases now with ⟨call, rfl, rfl⟩ | ⟨b, t, hresolve, -, ht⟩
  · exact s.transport.nodup_apply hs call
  · rw [ht]
    cases resolve?_cases hresolve with
    | subscribeReply loop hreply =>
      have hafter := s.transport.nodup_apply hs (.subscribe commandFilter .exactlyOnce)
      rwa [Local.apply, hreply] at hafter
    | unsubscribeReply hreply =>
      have hafter := s.transport.nodup_apply hs (.unsubscribe commandFilter)
      rwa [Local.apply, hreply] at hafter
    | _ => exact hs

namespace Paced

variable {p start : Paced} {steps : List (Paced × Action)} {n : Nat}

/-- However the loops take turns, attempts are counted exactly.

    If `n` attempts were made to fail, they are the first that are made, by whichever loops. A loop
    pauses after each of its failures, just as long as pauses last, and ends with its first success.
    So when `m` loops have begun and all of them have ended, `n + m` attempts have been made, none
    is left that would fail, and the command topic is subscribed to once. -/
theorem attempts_counted (h : Calm start n steps p) :
    outcomes steps = failingFirst n (outcomes steps).length ∧
    p.transport.attempts = start.transport.attempts + (outcomes steps).length ∧
    (∀ number, start.handler.nextLoop ≤ number → p.Stands number (course number steps)) ∧
    (∀ number before failure, start.handler.nextLoop ≤ number →
      course number steps = before ++ [.failed failure] →
        ((p.step? (.act (.own (.wake number)))).isSome = true ↔
          failure + resubscribePause.millis ≤ p.now)) ∧
    (0 < begun steps → p.handler.loops = [] →
      (outcomes steps).length = n + begun steps ∧
      p.transport.attempts = start.transport.attempts + (n + begun steps) ∧
      p.transport.failingSubscribes = 0 ∧
      (p.transport.subscriptions.map (·.1)).count commandFilter = 1 ∧
      ∀ number, start.handler.nextLoop ≤ number →
        number < start.handler.nextLoop + begun steps →
        ∃ before, Rests before ∧ course number steps = before ++ [.succeeded]) := by
  obtain ⟨-, hcounted, hstands⟩ := h.known
  refine ⟨hcounted.inOrder, hcounted.made, hstands, ?_, ?_⟩
  · intro number before failure hnumber hlast
    have hstand := hstands number hnumber
    rw [hlast] at hstand
    exact hstand.wake_iff
  · intro hbegun hloops
    have hended := hcounted.ended
    rw [hloops, List.length_nil] at hended
    have hlength : (outcomes steps).length = n + begun steps := by omega
    refine ⟨hlength, hlength ▸ hcounted.made, ?_, ?_, ?_⟩
    · rw [hcounted.failing, hlength]
      omega
    · obtain ⟨history, hrun⟩ := h.exists_run
      have hholds := hcounted.holds (by omega)
      obtain ⟨s, hs, hfilter⟩ := List.any_eq_true.mp hholds
      have hmem : commandFilter ∈ p.transport.subscriptions.map (·.1) :=
        List.mem_map.mpr ⟨s, hs, of_decide_eq_true hfilter⟩
      exact List.count_eq_one_of_mem (Station.nodup_of_run hrun) hmem
    · intro number hle hlt
      have hgone : p.handler.loop? number = none := by rw [State.loop?, hloops]; rfl
      cases hstands number hle with
      | unborn hnumber =>
        have hnumbered := hcounted.numbered
        omega
      | trying hloop | pausing hloop => simp [hgone] at hloop
      | ended _ _ hrests hlast => exact ⟨_, hrests, hlast⟩

/-- An idle handler whose transport was told to fail twice. -/
def failingTwice : Paced where
  inst := { station := { transport := { failingSubscribes := 2 } } }
  now := 0

/-- The session comes up twice, and two loops begin. Each of them meets one of the failures; the
    second one asks while the first one pauses. -/
def twoLoops : List Action :=
  [.act (.script .connect), .act (.script .connect), .act .dispatch, .act .dispatch,
    .act (.own (.check 0)), .act (.own (.subscribe 0)), .act (.subscribeReply 0),
    .act (.own (.check 1)), .act (.own (.subscribe 1)), .pass 400, .act (.subscribeReply 1),
    .pass 600, .act (.own (.wake 0)), .act (.own (.check 0)), .act (.own (.subscribe 0)),
    .act (.subscribeReply 0), .pass 500, .act (.own (.wake 1)), .act (.own (.check 1)),
    .act (.own (.subscribe 1)), .act (.subscribeReply 1)]

theorem attempts_counted_twoLoops :
    ∃ steps p, Calm failingTwice 2 steps p ∧ begun steps = 2 ∧ p.handler.loops = [] ∧
      outcomes steps = [false, false, true, true] ∧
      course 1 steps = [.failed 400, .rested 1500, .succeeded] ∧
      p.transport.attempts = 4 ∧ p.transport.failingSubscribes = 0 ∧
      (p.transport.subscriptions.map (·.1)).count commandFilter = 1 := by
  have hcomputed : (Run.steps? step? failingTwice twoLoops).map (fun run =>
      (run.1.all (·.2.isCalm), begun run.1, run.2.handler.loops, outcomes run.1,
        course 1 run.1)) =
      some (true, 2, [], [false, false, true, true],
        [.failed 400, .rested 1500, .succeeded]) := rfl
  obtain ⟨⟨steps, p⟩, hrun, hfacts⟩ := Option.map_eq_some_iff.mp hcomputed
  simp only [Prod.mk.injEq, List.all_eq_true] at hfacts
  obtain ⟨hcalm, hbegun, hloops, houtcomes, hcourse⟩ := hfacts
  have hreached : Run Station.step? {} [({}, .script (.failNextSubscribes 2))]
      failingTwice.inst.station := .single rfl
  have h : Calm failingTwice 2 steps p :=
    ⟨⟨_, hreached⟩, ⟨rfl, rfl, rfl⟩, rfl, rfl, Run.of_steps? hrun, hcalm⟩
  obtain ⟨-, -, -, -, hended⟩ := attempts_counted h
  obtain ⟨-, hattempts, hfailing, hcount, -⟩ := hended (by omega) hloops
  rw [hbegun] at hattempts
  exact ⟨steps, p, h, hbegun, hloops, houtcomes, hcourse, hattempts, hfailing, hcount⟩

end Paced

/-! ### Instances of a fleet -/

namespace Fleet

variable {f : Fleet} {i : Nat} {p : Paced}

/-- An instance and the clock of its timers. -/
def paced? (f : Fleet) (i : Nat) : Option Paced :=
  f.instances[i]?.map fun inst => { inst, now := f.now }

/-- The turn of a loop that pauses comes when its pause is over. -/
theorem rested_of_turn {loop : Loop} {o : Outlook} {number : Nat}
    (h : loop.turn? o = some (.own (.wake number))) : o.hasRested number = true := by
  unfold Loop.turn? at h
  split at h
  · cases h
  · cases h
  · split at h <;> cases h
  · split at h
    · next hrested =>
      cases h
      exact hrested
    · cases h

/-- When a fleet is run, no pause is ended before it is over. -/
theorem not_early_of_turn {action : Handler.Action} (h : p.inst.turn? p.now = some (.own action)) :
    p.isEarly (.own action) = false := by
  cases action with
  | wake number =>
    unfold Instance.turn? State.turn? at h
    split at h
    · cases h
    · split at h
      · next task more htasks =>
        unfold Task.turn at h
        split at h <;> cases h
      · split at h
        · cases h
        · rcases Option.or_eq_some_iff.mp h with hloop | ⟨-, hclosing⟩
          · obtain ⟨loop, -, hturn⟩ := List.exists_of_findSome?_eq_some hloop
            have hrested : p.inst.pauseEnd number ≤ p.now :=
              of_decide_eq_true (rested_of_turn hturn)
            exact decide_eq_false (Nat.not_lt.mpr hrested)
          · unfold State.turnOfClosing? at hclosing
            split at hclosing
            · split at hclosing <;> cases hclosing
            · split at hclosing <;> cases hclosing
            · cases hclosing
            · cases hclosing
            · split at hclosing <;> cases hclosing
            · cases hclosing
  | _ => rfl

/-- When an instance acts, it takes the step, if that is possible. -/
theorem paced?_act {action : Station.Action} (hpaced : f.paced? i = some p)
    (hearly : p.isEarly action = false) :
    (f.act i action).paced? i = some ((p.step? (.act action)).getD p) := by
  obtain ⟨inst, hinst, rfl⟩ := Option.map_eq_some_iff.mp hpaced
  have hlt := (List.getElem?_eq_some_iff.mp hinst).1
  unfold act Paced.step?
  dsimp only
  rw [if_neg (by simpa using hearly), hinst]
  dsimp only
  cases hstep : inst.station.step? action with
  | none => simp [paced?, hinst]
  | some station => simp [paced?, hlt]

end Fleet

end LoraBridge.Handler
