import LoraBridge.Proofs.Handler.Progress
import LoraBridge.Proofs.Handler.Resubscription

/-! # Messages on their way to the network server

  A message that a local transport delivers waits among the events of the session. The dispatcher
  takes events in order, so the ticket of the message is known before it is taken.

  - `Station.Arriving`: the message waits, or has been accepted with its ticket, or comes too late.
  - `Station.arriving_of_run`: this remains so, whatever else happens at the station.
  - `Station.delivered_or_held`: a command whose lock is granted is received once, and until then it
    waits or is held by the handler.
  - `Station.load_of_run`: it takes a limited number of steps.
-/

namespace LoraBridge.Transport

/-- Whether an event is a message. -/
def Event.isMessage : Event → Bool
  | .message _ _ => true
  | _ => false

end LoraBridge.Transport

namespace LoraBridge.Handler

open Transport (Event Local)

/-! ### Tickets to come -/

/-- Only messages get tickets. -/
theorem State.Step.nextTicket_eq {s s' : State} {a : Action} {es : List Entry}
    (h : s.Step a es s') (hother : ∀ topic payload, a ≠ .dispatch (.message topic payload)) :
    s'.nextTicket = s.nextTicket := by
  cases h with
  | accept topic payload hopen => exact absurd rfl (hother topic payload)
  | _ => rfl

/-- When the sender has been taken away, not even messages do. -/
theorem State.Step.nextTicket_of_shut {s s' : State} {a : Action} {es : List Entry}
    (h : s.Step a es s') (hshut : s.sender = false) : s'.nextTicket = s.nextTicket := by
  cases h with
  | accept topic payload hopen => simp [hshut] at hopen
  | _ => rfl

/-- A ticket that is still to be given out belongs to no message. -/
theorem State.Numbered.place_of_le {s : State} (hn : s.Numbered) {n : Nat}
    (hle : s.nextTicket ≤ n) : s.place n = .unborn := by
  have hnone : n ∉ s.tickets := fun hmem => Nat.not_lt.mpr hle (hn.lt_next n hmem)
  rw [State.place_of_not_mem hnone, if_neg (Nat.not_lt.mpr hle)]

namespace Station

variable {s s' r : Station} {a : Action} {steps more : List (Station × Action)} {n : Nat}
  {topic : String} {payload : Bytes} {command : Command} {es : List Entry}

/-! ### Events -/

/-- Whether an action is one of the other side of the session. -/
def Action.isScript : Action → Bool
  | .script _ => true
  | _ => false

/-- A step of the handler takes the first event, or has nothing to do with events. -/
theorem Resolves.events {b : Handler.Action} {t : Local} (h : s.Resolves a b t) :
    (a = .dispatch ∧ ∃ event, b = .dispatch event ∧ s.transport.events = event :: t.events) ∨
      (a ≠ .dispatch ∧ (∀ event, b ≠ .dispatch event) ∧ t.events = s.transport.events) := by
  cases h with
  | dispatch hevents => exact .inl ⟨rfl, _, rfl, hevents⟩
  | subscribeReply loop hreply =>
    have hsame := s.transport.events_subscribe commandFilter .exactlyOnce
    rw [hreply] at hsame
    exact .inr ⟨by simp, by simp, hsame⟩
  | unsubscribeReply hreply =>
    have hsame : (s.transport.unsubscribe commandFilter).2.events = s.transport.events := by
      unfold Local.unsubscribe
      split <;> rfl
    rw [hreply] at hsame
    exact .inr ⟨by simp, by simp, hsame⟩
  | stuck | disconnectReply => exact .inr ⟨by simp, by simp, rfl⟩
  | own hown =>
    refine .inr ⟨by simp, ?_, rfl⟩
    rintro event rfl
    simp [isOwn] at hown

/-- What a step is to the events and to the handler: the other side reports one event at most, or
    the dispatcher takes the first one, or the handler does something else. -/
inductive Turns (s s' : Station) (a : Action) : List (State × Handler.Action) → Prop
  | script (hscript : a.isScript = true) (hhandler : s'.handler = s.handler) {more : List Event}
    (hevents : s'.transport.events = s.transport.events ++ more) (hone : more.length ≤ 1) :
    Turns s s' a []
  | dispatch (hdispatch : a = .dispatch) {event : Event}
    (hevents : s.transport.events = event :: s'.transport.events)
    (hstep : s.handler.step? (.dispatch event) = some s'.handler) :
    Turns s s' a [(s.handler, .dispatch event)]
  | other {b : Handler.Action} (hscript : a.isScript = false) (hdispatch : a ≠ .dispatch)
    (hother : ∀ event, b ≠ .dispatch event) {t : Local} (hresolve : s.Resolves a b t)
    (hevents : s'.transport.events = s.transport.events)
    (hstep : s.handler.step? b = some s'.handler) : Turns s s' a [(s.handler, b)]

theorem turns_of_step (h : s.step? a = some s') (houtside : a.isOutside = true) :
    Turns s s' a (inner [(s, a)]) := by
  rcases step_cases h with ⟨call, rfl, rfl⟩ | ⟨b, t, hresolve, hstep, rfl⟩
  · obtain ⟨more, hevents, hone⟩ := s.transport.events_apply houtside
    exact .script rfl rfl hevents hone
  · have hinner : inner [(s, a)] = [(s.handler, b)] := by simp [inner, hresolve]
    have hscript : a.isScript = false := by
      cases a with
      | script call => simp [resolve?] at hresolve
      | _ => rfl
    have hresolves := resolve?_cases hresolve
    rw [hinner]
    rcases hresolves.events with ⟨rfl, event, rfl, hevents⟩ | ⟨hdispatch, hother, hevents⟩
    · exact .dispatch rfl hevents hstep
    · exact .other hscript hdispatch hother hresolves hevents hstep

/-! ### Messages that wait -/

/-- The ticket of a message that is delivered next, if the handler is not closed before it comes. -/
def ticketToCome (s : Station) : Nat :=
  s.handler.nextTicket + s.transport.events.countP Event.isMessage

/-- A message that was delivered: it waits, and the messages that wait before it get the tickets
    before its own; or it was accepted, as the record says; or the handler was closed before. -/
inductive Arriving (n : Nat) (topic : String) (payload : Bytes) (es : List Entry)
    (s : Station) : Prop
  | waiting {before after : List Event}
    (hevents : s.transport.events = before ++ .message topic payload :: after)
    (hnumber : s.handler.nextTicket + before.countP Event.isMessage = n)
  | accepted (h : .accepted n topic payload ∈ es)
  | late (hshut : s.handler.sender = false) (hnever : s.handler.nextTicket ≤ n)

/-- Taking the first event brings a message that waits one place forward, or to the handler. -/
theorem Arriving.dispatch {event : Event} {before after : List Event}
    (hevents : event :: s'.transport.events = before ++ .message topic payload :: after)
    (hnumber : s.handler.nextTicket + before.countP Event.isMessage = n)
    (hstep : s.handler.step? (.dispatch event) = some s'.handler) :
    Arriving n topic payload (es ++ s.handler.entries (.dispatch event)) s' := by
  have hcase := State.step_cases hstep
  have hbegun : s.handler.dispatch event = s'.handler := Option.some.inj hstep
  cases before with
  | nil =>
    -- this is the message
    obtain ⟨rfl, -⟩ := List.cons.inj hevents
    cases hsender : s.handler.sender with
    | true =>
      have hn : s.handler.nextTicket = n := hnumber
      refine .accepted (List.mem_append_right _ ?_)
      simp [State.entries, hsender, hn]
    | false =>
      refine .late (hcase.sender hsender) ?_
      rw [hcase.nextTicket_of_shut hsender]
      exact Nat.le.intro hnumber
  | cons first before =>
    -- another event is taken, which gets a ticket if it is a message
    obtain ⟨rfl, hrest⟩ := List.cons.inj hevents
    cases event with
    | message other bytes =>
      rw [List.countP_cons_of_pos rfl] at hnumber
      cases hsender : s.handler.sender with
      | true =>
        refine .waiting hrest ?_
        rw [← hbegun]
        simp only [State.dispatch, hsender, if_true]
        omega
      | false =>
        refine .late (hcase.sender hsender) ?_
        rw [hcase.nextTicket_of_shut hsender]
        omega
    | _ =>
      rw [List.countP_cons_of_neg (by simp [Event.isMessage])] at hnumber
      refine .waiting hrest ?_
      rwa [hcase.nextTicket_eq (by simp)]

theorem Arriving.step (harriving : Arriving n topic payload es s) (h : s.step? a = some s')
    (houtside : a.isOutside = true) :
    Arriving n topic payload (es ++ Handler.record (inner [(s, a)])) s' := by
  have hturns := turns_of_step h houtside
  cases harriving with
  | accepted hmem => exact .accepted (List.mem_append_left _ hmem)
  | late hshut hnever =>
    generalize inner [(s, a)] = steps at hturns
    cases hturns with
    | script hscript hhandler => exact .late (hhandler ▸ hshut) (hhandler ▸ hnever)
    | dispatch hdispatch hevents hstep | other hscript hdispatch hother hresolve hevents hstep =>
      have hcase := State.step_cases hstep
      exact .late (hcase.sender hshut) ((hcase.nextTicket_of_shut hshut).symm ▸ hnever)
  | @waiting before after hwaits hnumber =>
    generalize inner [(s, a)] = steps at hturns
    cases hturns with
    | @script hscript hhandler more hevents =>
      have hwaits' :
          s'.transport.events = before ++ .message topic payload :: (after ++ more) := by
        rw [hevents, hwaits, List.append_assoc, List.cons_append]
      exact .waiting hwaits' (hhandler ▸ hnumber)
    | dispatch hdispatch hevents hstep =>
      rw [record_single]
      exact Arriving.dispatch (hevents ▸ hwaits) hnumber hstep
    | other hscript hdispatch hother hresolve hevents hstep =>
      have hsame := (State.step_cases hstep).nextTicket_eq fun topic payload => hother _
      exact .waiting (hevents ▸ hwaits) (hsame.symm ▸ hnumber)

/-- A message that was delivered remains so. -/
theorem arriving_of_run (h : Run step? s more s') (houtside : ∀ e ∈ more, e.2.isOutside = true)
    (harriving : Arriving n topic payload [] s) :
    Arriving n topic payload (Handler.record (inner more)) s' := by
  induction h with
  | refl => exact harriving
  | step _ now ih =>
    obtain ⟨hbefore, hlast⟩ := List.forall_mem_append.mp houtside
    rw [inner_append, record_append]
    exact (ih hbefore).step now (hlast _ (List.mem_singleton_self _))

/-- When a message is delivered, it waits for the ticket that is to come. -/
theorem arriving_of_deliver (h : s.transport.delivers topic = true) (payload : Bytes)
    (hdeliver : s.step? (.script (.deliver topic payload)) = some s') :
    s'.handler = s.handler ∧ Arriving s.ticketToCome topic payload [] s' := by
  obtain rfl := Option.some.inj hdeliver
  have hevents : (s.transport.deliver topic payload).events =
      s.transport.events ++ .message topic payload :: [] := by
    rw [s.transport.deliver_of_delivers h payload]
  exact ⟨rfl, .waiting hevents rfl⟩

end Station

/-! ### Messages that are received -/

/-- The command that an entry says was received, without its ticket. -/
def Entry.delivered? (e : Entry) : Option Command := e.received?.map (·.2)

/-- What the network server has received of the message with a ticket. -/
def delivered (ticket : Nat) (entries : List Entry) : List Command :=
  (about ticket entries).filterMap Entry.delivered?

/-- A command that was accepted, and whose lock is granted if it is asked for, has been received,
    or the handler holds it still. -/
theorem Story.delivered_or_held {n : Nat} {p : Place} {es : List Entry} {topic : String}
    {payload : Bytes} {command : Command} (h : Story n p es)
    (haccepted : .accepted n topic payload ∈ es) (hjudge : judge topic payload = .command command)
    (hgranted : ∀ answer, .answered n answer ∈ es → answer = .ok true)
    (hkept : ∀ command, .discarded n command ∉ es ∧ .lost n command ∉ es) :
    es.filterMap Entry.delivered? = [command] ∨
      (es.filterMap Entry.delivered? = [] ∧ p.isHeld = true) := by
  cases h with
  | unborn => cases haccepted
  | fresh | locking | locked | inLine => exact .inr ⟨rfl, rfl⟩
  | queued => exact .inr ⟨rfl, rfl⟩
  | rejected hnone =>
    obtain ⟨rfl, rfl⟩ : topic = _ ∧ payload = _ := by simpa using haccepted
    exact absurd hjudge (hnone command)
  | refused hjudge' hanswer => exact absurd (hgranted _ (by simp)) hanswer
  | @discarded _ _ found => exact absurd (by simp) (hkept found).1
  | @lost _ _ found => exact absurd (by simp) (hkept found).2
  | received hjudge' =>
    obtain ⟨rfl, rfl⟩ : topic = _ ∧ payload = _ := by simpa [granted] using haccepted
    obtain rfl := Verdict.command.inj (hjudge.symm.trans hjudge')
    exact .inl rfl

/-- A message whose ticket is still to be given out has no story. -/
theorem State.Numbered.story_nil {s : State} (hn : s.Numbered) {n : Nat} {es : List Entry}
    (hle : s.nextTicket ≤ n) (h : Story n (s.place n) es) : es = [] := by
  rw [hn.place_of_le hle] at h
  cases h
  rfl

namespace Station

variable {s s' : Station} {a : Action} {steps more : List (Station × Action)} {n : Nat}
  {topic : String} {payload : Bytes} {command : Command} {past : List (State × Handler.Action)}

/-- What was written down about a message that came later is its story. -/
theorem story_since (hpast : Run State.step? {} past s.handler) (h : Run step? s more s')
    (hnew : s.handler.nextTicket ≤ n) :
    Story n (s'.handler.place n) (about n (Handler.record (inner more))) := by
  have hstory := story_of_run (hpast.append (run_inner h)) n
  have hnone : about n (Handler.record past) = [] :=
    (numbered_of_run hpast).story_nil hnew (story_of_run hpast n)
  rwa [record_append, about_append, hnone, List.nil_append] at hstory

/-- A message that waits for a lock was accepted, and its command is the one that was delivered. The
    store has not answered it yet. -/
theorem command_of_locking (hpast : Run State.step? {} past s.handler) (h : Run step? s more s')
    (houtside : ∀ e ∈ more, e.2.isOutside = true) (harriving : Arriving n topic payload [] s)
    (hnew : s.handler.nextTicket ≤ n) (hjudge : judge topic payload = .command command)
    {found : Command} (hlocking : s'.handler.locking? n = some found) :
    found = command ∧ ∀ answer, .answered n answer ∉ Handler.record (inner more) := by
  have hrun := hpast.append (run_inner h)
  obtain ⟨task, htask, hphase⟩ := State.locking?_eq_some.mp hlocking
  have hstory := story_since hpast h hnew
  have hplace := State.place_of_task htask
  -- its ticket has been given out
  have hgiven (hle : s'.handler.nextTicket ≤ n) : False := by
    rw [(numbered_of_run hrun).place_of_le hle] at hplace
    cases hplace
  cases arriving_of_run h houtside harriving with
  | waiting hevents hnumber => exact (hgiven (Nat.le.intro hnumber)).elim
  | late hshut hnever => exact (hgiven hnever).elim
  | accepted hmem =>
    have haccepted := mem_about hmem rfl
    rw [hplace] at hstory
    have hanswered (answer : Except Lock.StoreError Bool)
        (h : .answered n answer ∈ Handler.record (inner more)) :
        .answered n answer ∈ about n (Handler.record (inner more)) := mem_about h rfl
    generalize about n (Handler.record (inner more)) = es at hstory haccepted hanswered
    cases hstory with
    | locking hjudge' =>
      obtain ⟨rfl, rfl⟩ : topic = _ ∧ payload = _ := by simpa using haccepted
      obtain rfl := Verdict.command.inj (hjudge.symm.trans hjudge')
      refine ⟨(Task.Phase.locking.inj hphase).symm, fun answer h => ?_⟩
      simpa using hanswered answer h
    | _ => simp at hphase

/-- A command that is arriving at a handler is received once, if its lock is granted and the
    handler is not closed before it is taken. Until then it waits, or the handler holds it. -/
theorem delivered_or_held (hpast : Run State.step? {} past s.handler) (h : Run step? s more s')
    (houtside : ∀ e ∈ more, e.2.isOutside = true) (harriving : Arriving n topic payload [] s)
    (hnew : s.handler.nextTicket ≤ n) (hjudge : judge topic payload = .command command)
    (hreceiver : s'.handler.receiver = true)
    (htaken : s'.handler.sender = true ∨ n < s'.handler.nextTicket)
    (hgranted : ∀ answer, .answered n answer ∈ Handler.record (inner more) → answer = .ok true) :
    delivered n (Handler.record (inner more)) = [command] ∨
      (delivered n (Handler.record (inner more)) = [] ∧
        (s'.transport.events ≠ [] ∨ (s'.handler.place n).isHeld = true)) := by
  have hrun := hpast.append (run_inner h)
  have hstory := story_since hpast h hnew
  cases arriving_of_run h houtside harriving with
  | waiting hevents hnumber =>
    have hle := Nat.le.intro hnumber
    -- its ticket is still to be given out, so it has no story
    have hnothing := (numbered_of_run hrun).story_nil hle hstory
    exact .inr ⟨by rw [delivered, hnothing]; rfl, .inl (by simp [hevents])⟩
  | late hshut hnever =>
    rcases htaken with hopen | hlt
    · simp [hshut] at hopen
    · exact absurd hlt (Nat.not_lt.mpr hnever)
  | accepted hmem =>
    have hsub := (about_sublist n (Handler.record (inner more))).subset
    rcases hstory.delivered_or_held (mem_about hmem rfl) hjudge
      (fun answer hanswer => hgranted answer (hsub hanswer))
      (fun command => (not_discarded (run_inner h) hreceiver n command).imp
        (fun hnot hmem => hnot (hsub hmem)) (fun hnot hmem => hnot (hsub hmem)))
      with hdone | ⟨hnothing, hheld⟩
    · exact .inl hdone
    · exact .inr ⟨hnothing, .inr hheld⟩

/-! ### Work that is left -/

/-- Whether an action carries a message on, or takes an event. -/
def Action.carries : Action → Bool
  | .dispatch => true
  | .own action => action.carries
  | _ => false

/-- The steps that are left for all events that wait and all messages that the handler holds. -/
def load (s : Station) : Nat := 6 * s.transport.events.length + s.handler.load

/-- Steps that carry messages on leave less to do, and only the other side of the session brings
    more. -/
theorem load_step (h : s.step? a = some s') (hn : s.handler.Numbered)
    (houtside : a.isOutside = true) :
    a.carries.toNat + s'.load ≤ s.load + 6 * a.isScript.toNat := by
  have hturns := turns_of_step h houtside
  generalize inner [(s, a)] = steps at hturns
  cases hturns with
  | script hscript hhandler hevents hone =>
    have hcarries : a.carries = false := by cases a <;> simp_all [Action.isScript, Action.carries]
    simp only [load, hhandler, hevents, hscript, hcarries, List.length_append, Bool.toNat_true,
      Bool.toNat_false]
    omega
  | dispatch hdispatch hevents hstep =>
    -- the event was worth six steps, of which this is one
    have hload : s'.handler.load ≤ s.handler.load + 5 := by
      rcases (State.step_cases hstep).load_le hn with hload | ⟨-, -, -, -, hload⟩
      · omega
      · exact hload
    subst hdispatch
    simp only [load, hevents, List.length_cons, Action.carries, Bool.toNat_true]
    omega
  | @other b hscript hdispatch hother t hresolve hevents hstep =>
    have hcase := State.step_cases hstep
    have hload : s'.handler.load ≤ s.handler.load := by
      rcases hcase.load_le hn with hload | ⟨topic, payload, hevent, -⟩
      · exact hload
      · exact absurd hevent (hother _)
    cases hcarries : a.carries with
    | false =>
      simp only [load, hevents, Bool.toNat_false]
      omega
    | true =>
      -- only a step of its own carries a message on
      have hless : s'.handler.load < s.handler.load := by
        cases hresolve with
        | own hown => exact hcase.load_lt hn hcarries
        | dispatch => exact absurd rfl hdispatch
        | _ => simp [Action.carries] at hcarries
      simp only [load, hevents, Bool.toNat_true]
      omega

end Station

end LoraBridge.Handler
