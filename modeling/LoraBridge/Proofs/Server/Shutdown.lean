import LoraBridge.Proofs.Handler.Custody
import LoraBridge.Server.Basic

/-! # Shutting down a server

  A server owes the network server every command whose lock its handler has acquired: no other
  handler will forward it. What it still has in hand is on the queue of its handler or held by a
  task there.

  A server that is interrupted goes on forwarding while its handler is closed. If that succeeds,
  nothing is left in hand when it returns. If the handler cannot be closed, the server returns in
  the middle of its work, and what it has in hand then has not been forwarded. Some of that may
  still be, as long as the process lives on; nothing sees to it.

  - `State.Step` lists what a server can do.
  - `inner` gives the steps of its handler, which is a run of the handler (`run_inner`).
  - `shutdown_accounted`: every command that was acquired is forwarded or in hand, and what becomes
    of the latter when the server returns.
-/

namespace LoraBridge.Server

open Handler (acquired record Entry)

variable {s s' : State} {a : Action} {steps more : List (State × Action)}

/-! ### Steps by their cases -/

/-- What an action does to a server, and under which conditions. -/
inductive State.Step (s : State) : Action → State → Prop
  | handler {step : Handler.Action} {handler : Handler.State} (hown : isHandlers step = true)
    (hstep : s.handler.step? step = some handler) :
    Step s (.handler step) { s with handler }
  | forward {e : Nat × Command} {queue : List (Nat × Command)} {handler : Handler.State}
    (hbusy : s.phase.result? = none) (hqueue : s.handler.queue = e :: queue)
    (hstep : s.handler.step? .receive = some handler) :
    Step s .forward { s with handler, forwarded := s.forwarded ++ [e] }
  | interrupt {handler : Handler.State} (hphase : s.phase = .serving)
    (hstep : s.handler.step? .close = some handler) :
    Step s .interrupt { s with handler, phase := .closing s.handler.returns.length }
  | closed {call : Nat} (hphase : s.phase = .closing call)
    (hreturned : s.handler.returns[call]? = some (some (.ok ()))) :
    Step s .closed { s with phase := .draining }
  | failed {call : Nat} {e : Handler.Error} (hphase : s.phase = .closing call)
    (hreturned : s.handler.returns[call]? = some (some (.error e))) :
    Step s .closed { s with phase := .returned (.error e) }
  | finish (hphase : s.phase = .draining) (hlook : s.handler.look = .ended) :
    Step s .finish { s with phase := .returned (.ok ()) }

theorem State.step_cases (h : s.step? a = some s') : s.Step a s' := by
  simp only [State.step?, Option.bind_eq_bind, Option.bind_eq_some_iff] at h
  obtain ⟨⟨action?, phase⟩, hresolve, h⟩ := h
  cases a with
  | handler step =>
    simp only [resolve?] at hresolve
    split at hresolve
    · next hown =>
      obtain ⟨rfl, rfl⟩ : some step = action? ∧ s.phase = phase := by simpa using hresolve
      obtain ⟨handler, hstep, h⟩ := Option.bind_eq_some_iff.mp h
      obtain rfl := Option.some.inj h
      exact .handler hown hstep
    · cases hresolve
  | forward =>
    have hresolved : s.phase.result? = none ∧ some .receive = action? ∧ s.phase = phase := by
      cases hphase : s.phase <;> simp_all [resolve?, Phase.result?]
    obtain ⟨hbusy, rfl, rfl⟩ := hresolved
    obtain ⟨handler, hstep, h⟩ := Option.bind_eq_some_iff.mp h
    obtain rfl := Option.some.inj h
    have hcase := Handler.State.step_cases hstep
    generalize s.handler.entries .receive = es at hcase
    cases hcase with
    | receive hqueue hreceiver =>
      simp only [hqueue, List.take_succ_cons, List.take_zero]
      exact .forward hbusy hqueue hstep
  | interrupt =>
    cases hphase : s.phase with
    | serving =>
      simp only [resolve?, hphase, Option.some.injEq, Prod.mk.injEq] at hresolve
      obtain ⟨rfl, rfl⟩ := hresolve
      obtain ⟨handler, hstep, h⟩ := Option.bind_eq_some_iff.mp h
      obtain rfl := Option.some.inj h
      exact .interrupt hphase hstep
    | _ => simp [resolve?, hphase] at hresolve
  | closed =>
    cases hphase : s.phase with
    | closing call =>
      simp only [resolve?, hphase] at hresolve
      split at hresolve
      · next hreturned =>
        obtain ⟨rfl, rfl⟩ := Prod.mk.inj (Option.some.inj hresolve)
        obtain rfl := Option.some.inj h
        exact .closed hphase hreturned
      · next e hreturned =>
        obtain ⟨rfl, rfl⟩ := Prod.mk.inj (Option.some.inj hresolve)
        obtain rfl := Option.some.inj h
        exact .failed hphase hreturned
      · cases hresolve
    | _ => simp [resolve?, hphase] at hresolve
  | finish =>
    simp only [resolve?] at hresolve
    split at hresolve
    · next hphase hlook =>
      obtain ⟨rfl, rfl⟩ := Prod.mk.inj (Option.some.inj hresolve)
      obtain rfl := Option.some.inj h
      exact .finish hphase hlook
    · cases hresolve

/-! ### The handler of a server -/

/-- The step of the handler that belongs to a step of the server, if one does. -/
def State.inner? (s : State) (a : Action) : Option Handler.Action :=
  (resolve? s.handler s.phase a).bind (·.1)

/-- The steps of the handler among those of the server. -/
def inner (steps : List (State × Action)) : List (Handler.State × Handler.Action) :=
  steps.filterMap fun p => (p.1.inner? p.2).map fun step => (p.1.handler, step)

theorem inner_append (steps more : List (State × Action)) :
    inner (steps ++ more) = inner steps ++ inner more :=
  List.filterMap_append

/-- The handler of a server takes the step that belongs to the server's, if one does. What it lets
    go of as received is what the server forwards. -/
theorem State.Step.inner (h : s.Step a s') :
    (s.inner? a = none ∧ s'.handler = s.handler ∧ s'.forwarded = s.forwarded) ∨
      ∃ step, s.inner? a = some step ∧ s.handler.step? step = some s'.handler ∧
        step ≠ .dropReceiver ∧
        s'.forwarded = s.forwarded ++ (s.handler.entries step).filterMap Entry.received? := by
  cases h with
  | @handler step handler hown hstep =>
    have hreceive : step ≠ .receive := by
      rintro rfl
      cases hown
    have hdrop : step ≠ .dropReceiver := by
      rintro rfl
      cases hown
    have hnone := (Handler.State.step_cases hstep).received_eq_nil hreceive
    exact .inr ⟨step, by simp [inner?, resolve?, hown], hstep, hdrop, by simp [hnone]⟩
  | @forward e queue handler hbusy hqueue hstep =>
    have hreceived : (s.handler.entries .receive).filterMap Entry.received? = [e] := by
      simp [Handler.State.entries, hqueue, Entry.received?]
    refine .inr ⟨.receive, ?_, hstep, by simp, by simp [hreceived]⟩
    cases hphase : s.phase <;> simp_all [inner?, resolve?, Phase.result?]
  | interrupt hphase hstep =>
    exact .inr ⟨.close, by simp [inner?, resolve?, hphase], hstep, by simp,
      by simp [Handler.State.entries]⟩
  | closed hphase hreturned | failed hphase hreturned =>
    exact .inl ⟨by simp [inner?, resolve?, hphase, hreturned], rfl, rfl⟩
  | finish hphase hlook => exact .inl ⟨by simp [inner?, resolve?, hphase, hlook], rfl, rfl⟩

/-- The handler of a server runs as handlers do, and what was forwarded is what it let go of as
    received. -/
theorem run_inner (h : Run State.step? s steps s') :
    Run Handler.State.step? s.handler (inner steps) s'.handler ∧
      s'.forwarded = s.forwarded ++ (record (inner steps)).filterMap Entry.received? := by
  induction h with
  | refl => exact ⟨.refl, by simp [Server.inner]⟩
  | @step steps r a s' _ now ih =>
    obtain ⟨hrun, hforwarded⟩ := ih
    rw [inner_append]
    rcases (State.step_cases now).inner with ⟨hnone, hsame, hkept⟩ | ⟨step, hinner, hstep, -, hmore⟩
    · have hnil : Server.inner [(r, a)] = [] := by simp [Server.inner, hnone]
      rw [hnil, List.append_nil, hsame, hkept]
      exact ⟨hrun, hforwarded⟩
    · have hone : Server.inner [(r, a)] = [(r.handler, step)] := by simp [Server.inner, hinner]
      rw [hone, hmore, hforwarded]
      exact ⟨.step hrun hstep, by simp⟩

/-! ### Servers that return -/

/-- What a server has brought to an end. -/
structure State.Settled (s : State) : Prop where
  /-- Nobody but the server could stop receiving. -/
  receiver : s.handler.receiver = true
  /-- Once the server has learned that its handler is closed, it is. -/
  quiet : s.phase = .draining ∨ s.phase = .returned (.ok ()) → s.handler.Quiet
  /-- When the server returns without an error, nothing is left on the queue. -/
  empty : s.phase = .returned (.ok ()) → s.handler.queue = []

theorem State.Settled.start : State.Settled {} := by
  constructor <;> simp

/-- A step of the handler changes nothing about that. -/
theorem State.Settled.of_inner (hs : s.Settled) {step : Handler.Action} {handler : Handler.State}
    (hstep : s.handler.step? step = some handler) (hdrop : step ≠ .dropReceiver) :
    handler.receiver = true ∧ (s.handler.Quiet → handler.Quiet) ∧
      (s.handler.Quiet → s.handler.queue = [] → handler.queue = []) := by
  have hcase := Handler.State.step_cases hstep
  have hreceiver : handler.receiver = true := (hcase.receiver_eq hdrop).trans hs.receiver
  refine ⟨hreceiver, fun hquiet => (hquiet.step hcase).1, fun hquiet hempty => ?_⟩
  -- what a closed handler has on its queue was there before
  have hqueue := hquiet.received_eq (.single hstep) hreceiver
  rw [hempty, List.append_eq_nil_iff] at hqueue
  exact hqueue.2

theorem State.Settled.step (hs : s.Settled) (h : s.Step a s')
    (hclosed : ∀ call : Nat, s.handler.returns[call]? = some (some (.ok ())) → s.handler.Quiet) :
    s'.Settled := by
  cases h with
  | @handler step handler hown hstep =>
    have hdrop : step ≠ .dropReceiver := by
      rintro rfl
      cases hown
    obtain ⟨hreceiver, hquiet, hempty⟩ := hs.of_inner hstep hdrop
    exact ⟨hreceiver, fun hphase => hquiet (hs.quiet hphase),
      fun hphase => hempty (hs.quiet (.inr hphase)) (hs.empty hphase)⟩
  | forward hbusy hqueue hstep =>
    obtain ⟨hreceiver, hquiet, hempty⟩ := hs.of_inner hstep (by simp)
    exact ⟨hreceiver, fun hphase => hquiet (hs.quiet hphase),
      fun hphase => hempty (hs.quiet (.inr hphase)) (hs.empty hphase)⟩
  | interrupt hphase hstep =>
    exact ⟨(hs.of_inner hstep (by simp)).1, by simp, by simp⟩
  | closed hphase hreturned => exact ⟨hs.receiver, fun _ => hclosed _ hreturned, by simp⟩
  | failed hphase hreturned => exact ⟨hs.receiver, by simp, by simp⟩
  | finish hphase hlook =>
    refine ⟨hs.receiver, fun _ => hs.quiet (.inl hphase), fun _ => ?_⟩
    have hquiet := (hs.quiet (.inl hphase)).look hs.receiver
    cases hqueue : s.handler.queue with
    | nil => rfl
    | cons e queue =>
      rw [hlook, hqueue] at hquiet
      cases hquiet

theorem settled_of_run (h : Run State.step? {} steps s) : s.Settled := by
  induction h with
  | refl => exact State.Settled.start
  | step hbefore now ih =>
    exact ih.step (State.step_cases now) fun call hreturned =>
      Handler.quiet_of_returned (run_inner hbefore).1 hreturned

/-- A server that has returned forwards nothing any more. -/
theorem State.Step.returned_stays (h : s.Step a s') (hreturned : s.phase.result? ≠ none) :
    s'.phase = s.phase ∧ s'.forwarded = s.forwarded := by
  cases h with
  | handler hown hstep => exact ⟨rfl, rfl⟩
  | forward hbusy hqueue hstep => exact absurd hbusy hreturned
  | interrupt hphase hstep | closed hphase _ | failed hphase _ | finish hphase _ =>
    simp [hphase, Phase.result?] at hreturned

theorem returned_of_run (h : Run State.step? s more s') (hreturned : s.phase.result? ≠ none) :
    s'.phase = s.phase ∧ s'.forwarded = s.forwarded := by
  induction h with
  | refl => exact ⟨rfl, rfl⟩
  | step _ now ih =>
    obtain ⟨hphase, hforwarded⟩ := ih
    obtain ⟨hphase', hforwarded'⟩ :=
      (State.step_cases now).returned_stays (hphase ▸ hreturned)
    exact ⟨hphase'.trans hphase, hforwarded'.trans hforwarded⟩

/-- At any time, the commands whose locks the handler of a server has acquired, each for a message
    of its own, are exactly those that the server has forwarded and those that it has in hand, on
    the queue or held by tasks. If the server returns without an error, it has forwarded them all.
    If it returns with an error, since its handler could not be closed, it returns without having
    forwarded what it has in hand then. -/
theorem shutdown_accounted (h : Run State.step? {} steps s) :
    (acquired (inner steps)).Perm (s.forwarded ++ (s.handler.queue ++ s.handler.held)) ∧
      ((acquired (inner steps)).map (·.1)).Nodup ∧
      (s.phase = .returned (.ok ()) → (acquired (inner steps)).Perm s.forwarded) ∧
      (∀ e, s.phase = .returned (.error e) → ∀ more s', Run State.step? s more s' →
        s'.forwarded = s.forwarded) := by
  obtain ⟨hrun, hforwarded⟩ := run_inner h
  have hsettled := settled_of_run h
  have hperm := Handler.acquired_perm hrun
  rw [Handler.discarded_eq_nil hrun hsettled.receiver, List.nil_append] at hperm
  have hsame : s.forwarded = (record (inner steps)).filterMap Entry.received? := by
    simpa using hforwarded
  rw [← hsame] at hperm
  refine ⟨hperm, Handler.nodup_acquired hrun, ?_, ?_⟩
  · intro hphase
    have hquiet := hsettled.quiet (.inr hphase)
    have hnone : s.handler.held = [] := by
      simp [Handler.State.held, hquiet.tasks, hquiet.line]
    rwa [hsettled.empty hphase, hnone, List.append_nil, List.append_nil] at hperm
  · intro e hphase more s' hmore
    exact (returned_of_run hmore (by simp [hphase, Phase.result?])).2

/-! ### An example -/

open Handler (sampleTopic samplePayload sampleCommand)

/-- Another command for the device of the sample. -/
def otherPayload : Bytes := Text.bytes "\x7b\"devEUI\":\"d1\",\"reference\":\"r2\"\x7d"

/-- The same command as a record. -/
def otherCommand : Command := { reference := "r2", device := "d1" }

/-- Two commands get their locks and the first one is on the queue when the server is interrupted,
    and its handler asks the transport to unsubscribe. -/
def interruptWithTwo : List Action :=
  [.handler (.dispatch (.message sampleTopic samplePayload)),
    .handler (.dispatch (.message sampleTopic otherPayload)), .handler (.judge 0),
    .handler (.judge 1), .handler (.lockReply 0 (.ok true)), .handler (.lockReply 1 (.ok true)),
    .handler (.queueUp 0), .handler .send, .interrupt, .handler .enter]

/-- The handler is closed, and the server forwards both commands on the way. -/
def returnWithNone : List Action :=
  interruptWithTwo ++ [.handler (.unsubscribeReply (.ok ())), .handler .mark, .handler .detach,
    .forward, .handler (.queueUp 1), .handler .send, .handler .drained,
    .handler (.disconnectReply (.ok ())), .closed, .forward, .finish]

/-- The transport does not unsubscribe in time. -/
def returnWithTwo : List Action :=
  interruptWithTwo ++ [.handler (.unsubscribeReply (.error (.timeout "UNSUBACK"))), .closed]

theorem shutdown_accounted_drained :
    ∃ steps s, Run State.step? {} steps s ∧ s.phase.result? = some (.ok ()) ∧
      acquired (inner steps) = [(0, sampleCommand), (1, otherCommand)] ∧
      (acquired (inner steps)).Perm s.forwarded := by
  have hcomputed : (Run.steps? State.step? {} returnWithNone).map (fun run =>
      (run.2.phase, acquired (inner run.1))) =
      some (.returned (.ok ()), [(0, sampleCommand), (1, otherCommand)]) := rfl
  obtain ⟨⟨steps, s⟩, hrun, hfacts⟩ := Option.map_eq_some_iff.mp hcomputed
  simp only [Prod.mk.injEq] at hfacts
  obtain ⟨hphase, hacquired⟩ := hfacts
  obtain ⟨-, -, hall, -⟩ := shutdown_accounted (Run.of_steps? hrun)
  exact ⟨steps, s, Run.of_steps? hrun, by rw [hphase]; rfl, hacquired, hall hphase⟩

/-- A server whose handler cannot be closed returns with two commands in hand whose locks it has
    acquired, and has forwarded neither. -/
theorem acquired_not_forwarded :
    ∃ steps s, Run State.step? {} steps s ∧
      s.phase = .returned (.error (.unsubscribe commandFilter (.timeout "UNSUBACK"))) ∧
      acquired (inner steps) = [(0, sampleCommand), (1, otherCommand)] ∧
      s.forwarded = [] ∧ s.handler.queue = [(0, sampleCommand)] ∧
      s.handler.held = [(1, otherCommand)] := by
  have hcomputed : (Run.steps? State.step? {} returnWithTwo).map (fun run =>
      (run.2.phase, acquired (inner run.1), run.2.forwarded, run.2.handler.queue,
        run.2.handler.held)) =
      some (.returned (.error (.unsubscribe commandFilter (.timeout "UNSUBACK"))),
        [(0, sampleCommand), (1, otherCommand)], [], [(0, sampleCommand)],
        [(1, otherCommand)]) := rfl
  obtain ⟨⟨steps, s⟩, hrun, hfacts⟩ := Option.map_eq_some_iff.mp hcomputed
  simp only [Prod.mk.injEq] at hfacts
  exact ⟨steps, s, Run.of_steps? hrun, hfacts⟩

end LoraBridge.Server
