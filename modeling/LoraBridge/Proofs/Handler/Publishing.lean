import LoraBridge.Proofs.Document.RoundTrip
import LoraBridge.Proofs.Handler.Post

/-! # What is published

  The network server sends documents by way of its handler, while the parts of the handler take their
  steps, the session comes and goes, and somebody makes publishing fail and succeed again. Each
  document is published once or not at all, and the one who sends it is told which.

  - `Post.move?`: what can happen at a post where documents are sent.
  - `Post.send_of_failing`, `Post.send_of_working`: what sending does, by what publishing is set to.
  - `Post.published_move`, `Post.failure_move`: what a step does to the list of what was published, and
    to what publishing is set to.
  - `Post.published_exactly`: what was published after a run.
-/

namespace LoraBridge.Transport.Local

/-- A transport with the same publications, on which publishing goes the same way. -/
structure SamePublishing (t t' : Local) : Prop where
  published : t'.published = t.published
  failure : t'.publishFailure? = t.publishFailure?

variable (t : Local) {call : Call}

theorem samePublishing_inject (event : Event) : t.SamePublishing (t.inject event) := by
  unfold inject
  split <;> exact ⟨rfl, rfl⟩

theorem samePublishing_subscribe (filter : String) (qos : QoS) :
    t.SamePublishing (t.subscribe filter qos).2 := by
  unfold subscribe
  dsimp only
  split
  · exact ⟨rfl, rfl⟩
  · split <;> exact ⟨rfl, rfl⟩

theorem samePublishing_unsubscribe (filter : String) :
    t.SamePublishing (t.unsubscribe filter).2 := by
  unfold unsubscribe
  split <;> exact ⟨rfl, rfl⟩

/-- The other side of the session changes what is published by publishing alone, and how publishing
    goes by setting that. -/
theorem samePublishing_apply (hpublish : ∀ p, call ≠ .publish p)
    (hswitch : ∀ reason?, call ≠ .failPublishes reason?) : t.SamePublishing (t.apply call) := by
  cases call with
  | connect => exact t.samePublishing_inject _
  | dropConnection reason =>
    obtain ⟨hpublished, hfailure⟩ :=
      samePublishing_inject { t with subscriptions := [] } (.lost reason)
    exact ⟨hpublished, hfailure⟩
  | deliver topic payload =>
    simp only [apply, deliver]
    split
    · exact t.samePublishing_inject _
    · exact ⟨rfl, rfl⟩
  | inject event => exact t.samePublishing_inject event
  | failPublishes reason? => exact absurd rfl (hswitch reason?)
  | publish p => exact absurd rfl (hpublish p)
  | subscribe filter qos => exact t.samePublishing_subscribe filter qos
  | unsubscribe filter => exact t.samePublishing_unsubscribe filter
  | _ => exact ⟨rfl, rfl⟩

end LoraBridge.Transport.Local

namespace LoraBridge.Handler

open Transport (Local Publication)

/-- Whatever the transport does for the handler is nothing to what is published. -/
theorem Station.Resolves.samePublishing {s : Station} {a : Station.Action} {b : Handler.Action}
    {t : Local} (h : s.Resolves a b t) : s.transport.SamePublishing t := by
  cases h with
  | subscribeReply loop hreply =>
    rw [show t = (s.transport.subscribe commandFilter .exactlyOnce).2 from by rw [hreply]]
    exact s.transport.samePublishing_subscribe _ _
  | unsubscribeReply hreply =>
    rw [show t = (s.transport.unsubscribe commandFilter).2 from by rw [hreply]]
    exact s.transport.samePublishing_unsubscribe _
  | _ => exact ⟨rfl, rfl⟩

namespace Post

variable {σ : Type}

/-! ### Sending -/

/-- What may happen at a post. -/
inductive Move where
  /-- The network server sends a document about a device. -/
  | send (address : TopicAddress) (notice : Notice)
  /-- Something else happens. -/
  | act (action : Action)

/-- Publishes a document about a device. -/
def send (c : Post σ) (address : TopicAddress) (notice : Notice) : Except Error Unit × Post σ :=
  let (result, station) := c.station.send address notice
  (result, { c with station })

/-- The post after something has happened, if that is possible. -/
def move? (l : Lock.Contract σ) (c : Post σ) : Move → Option (Post σ)
  | .send address notice => some (c.send address notice).2
  | .act action => c.step? l action

/-- What a document is published as: its topic has the identities and the suffix of its kind, it may
    get lost, and its payload is its text. -/
def publicationOf (sent : TopicAddress × Notice) : Publication where
  topic := "application/" ++ sent.1.application ++ "/node/" ++ sent.1.device ++ "/" ++
    sent.2.kind.suffix
  qos := .atMostOnce
  payload := sent.2.encode

/-- Why publishing fails at a post, if it does. -/
def failure? (c : Post σ) : Option String := c.station.transport.publishFailure?

/-- What was published at a post, in order. -/
def published (c : Post σ) : List Publication := c.station.transport.published

/-- Where publishing fails, the one who sends a document is told so, and nothing changes. -/
theorem send_of_failing {c : Post σ} {reason : String} (h : c.failure? = some reason)
    (address : TopicAddress) (notice : Notice) :
    c.send address notice = (.error (.publish notice.kind (.injected reason)), c) := by
  have hpublish (p : Publication) : c.station.transport.publish p =
      (.error (.injected reason), c.station.transport) := by
    rw [failure?] at h
    simp only [Local.publish, h]
  rw [send, Station.send, hpublish]
  rfl

/-- Where publishing works, the document is published, and nothing else changes. -/
theorem send_of_working {c : Post σ} (h : c.failure? = none) (address : TopicAddress)
    (notice : Notice) :
    c.send address notice = (.ok (), { c with station := { c.station with
      transport := { c.station.transport with
        published := c.published ++ [publicationOf (address, notice)] } } }) := by
  have hpublish (p : Publication) : c.station.transport.publish p =
      (.ok (), { c.station.transport with published := c.published ++ [p] }) := by
    rw [failure?] at h
    simp only [Local.publish, h, published]
  rw [send, Station.send, hpublish]
  rfl

/-! ### What was sent and what was set -/

/-- What publishing is set to in a move, if it is one that sets it. -/
def Move.setting? : Move → Option (Option String)
  | .act (.station (.script (.failPublishes reason?))) => some reason?
  | _ => none

/-- Whether somebody publishes past the handler. -/
def Move.isForeign : Move → Bool
  | .act (.station (.script (.publish _))) => true
  | _ => false

/-- What publishing is set to after some steps, if it was set to `initially` before: whatever the last
    of them that sets it says. -/
def setting (initially : Option String) (steps : List (Post σ × Move)) : Option String :=
  (steps.filterMap fun e => e.2.setting?).getLast?.getD initially

/-- The document that is sent in a step, if the one who sends it is told that this has worked. -/
def accepted? (c : Post σ) : Move → Option (TopicAddress × Notice)
  | .send address notice =>
    if (c.send address notice).1.isOk then some (address, notice) else none
  | .act _ => none

/-- The documents of which those who sent them were told that this has worked, in order. -/
def accepted (steps : List (Post σ × Move)) : List (TopicAddress × Notice) :=
  steps.filterMap fun e => e.1.accepted? e.2

variable {l : Lock.Contract σ} {c c' start : Post σ} {m : Move} {a : Action}
  {steps : List (Post σ × Move)}

theorem accepted_concat (steps : List (Post σ × Move)) (c : Post σ) (m : Move) :
    accepted (steps ++ [(c, m)]) = accepted steps ++ (c.accepted? m).toList :=
  filterMap_concat _ _ _

theorem setting_concat (initially : Option String) (steps : List (Post σ × Move)) (c : Post σ)
    (m : Move) :
    setting initially (steps ++ [(c, m)]) = m.setting?.getD (setting initially steps) := by
  rw [setting, filterMap_concat]
  cases m.setting? <;> simp [setting]

/-! ### Step by step -/

/-- What happens beside sending is nothing to what is published, unless somebody publishes past the
    handler or sets how publishing goes. -/
theorem step_samePublishing (hown : (Move.act a).isForeign = false)
    (hsetting : (Move.act a).setting? = none) (h : c.step? l a = some c') :
    c.station.transport.SamePublishing c'.station.transport := by
  cases step_cases h with
  | @station action station hanswer hstep =>
    rcases Station.step_cases hstep with ⟨call, rfl, rfl⟩ | ⟨b, t, hresolve, -, rfl⟩
    · refine c.station.transport.samePublishing_apply ?_ ?_
      · rintro p rfl
        cases hown
      · rintro reason? rfl
        cases hsetting
    · exact (Station.resolve?_cases hresolve).samePublishing
  | answer hlocking hstep =>
    rcases Station.step_cases hstep with ⟨call, hcall, -⟩ | ⟨b, t, hresolve, -, rfl⟩
    · cases hcall
    · exact (Station.resolve?_cases hresolve).samePublishing
  | fail hlocking hstep =>
    rcases Station.step_cases hstep with ⟨call, hcall, -⟩ | ⟨b, t, hresolve, -, rfl⟩
    · cases hcall
    · exact (Station.resolve?_cases hresolve).samePublishing
  | _ => exact ⟨rfl, rfl⟩

/-- A move that sets how publishing goes does nothing else. -/
theorem setting_move {reason? : Option String} (hsetting : m.setting? = some reason?)
    (h : c.move? l m = some c') : c'.published = c.published ∧ c'.failure? = reason? := by
  unfold Move.setting? at hsetting
  split at hsetting
  · obtain rfl := Option.some.inj hsetting
    obtain rfl := Option.some.inj h
    exact ⟨rfl, rfl⟩
  · cases hsetting

/-- What was published grows by the document that is sent, if that works, and by nothing else. -/
theorem published_move (hown : m.isForeign = false) (h : c.move? l m = some c') :
    c'.published = c.published ++ (c.accepted? m).toList.map publicationOf := by
  cases m with
  | send address notice =>
    obtain rfl := Option.some.inj h
    cases hfailure : c.failure? with
    | some reason =>
      rw [accepted?, send_of_failing hfailure]
      exact (List.append_nil _).symm
    | none =>
      rw [accepted?, send_of_working hfailure]
      rfl
  | act action =>
    rw [show c.accepted? (.act action) = none from rfl, Option.toList_none, List.map_nil,
      List.append_nil]
    cases hsetting : (Move.act action).setting? with
    | some reason? => exact (setting_move hsetting h).1
    | none => exact (step_samePublishing hown hsetting h).published

/-- How publishing goes stays as it is until it is set anew. -/
theorem failure_move (hown : m.isForeign = false) (h : c.move? l m = some c') :
    c'.failure? = m.setting?.getD c.failure? := by
  cases hsetting : m.setting? with
  | some reason? => exact (setting_move hsetting h).2
  | none =>
    rw [Option.getD_none]
    cases m with
    | send address notice =>
      obtain rfl := Option.some.inj h
      cases hfailure : c.failure? with
      | some reason => rwa [send_of_failing hfailure]
      | none =>
        rw [send_of_working hfailure]
        exact hfailure
    | act action => exact (step_samePublishing hown hsetting h).failure

/-! ### All of it -/

theorem published_of_run (h : Run (move? l) start steps c)
    (hown : ∀ e ∈ steps, e.2.isForeign = false) :
    c.published = start.published ++ (accepted steps).map publicationOf := by
  induction h with
  | refl => exact (List.append_nil _).symm
  | @step steps r m c _ now ih =>
    rw [published_move (hown (r, m) (by simp)) now, accepted_concat, List.map_append,
      ← List.append_assoc, ← ih fun e he => hown e (List.mem_append_left _ he)]

theorem failure_of_run (h : Run (move? l) start steps c)
    (hown : ∀ e ∈ steps, e.2.isForeign = false) :
    c.failure? = setting start.failure? steps := by
  induction h with
  | refl => rfl
  | @step steps r m c _ now ih =>
    rw [failure_move (hown (r, m) (by simp)) now, setting_concat,
      ← ih fun e he => hown e (List.mem_append_left _ he)]

/-- What the one who sends a document is told, where publishing is set to fail for a reason or not to
    fail: which document was not published and why, and that nothing has changed then. -/
structure Told (setting : Option String) (c : Post σ) (address : TopicAddress) (notice : Notice) :
    Prop where
  failed_iff : ∀ reason, setting = some reason ↔
    (c.send address notice).1 = .error (.publish notice.kind (.injected reason))
  worked_iff : setting = none ↔ (c.send address notice).1 = .ok ()
  message : ∀ e, (c.send address notice).1 = .error e → ∃ reason, setting = some reason ∧
    e.message = "publish " ++ notice.kind.name ++ " payload error: " ++ reason
  unchanged : setting ≠ none → (c.send address notice).2 = c

theorem told (c : Post σ) (address : TopicAddress) (notice : Notice) :
    Told c.failure? c address notice := by
  cases h : c.failure? with
  | some reason =>
    have hsend := send_of_failing h address notice
    constructor
    · intro other
      rw [hsend, Option.some.injEq]
      constructor
      · rintro rfl
        rfl
      · rintro ⟨⟩
        rfl
    · rw [hsend]
      exact iff_of_false nofun nofun
    · intro e he
      rw [hsend] at he
      obtain rfl := Except.error.inj he
      exact ⟨reason, rfl, rfl⟩
    · intro _
      rw [hsend]
  | none =>
    have hsend := send_of_working h address notice
    constructor
    · intro reason
      rw [hsend]
      exact iff_of_false nofun nofun
    · rw [hsend]
      exact iff_of_true rfl rfl
    · intro e he
      rw [hsend] at he
      cases he
    · exact fun hne => absurd rfl hne

/-- Whether a notice is read from this payload. Uplinks may differ from what was sent in how they
    write what is unset, so nothing is said of them. -/
def IsReadFrom (payload : Bytes) : Notice → Prop
  | .data _ => True
  | .join notice => decode joinRecord payload = .ok notice
  | .ack notice => decode ackRecord payload = .ok notice
  | .error notice => decode errorRecord payload = .ok notice

theorem isReadFrom_encode (notice : Notice) : IsReadFrom notice.encode notice := by
  cases notice with
  | data uplink => trivial
  | join notice => exact decode_of_gives (join_gives notice)
  | ack notice => exact decode_of_gives (ack_gives notice)
  | error notice => exact decode_of_gives (error_gives notice)

/-- Whatever else happens at a post, and however often publishing is made to fail and to work again:
    what was published are the documents of which those who sent them were told that this has worked,
    each of them once and in the order of sending. They were told otherwise exactly when publishing
    was set to fail at that time, and then nothing has changed, be it on the transport, on the queue
    or in the lock store. Notices are read from what was published as they were sent. -/
theorem published_exactly (h : Run (move? l) start steps c)
    (hown : ∀ e ∈ steps, e.2.isForeign = false) :
    c.published = start.published ++ (accepted steps).map publicationOf ∧
      (∀ before r address notice after, steps = before ++ (r, .send address notice) :: after →
        Told (setting start.failure? before) r address notice) ∧
      ∀ sent ∈ accepted steps, IsReadFrom (publicationOf sent).payload sent.2 := by
  refine ⟨published_of_run h hown, fun before r address notice after heq => ?_,
    fun sent _ => isReadFrom_encode sent.2⟩
  subst heq
  obtain ⟨hbefore, -⟩ := h.split_at
  rw [← failure_of_run hbefore fun e he => hown e (List.mem_append_left _ he)]
  exact r.told address notice

/-- Three documents, for the second of which publishing fails. -/
def threeSends : List Move :=
  [.send ⟨"a/b", "+"⟩ (.join { address := "01", device := "d\n1" }),
    .act (.station (.script (.failPublishes (some "down")))),
    .send ⟨"a1", "d1"⟩ (.ack { reference := "r1", device := "d1" }),
    .act (.station (.script (.failPublishes none))),
    .send ⟨"a1", "d1"⟩ (.error { device := "d1", type := "t", text := "e" })]

theorem published_exactly_failingBetween :
    ∃ steps c r, Run (move? Lock.embedded) { store := Lock.Tree.empty } steps c ∧
      (∀ e ∈ steps, e.2.isForeign = false) ∧ steps.map (·.2) = threeSends ∧
      c.published.map (·.topic) = ["application/a/b/node/+/join", "application/a1/node/d1/error"] ∧
      steps[2]? = some (r, .send ⟨"a1", "d1"⟩ (.ack { reference := "r1", device := "d1" })) ∧
      r.send ⟨"a1", "d1"⟩ (.ack { reference := "r1", device := "d1" }) =
        (.error (.publish .ack (.injected "down")), r) ∧
      decode joinRecord (publicationOf (⟨"a/b", "+"⟩,
        .join { address := "01", device := "d\n1" })).payload =
          .ok { address := "01", device := "d\n1" } := by
  have hfacts : (Run.steps? (move? Lock.embedded) { store := Lock.Tree.empty } threeSends).map
      (fun run => (run.1.map (·.2), accepted run.1, setting none (run.1.take 2))) =
      some (threeSends, [(⟨"a/b", "+"⟩, .join { address := "01", device := "d\n1" }),
        (⟨"a1", "d1"⟩, .error { device := "d1", type := "t", text := "e" })], some "down") := rfl
  obtain ⟨⟨steps, c⟩, hsteps, hfacts⟩ := Option.map_eq_some_iff.mp hfacts
  simp only [Prod.mk.injEq] at hfacts
  obtain ⟨hmoves, haccepted, hsetting⟩ := hfacts
  have hrun := Run.of_steps? hsteps
  have hown : ∀ e ∈ steps, e.2.isForeign = false := by
    have hall : threeSends.all (fun m => !m.isForeign) = true := rfl
    intro e he
    simpa using List.all_eq_true.mp hall e.2 (hmoves ▸ List.mem_map_of_mem he)
  obtain ⟨hpublished, htold, hread⟩ := published_exactly hrun hown
  -- the second document is the third step
  obtain ⟨⟨r, m⟩, hthird, rfl⟩ : ∃ e, steps[2]? = some e ∧
      e.2 = .send ⟨"a1", "d1"⟩ (.ack { reference := "r1", device := "d1" }) := by
    have hmove : (steps.map (·.2))[2]? =
        some (.send ⟨"a1", "d1"⟩ (.ack { reference := "r1", device := "d1" })) := by
      rw [hmoves]
      rfl
    rw [List.getElem?_map] at hmove
    exact Option.map_eq_some_iff.mp hmove
  obtain ⟨hlt, hget⟩ := List.getElem?_eq_some_iff.mp hthird
  have hdivided : steps = steps.take 2 ++ steps[2] :: steps.drop 3 := by
    rw [List.getElem_cons_drop, List.take_append_drop]
  rw [hget] at hdivided
  have hanswer := htold _ _ _ _ _ hdivided
  rw [show failure? { store := Lock.Tree.empty : Post Lock.Tree } = none from rfl, hsetting] at hanswer
  refine ⟨steps, c, r, hrun, hown, hmoves, ?_, hthird, ?_, ?_⟩
  · rw [hpublished, haccepted]
    rfl
  · exact Prod.ext ((hanswer.failed_iff "down").mp rfl) (hanswer.unchanged nofun)
  · exact hread (⟨"a/b", "+"⟩, .join { address := "01", device := "d\n1" })
      (by rw [haccepted]; exact List.mem_cons_self)

end Post

end LoraBridge.Handler
