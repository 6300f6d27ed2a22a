import LoraBridge.Proofs.Run
import LoraBridge.Transport.Local

/-! # Sessions within the process

  A local transport keeps subscriptions and a stream of events, and every call acts on one of the
  two or on both. What a call does to them is said once, and what any calls have done follows from
  that, one call after the other.

  - `Local.subscriptions_apply`, `Local.takesEvents_apply_eq`, `Local.events_apply_eq`: the
    transport after a call.
  - `Local.holds_of_run`: what is subscribed to, by the calls that were made.
  - `Local.stream_of_run`: what was put into the stream, by the calls that were made.
  - `Local.session_consistent`: how the two are related, whatever was called.
-/

namespace LoraBridge.Transport.Local

/-- Whether a filter is subscribed to. -/
def holds (t : Local) (filter : String) : Bool := t.subscriptions.any (·.1 = filter)

/-- Whether a call leaves to the handler what only its owner does with a transport: to end a
    subscription or the session, and to take events. -/
def Call.isOutside : Call → Bool
  | .unsubscribe _ => false
  | .disconnect => false
  | .takeEvents => false
  | .dropReceiver => false
  | _ => true

/-- What a call makes of the session, if it is about that. -/
def Call.session? : Call → Option Bool
  | .connect => some true
  | .dropConnection _ => some false
  | _ => none

variable (t : Local) {call : Call} {filter other topic : String} {event : Event} {qos : QoS}

/-! ### Events that are reported -/

@[simp] theorem subscriptions_inject : (t.inject event).subscriptions = t.subscriptions := by
  unfold inject
  split <;> rfl

@[simp] theorem takesEvents_inject : (t.inject event).takesEvents = t.takesEvents := by
  unfold inject
  split <;> rfl

theorem inject_of_takes (htakes : t.takesEvents = true) :
    t.inject event = { t with events := t.events ++ [event] } := by
  simp [inject, htakes]

theorem events_inject_eq :
    (t.inject event).events = t.events ++ if t.takesEvents then [event] else [] := by
  unfold inject
  split <;> simp

/-! ### Subscriptions -/

theorem takesEvents_subscribe (other : String) (qos : QoS) :
    (t.subscribe other qos).2.takesEvents = t.takesEvents := by
  unfold subscribe
  dsimp only
  split
  · rfl
  · split <;> rfl

theorem events_subscribe (other : String) (qos : QoS) :
    (t.subscribe other qos).2.events = t.events := by
  unfold subscribe
  dsimp only
  split
  · rfl
  · split <;> rfl

/-- Subscribing works unless it was made to fail. -/
theorem subscribe_ok_iff : (t.subscribe filter qos).1 = .ok () ↔ t.failingSubscribes = 0 := by
  unfold subscribe
  dsimp only
  split
  · next n hfails => simp [hfails]
  · next hzero => split <;> simp [hzero]

theorem subscriptions_subscribe (filter : String) (qos : QoS) :
    (t.subscribe filter qos).2.subscriptions =
      if t.failingSubscribes = 0 ∧ t.holds filter = false then t.subscriptions ++ [(filter, qos)]
      else t.subscriptions := by
  unfold subscribe
  dsimp only
  split
  · next n hfails => simp [hfails]
  · next hzero =>
    cases hholds : t.subscriptions.any (·.1 = filter) <;> simp [hzero, holds, hholds]

/-- Unsubscribing works unless it was made to fail. -/
theorem unsubscribe_ok_iff : (t.unsubscribe filter).1 = .ok () ↔ t.unsubscribeFailure? = none := by
  unfold unsubscribe
  split <;> simp [*]

theorem subscriptions_unsubscribe (filter : String) :
    (t.unsubscribe filter).2.subscriptions =
      if t.unsubscribeFailure? = none then t.subscriptions.filter (·.1 ≠ filter)
      else t.subscriptions := by
  unfold unsubscribe
  split <;> simp [*]

/-- A subscription comes by asking for it, when that does not fail. -/
theorem holds_subscribe (h : (t.subscribe other qos).2.holds filter = true) :
    t.holds filter = true ∨ (other = filter ∧ t.failingSubscribes = 0) := by
  rw [holds, subscriptions_subscribe] at h
  split at h
  · next hnew =>
    rw [List.any_append, Bool.or_eq_true] at h
    rcases h with h | h
    · exact .inl h
    · exact .inr ⟨by simpa using h, hnew.1⟩
  · exact .inl h

/-- Subscribing ends no subscription. -/
theorem holds_subscribe_of_holds (h : t.holds filter = true) :
    (t.subscribe other qos).2.holds filter = true := by
  rw [holds, subscriptions_subscribe]
  split
  · rw [List.any_append, Bool.or_eq_true]
    exact .inl h
  · exact h

/-- Whoever was answered that it is subscribed to is subscribed. -/
theorem holds_of_subscribe_ok {t' : Local} (h : t.subscribe filter qos = (.ok (), t')) :
    t'.holds filter = true := by
  have hzero : t.failingSubscribes = 0 := t.subscribe_ok_iff.mp (congrArg (·.1) h)
  have hafter := t.subscriptions_subscribe filter qos
  rw [h] at hafter
  rw [holds, hafter]
  split
  · simp
  · next hnot =>
    simp only [hzero, true_and, Bool.not_eq_false] at hnot
    exact hnot

theorem holds_unsubscribe (h : (t.unsubscribe other).2.holds filter = true) :
    t.holds filter = true := by
  rw [holds, subscriptions_unsubscribe] at h
  split at h
  · simp only [holds, List.any_eq_true, List.mem_filter] at h ⊢
    obtain ⟨s, ⟨hs, -⟩, heq⟩ := h
    exact ⟨s, hs, heq⟩
  · exact h

/-- A subscription that was ended is not held. -/
theorem not_holds_unsubscribe (hworks : t.unsubscribeFailure? = none) :
    (t.unsubscribe filter).2.holds filter = false := by
  simp [unsubscribe, hworks, holds]

/-- A transport that refuses to unsubscribe changes nothing. -/
theorem eq_of_unsubscribe_error {e : Error} {t' : Local}
    (h : t.unsubscribe filter = (.error e, t')) : t' = t := by
  unfold unsubscribe at h
  split at h
  · exact (Prod.mk.inj h).2.symm
  · simp at h

/-! ### What a call does -/

/-- What a call has to report. -/
def reports (t : Local) : Call → List Event
  | .connect => [.connected]
  | .dropConnection reason => [.lost reason]
  | .deliver topic payload => if t.subscribesTo topic then [.message topic payload] else []
  | .inject event => [event]
  | _ => []

/-- Whether nothing is reported any more once this has been called. -/
def Call.silences : Call → Bool
  | .disconnect => true
  | .dropReceiver => true
  | _ => false

/-- Whether a call takes away the events that wait. -/
def Call.empties : Call → Bool
  | .takeEvents => true
  | .dropReceiver => true
  | _ => false

/-- Three calls act on the subscriptions. -/
theorem subscriptions_apply (call : Call) : (t.apply call).subscriptions =
    match call with
    | .dropConnection _ => []
    | .subscribe filter qos => (t.subscribe filter qos).2.subscriptions
    | .unsubscribe filter => (t.unsubscribe filter).2.subscriptions
    | _ => t.subscriptions := by
  cases call with
  | connect | dropConnection | inject => exact subscriptions_inject _
  | deliver topic payload =>
    simp only [apply, deliver]
    split
    · exact subscriptions_inject t
    · rfl
  | publish publication =>
    simp only [apply, publish]
    split <;> rfl
  | _ => rfl

theorem takesEvents_apply_eq (call : Call) :
    (t.apply call).takesEvents = (t.takesEvents && !call.silences) := by
  cases call with
  | connect | dropConnection | inject => exact (takesEvents_inject _).trans (Bool.and_true _).symm
  | deliver topic payload =>
    simp only [apply, deliver]
    split
    · exact t.takesEvents_inject.trans (Bool.and_true _).symm
    · exact (Bool.and_true _).symm
  | publish publication =>
    simp only [apply, publish]
    split <;> exact (Bool.and_true _).symm
  | subscribe filter qos =>
    exact (t.takesEvents_subscribe filter qos).trans (Bool.and_true _).symm
  | unsubscribe filter =>
    simp only [apply, unsubscribe]
    split <;> exact (Bool.and_true _).symm
  | disconnect | dropReceiver => simp [apply, disconnect, dropReceiver, takesEvents, Call.silences]
  | _ => exact (Bool.and_true _).symm

/-- What a call reports comes after the events that wait, if somebody takes it. -/
theorem events_apply_eq (call : Call) : (t.apply call).events =
    if call.empties then [] else t.events ++ if t.takesEvents then t.reports call else [] := by
  cases call with
  | connect | dropConnection | inject => exact events_inject_eq _
  | deliver topic payload =>
    simp only [apply, deliver, reports, Call.empties]
    split
    · exact t.events_inject_eq
    · simp
  | publish publication =>
    simp only [apply, publish, reports, Call.empties]
    split <;> simp
  | subscribe filter qos => simp [apply, reports, Call.empties, events_subscribe]
  | unsubscribe filter =>
    simp only [apply, unsubscribe, reports, Call.empties]
    split <;> simp
  | takeEvents | dropReceiver => rfl
  | _ => simp [apply, failNextSubscribes, failPublishes, failUnsubscribes, delayUnsubscribes,
      disconnect, reports, Call.empties]

/-! ### The other side of the session -/

/-- Of what the other side of the session does, only subscribing adds to what is subscribed to. -/
theorem holds_apply (h : (t.apply call).holds filter = true) :
    t.holds filter = true ∨ ∃ qos, call = .subscribe filter qos ∧ t.failingSubscribes = 0 := by
  rw [holds, subscriptions_apply] at h
  cases call with
  | dropConnection reason => simp at h
  | subscribe other qos =>
    rcases t.holds_subscribe h with h | ⟨rfl, hzero⟩
    · exact .inl h
    · exact .inr ⟨qos, rfl, hzero⟩
  | unsubscribe other => exact .inl (t.holds_unsubscribe h)
  | _ => exact .inl h

/-- The other side may drop the session, but never ends it. -/
theorem takesEvents_apply (houtside : call.isOutside = true) :
    (t.apply call).takesEvents = t.takesEvents := by
  rw [takesEvents_apply_eq]
  cases call with
  | disconnect | dropReceiver => simp [Call.isOutside] at houtside
  | _ => exact Bool.and_true _

/-- Nor does it take an event away. -/
theorem mem_events_apply (houtside : call.isOutside = true) (h : event ∈ t.events) :
    event ∈ (t.apply call).events := by
  rw [events_apply_eq]
  cases call with
  | takeEvents | dropReceiver => simp [Call.isOutside] at houtside
  | _ => exact List.mem_append_left _ h

/-- It reports one event at most, which comes after those that wait. -/
theorem events_apply (houtside : call.isOutside = true) :
    ∃ more, (t.apply call).events = t.events ++ more ∧ more.length ≤ 1 := by
  have hone : (t.reports call).length ≤ 1 := by
    cases call with
    | deliver topic payload =>
      simp only [reports]
      split <;> simp
    | _ => simp [reports]
  have hkept : call.empties = false := by
    cases call with
    | takeEvents | dropReceiver => simp [Call.isOutside] at houtside
    | _ => rfl
  refine ⟨if t.takesEvents then t.reports call else [], by simp [events_apply_eq, hkept], ?_⟩
  split
  · exact hone
  · simp

/-- Of what it does, only the loss of the session ends subscriptions. -/
theorem holds_apply_of_holds (houtside : call.isOutside = true)
    (hsession : call.session? ≠ some false) (h : t.holds filter = true) :
    (t.apply call).holds filter = true := by
  rw [holds, subscriptions_apply]
  cases call with
  | dropConnection reason => simp [Call.session?] at hsession
  | unsubscribe other => simp [Call.isOutside] at houtside
  | subscribe other qos => exact t.holds_subscribe_of_holds h
  | _ => exact h

/-! ### Messages -/

theorem subscribesTo_iff : t.subscribesTo topic = true ↔
    ∃ filter, t.holds filter = true ∧ Filter.accepts filter topic = true := by
  simp only [subscribesTo, holds, List.any_eq_true, decide_eq_true_eq]
  constructor
  · rintro ⟨s, hs, haccepts⟩
    exact ⟨s.1, ⟨s, hs, rfl⟩, haccepts⟩
  · rintro ⟨_, ⟨s, hs, rfl⟩, haccepts⟩
    exact ⟨s, hs, haccepts⟩

/-- A message is delivered if its topic comes under a filter that is subscribed to. -/
theorem delivers_of_holds (hholds : t.holds filter = true)
    (haccepts : Filter.accepts filter topic = true) (htakes : t.takesEvents = true) :
    t.delivers topic = true := by
  rw [delivers, htakes, Bool.and_true, subscribesTo_iff]
  exact ⟨filter, hholds, haccepts⟩

/-- What is delivered comes after the events that wait. -/
theorem deliver_of_delivers (h : t.delivers topic = true) (payload : Bytes) :
    t.deliver topic payload = { t with events := t.events ++ [.message topic payload] } := by
  rw [delivers, Bool.and_eq_true] at h
  rw [deliver, if_pos h.1, t.inject_of_takes h.2]

/-! ### One call after the other -/

/-- Every call is possible at any time. -/
def step? (t : Local) (call : Call) : Option Local := some (t.apply call)

/-- Whether a call subscribes to a filter and is not refused. -/
def Grants (filter : String) (t : Local) : Call → Prop
  | .subscribe other qos => other = filter ∧ (t.subscribe other qos).1 = .ok ()
  | _ => False

/-- Whether a call ends the subscription to a filter: it unsubscribes and does not fail, or it loses
    the session. -/
def Ends (filter : String) (t : Local) : Call → Prop
  | .unsubscribe other => other = filter ∧ (t.unsubscribe other).1 = .ok ()
  | .dropConnection _ => True
  | _ => False

/-- A filter is subscribed to after a call that grants it, and otherwise if it was before and the
    call does not end that. -/
theorem holds_apply_iff (call : Call) : (t.apply call).holds filter = true ↔
    t.Grants filter call ∨ (t.holds filter = true ∧ ¬ t.Ends filter call) := by
  rw [holds, subscriptions_apply]
  cases call with
  | dropConnection reason => simp [Grants, Ends]
  | subscribe other qos =>
    simp only [Grants, Ends, not_false_eq_true, and_true, subscribe_ok_iff]
    constructor
    · intro h
      exact (t.holds_subscribe h).symm
    · rintro (⟨rfl, hzero⟩ | h)
      · exact t.holds_of_subscribe_ok (Prod.ext (t.subscribe_ok_iff.mpr hzero) rfl)
      · exact t.holds_subscribe_of_holds h
  | unsubscribe other =>
    simp only [Grants, Ends, false_or, unsubscribe_ok_iff, not_and]
    constructor
    · intro h
      refine ⟨t.holds_unsubscribe h, ?_⟩
      rintro rfl hworks
      exact Bool.false_ne_true ((t.not_holds_unsubscribe hworks).symm.trans h)
    · rintro ⟨h, hstays⟩
      rw [subscriptions_unsubscribe]
      split
      · next hworks =>
        simp only [holds, List.any_eq_true, List.mem_filter, decide_eq_true_eq] at h ⊢
        obtain ⟨s, hs, rfl⟩ := h
        exact ⟨s, ⟨hs, fun heq => hstays heq.symm hworks⟩, rfl⟩
      · exact h
  | _ => simp [Grants, Ends, holds]

/-- No call repeats a filter. -/
theorem nodup_apply (h : (t.subscriptions.map (·.1)).Nodup) (call : Call) :
    ((t.apply call).subscriptions.map (·.1)).Nodup := by
  rw [subscriptions_apply]
  cases call with
  | dropConnection reason => exact List.nodup_nil
  | subscribe filter qos =>
    dsimp only
    rw [subscriptions_subscribe]
    split
    · next hnew =>
      have hnot : filter ∉ t.subscriptions.map (·.1) := by
        intro hmem
        obtain ⟨s, hs, rfl⟩ := List.mem_map.mp hmem
        have hthere : t.holds s.1 = true := List.any_eq_true.mpr ⟨s, hs, decide_eq_true rfl⟩
        exact Bool.false_ne_true (hnew.2.symm.trans hthere)
      rw [List.map_append, List.map_singleton]
      refine List.nodup_append.mpr ⟨h, List.pairwise_singleton _ filter, ?_⟩
      rintro other hmem _ hlast rfl
      obtain rfl : other = filter := List.mem_singleton.mp hlast
      exact hnot hmem
    · exact h
  | unsubscribe filter =>
    dsimp only
    rw [subscriptions_unsubscribe]
    split
    · exact h.sublist (List.filter_sublist.map _)
    · exact h
  | _ => exact h

/-- What a call puts into the stream of events. -/
def emits (t : Local) (call : Call) : List Event := if t.takesEvents then t.reports call else []

/-- All events that were put into the stream, whether they have been taken since or not. -/
def stream (steps : List (Local × Call)) (t : Local) : List Event :=
  (steps.flatMap fun p => if p.2.empties then p.1.events else []) ++ t.events

variable {t} {steps : List (Local × Call)}

/-- A filter is subscribed to if a call was granted and none has ended that since. -/
theorem holds_of_run (h : Run step? {} steps t) (filter : String) : t.holds filter = true ↔
    ∃ pre r call post, steps = pre ++ (r, call) :: post ∧ r.Grants filter call ∧
      ∀ p ∈ post, ¬ p.1.Ends filter p.2 := by
  induction h with
  | refl => simp [holds]
  | @step steps r call t _ now ih =>
    obtain rfl := Option.some.inj now
    rw [holds_apply_iff, ih]
    constructor
    · rintro (hgrants | ⟨⟨pre, q, before, post, rfl, hgrants, hpost⟩, hstays⟩)
      · exact ⟨steps, r, call, [], rfl, hgrants, by simp⟩
      · refine ⟨pre, q, before, post ++ [(r, call)], by simp, hgrants, ?_⟩
        exact List.forall_mem_append.mpr ⟨hpost, List.forall_mem_singleton.mpr hstays⟩
    · rintro ⟨pre, q, before, post, hsteps, hgrants, hpost⟩
      -- the call that was granted is the last one, or it came before that
      rcases List.eq_nil_or_concat post with rfl | ⟨post, last, rfl⟩
      · obtain ⟨rfl, hlast⟩ := List.append_inj' hsteps rfl
        obtain ⟨rfl, rfl⟩ := Prod.mk.inj (List.cons.inj hlast).1
        exact .inl hgrants
      · rw [List.concat_eq_append, ← List.cons_append, ← List.append_assoc] at hsteps
        obtain ⟨rfl, hlast⟩ := List.append_inj' hsteps rfl
        obtain rfl := (List.cons.inj hlast).1
        rw [List.concat_eq_append, List.forall_mem_append] at hpost
        exact .inr ⟨⟨pre, q, before, post, rfl, hgrants, hpost.1⟩,
          hpost.2 (r, call) (List.mem_singleton_self _)⟩

theorem nodup_of_run (h : Run step? {} steps t) : (t.subscriptions.map (·.1)).Nodup :=
  h.invariant (I := fun t => (t.subscriptions.map (·.1)).Nodup) List.nodup_nil
    fun hs now => Option.some.inj now ▸ nodup_apply _ hs _

/-- Events are taken until a call puts an end to that. -/
theorem takesEvents_of_run (h : Run step? {} steps t) :
    t.takesEvents = true ↔ ∀ p ∈ steps, p.2.silences = false := by
  induction h with
  | refl => simp [takesEvents]
  | step _ now ih =>
    obtain rfl := Option.some.inj now
    rw [takesEvents_apply_eq, Bool.and_eq_true, ih, List.forall_mem_append]
    simp

/-- The stream is what the calls have put into it, one after the other. -/
theorem stream_concat (steps : List (Local × Call)) (r : Local) (call : Call) :
    stream (steps ++ [(r, call)]) (r.apply call) = stream steps r ++ r.emits call := by
  have hafter := r.events_apply_eq call
  rw [stream, stream, List.flatMap_append, emits]
  cases call with
  | takeEvents | dropReceiver => simp [hafter, Call.empties, reports]
  | _ => simp [hafter, Call.empties]

theorem stream_of_run (h : Run step? {} steps t) :
    stream steps t = steps.flatMap fun p => p.1.emits p.2 := by
  induction h with
  | refl => rfl
  | step _ now ih =>
    obtain rfl := Option.some.inj now
    rw [stream_concat, ih, List.flatMap_append]
    simp

/-- After the session has ended nothing is put into the stream. -/
theorem stream_of_disconnect {pre post : List (Local × Call)} {r : Local}
    (h : Run step? {} (pre ++ (r, .disconnect) :: post) t) :
    stream (pre ++ (r, .disconnect) :: post) t = stream pre r := by
  have hsilent : ∀ p ∈ post, p.1.emits p.2 = [] := by
    intro p hp
    obtain ⟨before, after, rfl⟩ := List.append_of_mem hp
    rw [← List.cons_append, ← List.append_assoc] at h
    have hnot : p.1.takesEvents = false := by
      rw [← Bool.not_eq_true, takesEvents_of_run h.split_at.1]
      exact fun hall => Bool.false_ne_true (hall (r, .disconnect) (by simp)).symm
    simp [emits, hnot]
  have hnone : post.flatMap (fun p => p.1.emits p.2) = [] := by simpa using hsilent
  rw [stream_of_run h, stream_of_run h.split_at.1, List.flatMap_append, List.flatMap_cons, hnone]
  simp [emits, reports]

/-- Whatever was called on a local transport, its session is in order.

    No filter is subscribed to twice. A filter is subscribed to just if a call for it was granted
    and since then none has ended it or lost the session. A message is delivered just if no call has
    put an end to events and some filter that is subscribed to accepts its topic; then it comes into
    the stream of events, and otherwise nothing does. A call that is refused leaves the
    subscriptions as they are. And once the session was ended, the stream has not grown. -/
theorem session_consistent (h : Run step? {} steps t) :
    (t.subscriptions.map (·.1)).Nodup ∧
    (∀ filter, t.holds filter = true ↔
      ∃ pre r call post, steps = pre ++ (r, call) :: post ∧ r.Grants filter call ∧
        ∀ p ∈ post, ¬ p.1.Ends filter p.2) ∧
    (∀ topic payload,
      (t.delivers topic = true ↔
        (∀ p ∈ steps, p.2 ≠ .disconnect ∧ p.2 ≠ .dropReceiver) ∧
          ∃ filter, t.holds filter = true ∧ Filter.accepts filter topic = true) ∧
      stream (steps ++ [(t, .deliver topic payload)]) (t.apply (.deliver topic payload)) =
        stream steps t ++ if t.delivers topic then [.message topic payload] else []) ∧
    (∀ filter qos, (t.subscribe filter qos).1 ≠ .ok () →
      (t.apply (.subscribe filter qos)).subscriptions = t.subscriptions) ∧
    (∀ filter, (t.unsubscribe filter).1 ≠ .ok () →
      (t.apply (.unsubscribe filter)).subscriptions = t.subscriptions) ∧
    (∀ pre r post, steps = pre ++ (r, .disconnect) :: post → stream steps t = stream pre r) := by
  refine ⟨nodup_of_run h, holds_of_run h, fun topic payload => ⟨?_, ?_⟩,
    fun filter qos hfails => ?_, fun filter hfails => ?_, ?_⟩
  · have hsilences (call : Call) :
        call.silences = false ↔ call ≠ .disconnect ∧ call ≠ .dropReceiver := by
      cases call <;> simp [Call.silences]
    rw [delivers, Bool.and_eq_true, subscribesTo_iff, takesEvents_of_run h, and_comm]
    simp only [hsilences]
  · rw [stream_concat]
    congr 1
    cases hsubscribes : t.subscribesTo topic <;> simp [emits, reports, delivers, hsubscribes]
  · rw [ne_eq, subscribe_ok_iff] at hfails
    exact (t.subscriptions_subscribe filter qos).trans (if_neg fun hnew => hfails hnew.1)
  · rw [ne_eq, unsubscribe_ok_iff] at hfails
    exact (t.subscriptions_unsubscribe filter).trans (if_neg hfails)
  · rintro pre r post rfl
    exact stream_of_disconnect h

/-- A subscription that is refused once, granted, lost with the session and granted again. A message
    that comes under it is delivered, and taken; the session is ended, and the next one is not. -/
def resumed : List Call :=
  [.failNextSubscribes 1, .subscribe "a/+" .atLeastOnce, .subscribe "a/+" .atLeastOnce,
    .dropConnection "gone", .connect, .subscribe "a/+" .atMostOnce, .deliver "a/b" [1],
    .takeEvents, .disconnect, .deliver "a/b" [2]]

theorem session_consistent_resumed :
    ∃ steps t, Run step? {} steps t ∧ t.holds "a/+" = true ∧ t.delivers "a/b" = false ∧
      stream steps t = [.lost "gone", .connected, .message "a/b" [1]] ∧
      (∃ pre r call post, steps = pre ++ (r, call) :: post ∧ r.Grants "a/+" call ∧
        ∀ p ∈ post, ¬ p.1.Ends "a/+" p.2) ∧
      stream (steps ++ [(t, .deliver "a/b" [3])]) (t.apply (.deliver "a/b" [3])) =
        stream steps t := by
  have hcomputed : (Run.steps? step? {} resumed).map (fun run =>
      (run.2.holds "a/+", run.2.delivers "a/b", stream run.1 run.2)) =
      some (true, false, [.lost "gone", .connected, .message "a/b" [1]]) := by decide
  obtain ⟨⟨steps, t⟩, hrun, hfacts⟩ := Option.map_eq_some_iff.mp hcomputed
  simp only [Prod.mk.injEq] at hfacts
  obtain ⟨hholds, hnot, hstream⟩ := hfacts
  obtain ⟨-, hhistory, hdeliver, -⟩ := session_consistent (Run.of_steps? hrun)
  refine ⟨steps, t, Run.of_steps? hrun, hholds, hnot, hstream, (hhistory _).mp hholds, ?_⟩
  rw [(hdeliver "a/b" [3]).2, hnot]
  simp

end LoraBridge.Transport.Local
