import LoraBridge.Proofs.Broker.Answers

/-! # What a client keeps

  Whatever comes of its connection, a client keeps the requests that it has not sent and the events
  that nobody has taken, and it comes by a session only if the broker accepts one.

  - `Outbox.Within`: no request for an answer is made up on the way.
  - `Client.Carries`: what holds of everything that the loop does, save for the beginning of a
    session.
  - `Client.step_own`: what the calls do to a client besides.
-/

namespace LoraBridge.Broker

open Transport (Error Event)

/-! ### Requests in an outbox -/

namespace Outbox

variable {o o' o'' : Outbox} {request : Request} {dispatch : Dispatch}

/-- Every request for an answer that the second outbox holds is one that the first one held. -/
def Within (o o' : Outbox) : Prop :=
  ∀ request ∈ o'.pending ++ o'.requests, request.asks? ≠ none → request ∈ o.pending ++ o.requests

theorem Within.refl (o : Outbox) : o.Within o := fun _ hmem _ => hmem

theorem Within.trans (h : o.Within o') (h' : o'.Within o'') : o.Within o'' :=
  fun request hmem hasks => h request (h' request hmem hasks) hasks

/-- An outbox that only differs in what is on its way holds the same requests. -/
theorem Within.of_eq (hpending : o'.pending = o.pending) (hrequests : o'.requests = o.requests) :
    o.Within o' := by
  intro request hmem _
  rwa [hpending, hrequests] at hmem

theorem within_lose (o : Outbox) : o.Within o.lose := by
  intro request hmem hasks
  have hagain : request ∉ o.again := by
    intro hmem
    exact hasks (List.filterMap_eq_nil_iff.mp o.asks_again request hmem)
  simpa [lose, hagain] using hmem

theorem within_acknowledge (o : Outbox) (number : Nat) : o.Within (o.acknowledge number).2 := by
  unfold acknowledge
  split
  · exact .refl o
  · split
    · exact .of_eq rfl rfl
    · dsimp only
      split <;> exact .of_eq rfl rfl

/-- What is next is one of the requests, and the others are left. -/
theorem next?_within (h : o.next? = some (request, o')) :
    request ∈ o.pending ++ o.requests ∧ o.Within o' := by
  unfold next? at h
  split at h
  · next hpending =>
    obtain ⟨rfl, rfl⟩ := Prod.mk.inj (Option.some.inj h)
    refine ⟨by simp [hpending], ?_⟩
    intro other hmem _
    simpa [hpending] using .inr (List.mem_append.mp hmem)
  · next hpending hrequests =>
    split at h
    · obtain ⟨rfl, rfl⟩ := Prod.mk.inj (Option.some.inj h)
      refine ⟨by simp [hrequests], ?_⟩
      intro other hmem _
      simp only [hpending, List.nil_append] at hmem
      simp [hpending, hrequests, hmem]
    · simp at h
  · simp at h

theorem dispatch_within (o : Outbox) (request : Request) : o.Within (o.dispatch request).2 := by
  unfold Outbox.dispatch
  split
  · exact .refl o
  · cases request with
    | publish number? p =>
      dsimp only [dispatchMessage]
      split
      · exact .refl o
      · split
        · split <;> exact .of_eq rfl rfl
        · split <;> exact .of_eq rfl rfl
    | disconnect => exact .refl o
    | _ => exact .of_eq rfl rfl

theorem take?_within (h : o.take? = some (dispatch, o')) : o.Within o' := by
  unfold take? at h
  split at h
  · obtain ⟨-, rfl⟩ := Prod.mk.inj (Option.some.inj h)
    exact .of_eq rfl rfl
  · obtain ⟨⟨request, rest⟩, hnext, hdispatch⟩ := Option.map_eq_some_iff.mp h
    have hrest := rest.dispatch_within request
    dsimp only at hdispatch
    rw [hdispatch] at hrest
    exact (next?_within hnext).2.trans hrest

/-- A packet that subscribes or unsubscribes is that of the first request. -/
theorem take?_request (h : o.take? = some (dispatch, o')) :
    (∀ number filter qos, dispatch = .send (.subscribe number filter qos) →
      ∃ call, o.head? = some (.subscribe call filter qos) ∧
        .subscribe call filter qos ∈ o.pending ++ o.requests) ∧
      ∀ number filter, dispatch = .send (.unsubscribe number filter) →
        ∃ call, o.head? = some (.unsubscribe call filter) ∧
          .unsubscribe call filter ∈ o.pending ++ o.requests := by
  unfold take? at h
  split at h
  · obtain ⟨rfl, -⟩ := Prod.mk.inj (Option.some.inj h)
    exact ⟨by simp, by simp⟩
  · next hdue =>
    obtain ⟨⟨request, rest⟩, hnext, hdispatch⟩ := Option.map_eq_some_iff.mp h
    have hhead : o.head? = some request := by simp [head?, hdue, hnext]
    have hmem := (next?_within hnext).1
    have hasks := (rest.dispatch_cases request).2
    dsimp only at hdispatch
    rw [hdispatch] at hasks
    cases request with
    | subscribe call filter qos =>
      rw [Outbox.dispatch] at hdispatch
      split at hdispatch
      · obtain ⟨rfl, -⟩ := Prod.mk.inj hdispatch
        exact ⟨by simp, by simp⟩
      · obtain ⟨rfl, -⟩ := Prod.mk.inj hdispatch
        refine ⟨?_, by simp⟩
        rintro number filter qos ⟨⟩
        exact ⟨call, hhead, hmem⟩
    | unsubscribe call filter =>
      rw [Outbox.dispatch] at hdispatch
      split at hdispatch
      · obtain ⟨rfl, -⟩ := Prod.mk.inj hdispatch
        exact ⟨by simp, by simp⟩
      · obtain ⟨rfl, -⟩ := Prod.mk.inj hdispatch
        refine ⟨by simp, ?_⟩
        rintro number filter ⟨⟩
        exact ⟨call, hhead, hmem⟩
    | _ =>
      -- the packet asks for no answer of a call
      refine ⟨?_, ?_⟩
      · intro number filter qos hpacket
        simpa [Packet.asks?, Request.asks?] using hasks _ hpacket
      · intro number filter hpacket
        simpa [Packet.asks?, Request.asks?] using hasks _ hpacket

end Outbox

/-! ### What a loop keeps -/

namespace Loop

variable {l : Loop} {event : Event}

theorem mem_events_report (h : event ∈ l.events) (other : Event) :
    event ∈ (l.report other).events := by
  unfold report
  split
  · exact List.mem_append_left _ h
  · exact h

/-- No outcome takes an event away. -/
theorem mem_events_react (h : event ∈ l.events) (outcome : Outcome) :
    event ∈ (l.react outcome).events := by
  unfold react
  split
  · exact h
  · cases outcome with
    | connected =>
      have htold : event ∈ ({ l.tell (.ok ()) with phase := .running } : Loop).events := h
      exact mem_events_report htold .connected
    | message topic payload => exact mem_events_report h (.message topic payload)
    | failed fault =>
      dsimp only
      split
      · exact h
      · split
        · exact h
        · exact mem_events_report h _
    | _ => exact h

/-- When the session comes up, this is reported or the loop ends. -/
theorem mem_events_connected (hruns : l.phase ≠ .stopped)
    (hgoes : (l.react .connected).phase ≠ .stopped) :
    .connected ∈ (l.react .connected).events := by
  simp only [react, hruns, if_false, report] at hgoes ⊢
  split at hgoes
  · next hreceiver =>
    rw [if_pos hreceiver]
    exact List.mem_append_right _ (List.mem_singleton_self _)
  · simp [stop] at hgoes

end Loop

/-! ### What a client keeps -/

namespace Client

variable {c : Client} {event : Event}

theorem loop_setSlot (c : Client) (answer : Answer) (call? : Option Nat) :
    (c.setSlot answer call?).loop = c.loop ∧ (c.setSlot answer call?).up = c.up ∧
      (c.setSlot answer call?).outbox = c.outbox := by
  cases answer <;> exact ⟨rfl, rfl, rfl⟩

theorem loop_resolve (c : Client) (answer : Answer) (result : Except Error Unit) :
    (c.resolve answer result).loop = c.loop ∧ (c.resolve answer result).up = c.up := by
  unfold resolve
  split
  · exact ⟨rfl, rfl⟩
  · cases answer <;> exact ⟨rfl, rfl⟩

/-- What an outcome does to a client besides its calls. -/
theorem react_fields (hruns : c.loop.phase ≠ .stopped) (outcome : Outcome) :
    (c.react outcome).loop = c.loop.react outcome ∧
      ((c.react outcome).up = true → (c.loop.react outcome).phase ≠ .stopped ∧
        (c.up = true ∨ outcome = .connected) ∧ ∀ fault, outcome ≠ .failed fault) ∧
      c.outbox.Within (c.react outcome).outbox := by
  unfold react
  rw [if_neg hruns]
  cases outcome with
  | connected => exact ⟨rfl, by simp, .of_eq rfl rfl⟩
  | suback number refused =>
    obtain ⟨hloop, hup⟩ :=
      c.loop_resolve .suback (if refused then .error (.subscribeRefused "") else .ok ())
    have houtbox :=
      (c.resolve_outbox .suback (if refused then .error (.subscribeRefused "") else .ok ())).1
    refine ⟨by simp only [hloop], ?_, ?_⟩
    · simp only [hloop, hup]
      intro h
      simpa [and_comm] using h
    · exact .of_eq (by simp only [houtbox]) (by simp only [houtbox])
  | unsuback number =>
    obtain ⟨hloop, hup⟩ := c.loop_resolve .unsuback (.ok ())
    have houtbox := (c.resolve_outbox .unsuback (.ok ())).1
    refine ⟨by simp only [hloop], ?_, ?_⟩
    · simp only [hloop, hup]
      intro h
      simpa [and_comm] using h
    · exact .of_eq (by simp only [houtbox]) (by simp only [houtbox])
  | failed fault =>
    -- messages that were on their way are sent again, and no call waits for these
    have hdown : c.outbox.Within c.down.outbox := by
      unfold down
      dsimp only
      split
      · exact c.outbox.within_lose
      · exact .refl _
    dsimp only
    split
    · obtain ⟨hloop, hup⟩ := c.down.loop_resolve .suback (.error .closed)
      obtain ⟨hloop', hup'⟩ :=
        (c.down.resolve .suback (.error .closed)).loop_resolve .unsuback (.error .closed)
      have houtbox := c.down.close_outbox.1
      rw [close] at houtbox
      refine ⟨by rw [hloop', hloop]; rfl, ?_, by rwa [houtbox]⟩
      rw [hup', hup]
      simp [down]
    · exact ⟨rfl, by simp [down], hdown⟩
  | _ =>
    refine ⟨rfl, ?_, .of_eq rfl rfl⟩
    intro h
    simpa [and_comm] using h

/-- A client that has made no requests and lost no events since, whose loop runs if it has a
    session, and that has no other session. -/
structure Carries (c c' : Client) : Prop where
  events : ∀ event ∈ c.loop.events, event ∈ c'.loop.events
  outbox : c.outbox.Within c'.outbox
  up : c'.up = true → c.up = true
  live : (c.up = true → c.loop.phase ≠ .stopped) → c'.up = true → c'.loop.phase ≠ .stopped

theorem Carries.refl (c : Client) : c.Carries c :=
  ⟨fun _ h => h, .refl _, fun h => h, fun h => h⟩

theorem Carries.trans {c' c'' : Client} (h : c.Carries c') (h' : c'.Carries c'') : c.Carries c'' :=
  ⟨fun event hevent => h'.events event (h.events event hevent), h.outbox.trans h'.outbox,
    fun hup => h.up (h'.up hup), fun hlive => h'.live (h.live hlive)⟩

/-- Changes to the messages on their way are nothing to this. -/
theorem Carries.of_outbox {outbox : Outbox} (h : c.outbox.Within outbox) :
    c.Carries { c with outbox } :=
  ⟨fun _ h => h, h, fun h => h, fun h => h⟩

theorem carries_react (c : Client) {outcome : Outcome} (hnew : outcome ≠ .connected) :
    c.Carries (c.react outcome) := by
  by_cases hstopped : c.loop.phase = .stopped
  · rw [react_of_stopped c hstopped]
    exact .refl c
  · obtain ⟨hloop, hup, houtbox⟩ := react_fields hstopped outcome
    refine ⟨?_, houtbox, ?_, ?_⟩
    · intro event hevent
      rw [hloop]
      exact Loop.mem_events_react hevent outcome
    · exact fun h => (hup h).2.1.resolve_right hnew
    · intro _ h
      rw [hloop]
      exact (hup h).1

theorem carries_answer (c : Client) (d : Debt) : c.Carries (c.react d.outcome) := by
  refine c.carries_react ?_
  unfold Debt.outcome
  cases d.answer <;> simp

theorem carries_send (c : Client) (dispatch : Dispatch) : c.Carries (c.send dispatch) := by
  unfold send
  split
  · exact c.carries_react (by simp)
  · exact c.carries_react (by simp)
  · exact .refl c
  · exact c.carries_react (by simp)

theorem carries_ping (c : Client) : c.Carries c.ping := by
  have hping : c.Carries { c with outbox := c.outbox.ping.2 } := .of_outbox (.of_eq rfl rfl)
  unfold ping
  dsimp only
  split
  · exact hping
  · exact hping.trans (carries_react _ (by simp))

theorem carries_pong (c : Client) : c.Carries c.pong := by
  have hsign : c.Carries { c with outbox := { c.outbox with waits := false } } :=
    .of_outbox (.of_eq rfl rfl)
  exact hsign.trans (carries_react _ (show Outcome.other ≠ .connected by simp))

theorem carries_acknowledge (c : Client) (number : Nat) : c.Carries (c.acknowledge number) := by
  have hsettled : c.Carries { c with outbox := (c.outbox.acknowledge number).2 } :=
    .of_outbox (c.outbox.within_acknowledge number)
  unfold acknowledge
  simp only [takeAll, take, settled]
  cases (c.outbox.acknowledge number).1 with
  | true => exact hsettled.trans (carries_react _ (show Outcome.other ≠ .connected by simp))
  | false =>
    have hdelayed : c.Carries { c with outbox := (c.outbox.acknowledge number).2,
                                       delayed := c.delayed ++ [] } :=
      ⟨hsettled.events, hsettled.outbox, hsettled.up, hsettled.live⟩
    exact hdelayed.trans (carries_react _ (by simp))

/-- What an action of its own does to a client besides its calls. -/
theorem step_own {action : Action} {c' : Client} (hown : Link.isOwn action = true)
    (h : c.step? action = some c') :
    c'.up = c.up ∧ c'.loop.phase = c.loop.phase ∧
      (action ≠ .takeEvent → action ≠ .dropReceiver →
        c'.loop = c.loop ∨ action = .leave ∧ c'.loop = c.loop.leave) ∧
      (c.outbox.Within c'.outbox ∨ ∃ i call request, action = .request i ∧
        c.calls[i]? = some call ∧ call.request? i = some request ∧
        c'.outbox = c.outbox.push request) := by
  -- requests that are no calls' are not looked at
  have pushed (request : Request) (hnone : request.asks? = none) :
      c.outbox.Within (c.outbox.push request) := by
    intro other hmem hasks
    have hne : other ≠ request := fun heq => hasks (heq ▸ hnone)
    simpa [Outbox.push, hne] using hmem
  cases action with
  | call kind filter =>
    obtain rfl := Option.some.inj h
    exact ⟨rfl, rfl, fun _ _ => .inl rfl, .inl (.refl _)⟩
  | enter i =>
    simp only [step?, enter?, Option.bind_eq_bind, Option.bind_eq_some_iff] at h
    obtain ⟨call, hcall, h⟩ := h
    split at h
    · split at h
      · obtain rfl := Option.some.inj h
        obtain ⟨hloop, hup, houtbox⟩ :=
          (c.setPhase i .requesting).loop_setSlot call.kind.answer (some i)
        rw [hloop, hup, houtbox]
        exact ⟨rfl, rfl, fun _ _ => .inl rfl, .inl (.refl _)⟩
      · simp at h
    · simp at h
  | request i =>
    simp only [step?, request?, Option.bind_eq_bind, Option.bind_eq_some_iff] at h
    obtain ⟨call, hcall, h⟩ := h
    split at h
    · split at h
      · next request hrequest =>
        split at h
        · obtain rfl := Option.some.inj h
          exact ⟨rfl, rfl, fun _ _ => .inl rfl,
            .inr ⟨i, call, request, rfl, hcall, hrequest, rfl⟩⟩
        · obtain rfl := Option.some.inj h
          exact ⟨rfl, rfl, fun _ _ => .inl rfl, .inl (.refl _)⟩
      · obtain rfl := Option.some.inj h
        exact ⟨rfl, rfl, fun _ _ => .inl rfl, .inl (.refl _)⟩
    · simp at h
  | expire i =>
    simp only [step?, expire?, Option.bind_eq_bind, Option.bind_eq_some_iff] at h
    obtain ⟨call, hcall, h⟩ := h
    split at h
    · split at h
      · obtain rfl := Option.some.inj h
        exact ⟨rfl, rfl, fun _ _ => .inl rfl, .inl (.refl _)⟩
      · simp at h
    · simp at h
  | clear i =>
    simp only [step?, clear?, Option.bind_eq_bind, Option.bind_eq_some_iff] at h
    obtain ⟨call, hcall, h⟩ := h
    obtain ⟨hloop, hup, houtbox⟩ := c.loop_setSlot call.kind.answer none
    have hcleared (phase : Call.Phase) :
        c.outbox.Within ((c.setSlot call.kind.answer none).setPhase i phase).outbox :=
      .of_eq (congrArg Outbox.pending houtbox) (congrArg Outbox.requests houtbox)
    split at h
    · obtain rfl := Option.some.inj h
      exact ⟨hup, congrArg Loop.phase hloop, fun _ _ => .inl hloop, .inl (hcleared _)⟩
    · obtain rfl := Option.some.inj h
      exact ⟨hup, congrArg Loop.phase hloop, fun _ _ => .inl hloop, .inl (hcleared _)⟩
    · simp at h
  | finish i =>
    simp only [step?, finish?, Option.bind_eq_bind, Option.bind_eq_some_iff] at h
    obtain ⟨call, hcall, h⟩ := h
    split at h
    · obtain ⟨answer, hanswer, h⟩ := Option.bind_eq_some_iff.mp h
      obtain rfl := Option.some.inj h
      exact ⟨rfl, rfl, fun _ _ => .inl rfl, .inl (.refl _)⟩
    · simp at h
  | publish p =>
    obtain rfl := Option.some.inj h
    unfold publish
    split
    · exact ⟨rfl, rfl, fun _ _ => .inl rfl, .inl (pushed _ rfl)⟩
    · exact ⟨rfl, rfl, fun _ _ => .inl rfl, .inl (.refl _)⟩
  | leave =>
    obtain rfl := Option.some.inj h
    exact ⟨rfl, rfl, fun _ _ => .inr ⟨rfl, rfl⟩, .inl (.refl _)⟩
  | requestDisconnect =>
    obtain rfl := Option.some.inj h
    unfold requestDisconnect
    split
    · exact ⟨rfl, rfl, fun _ _ => .inl rfl, .inl (pushed _ rfl)⟩
    · exact ⟨rfl, rfl, fun _ _ => .inl rfl, .inl (.refl _)⟩
  | takeEvent =>
    obtain ⟨⟨event, loop⟩, htake, rfl⟩ := Option.map_eq_some_iff.mp h
    have hphase : loop.phase = c.loop.phase := by
      unfold Loop.takeEvent? at htake
      split at htake
      · simp at htake
      · obtain ⟨-, rfl⟩ := Prod.mk.inj (Option.some.inj htake)
        rfl
    exact ⟨rfl, hphase, fun hne => absurd rfl hne, .inl (.refl _)⟩
  | dropReceiver =>
    obtain rfl := Option.some.inj h
    exact ⟨rfl, rfl, fun _ hne => absurd rfl hne, .inl (.refl _)⟩
  | _ => simp [Link.isOwn] at hown

end Client

end LoraBridge.Broker
