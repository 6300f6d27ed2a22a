import LoraBridge.Proofs.Broker.Carries

/-! # What the broker was last told

  Within a session the broker takes packets that subscribe to a filter and packets that end the
  subscription, and whether the session is subscribed is up to the last of them that it did not
  refuse.

  - `Link.Session` lists what a step can do to a session, `Link.session_cases` is that there is
    nothing else.
  - `Link.lastNews`: what the broker did last about a filter.
  - `Link.Informed`: this decides whether the session is subscribed, and accounts for every
    grant that the broker has still to tell.
-/

namespace LoraBridge.Broker

open Transport (Event)

/-! ### What a step does to a session -/

namespace Link

variable {l l' : Link} {a : Action} {filter : String}

/-- What the broker has done about a filter. -/
inductive News where
  /-- It has begun a session, in which there is no subscription. -/
  | begun
  /-- It has granted the subscription that a call asked for. -/
  | granted (call : Nat)
  /-- It has ended the subscription, as a call asked for. -/
  | ended (call : Nat)
deriving DecidableEq, Repr

/-- What the broker does about a filter in a step. -/
def news? (l : Link) (filter : String) : Action → Option News
  | .connect => some .begun
  | .transmit refuse =>
    match l.client.prepare? with
    | some (.send (.subscribe _ other _), _) =>
      if other = filter && !refuse then some (.granted l.sender) else none
    | some (.send (.unsubscribe _ other), _) =>
      if other = filter then some (.ended l.sender) else none
    | _ => none
  | _ => none

/-- What the broker did last about a filter. -/
def lastNews (filter : String) (steps : List (Link × Action)) : Option News :=
  (steps.filterMap fun p => p.1.news? filter p.2).getLast?

theorem lastNews_append (filter : String) (steps : List (Link × Action)) (l : Link) (a : Action) :
    lastNews filter (steps ++ [(l, a)]) = (l.news? filter a).or (lastNews filter steps) := by
  cases h : l.news? filter a <;> simp [lastNews, h]

/-- What a step does to the session, and to the client by way of its loop. -/
inductive Session (l : Link) : Action → Link → Prop
  /-- There is no session afterwards. -/
  | down {a : Action} {l' : Link} (hdown : l'.client.up = false) : Session l a l'
  /-- The session comes up, and this is reported. -/
  | begun {l' : Link} (hsubscriptions : l'.subscriptions = []) (howed : l'.owed = [])
    (hreported : .connected ∈ l'.client.loop.events) : Session l .connect l'
  /-- The broker takes a packet. -/
  | took {refuse : Bool} {packet : Packet} {c : Client} {l' : Link} (hup : l.client.up = true)
    (hnext : l.client.prepare? = some (.send packet, c))
    (hsubscriptions : l'.subscriptions = (l.take l.sender refuse packet).subscriptions)
    (howed : l'.owed = (l.take l.sender refuse packet).owed) : Session l (.transmit refuse) l'
  /-- Nothing is done about subscriptions, but an answer may be given. -/
  | kept {a : Action} {l' : Link} (hup : l.client.up = true)
    (hnews : ∀ filter, l.news? filter a = none)
    (hsubscriptions : l'.subscriptions = l.subscriptions)
    (howed : l'.owed.Sublist l.owed) : Session l a l'

/-- A loop that has ended has no session. -/
def Live (l : Link) : Prop := l.client.up = true → l.client.loop.phase ≠ .stopped

/-- The client takes a step of its own, or its session comes up, or the loop goes on as it was. -/
theorem client_cases (hdelayed : l.client.delayed = []) (h : l.step? a = some l') :
    (∃ action, a = .own action ∧ isOwn action = true ∧
        l.client.step? action = some l'.client) ∨
      (a = .connect ∧ l.client.up = false ∧ l'.client = l.client.react .connected) ∨
      (∀ action, a ≠ .own action) ∧ l.client.Carries l'.client := by
  cases a with
  | own action =>
    simp only [step?] at h
    split at h
    · next hown =>
      obtain ⟨c, hstep, rfl⟩ := Option.map_eq_some_iff.mp h
      exact .inl ⟨action, rfl, hown, hstep⟩
    · simp at h
  | transmit refuse =>
    refine .inr (.inr ⟨by simp, ?_⟩)
    simp only [step?, transmit?, Client.prepare?, Option.bind_eq_bind,
      Option.bind_eq_some_iff] at h
    obtain ⟨⟨dispatch, c⟩, hprepare, h⟩ := h
    split at hprepare
    · obtain ⟨⟨dispatch, outbox⟩, htake, heq⟩ := Option.map_eq_some_iff.mp hprepare
      obtain ⟨rfl, rfl⟩ := Prod.mk.inj heq.symm
      have hsent : l.client.Carries (Client.send { l.client with outbox } dispatch) :=
        (Client.Carries.of_outbox (Outbox.take?_within htake)).trans (Client.carries_send _ _)
      split at h
      · obtain rfl := Option.some.inj h
        split
        · rwa [client_take, client_withClient]
        · rwa [client_withClient]
      · obtain rfl := Option.some.inj h
        rwa [client_withClient]
    · simp at hprepare
  | answer k =>
    refine .inr (.inr ⟨by simp, ?_⟩)
    simp only [step?, answer?, Option.bind_eq_bind, Option.bind_eq_some_iff,
      Option.some.injEq] at h
    obtain ⟨d, hdebt, rfl⟩ := h
    exact l.client.carries_answer d
  | ping =>
    refine .inr (.inr ⟨by simp, ?_⟩)
    simp only [step?] at h
    split at h
    · obtain rfl := Option.some.inj h
      rw [client_withClient]
      exact l.client.carries_ping
    · simp at h
  | pong =>
    refine .inr (.inr ⟨by simp, ?_⟩)
    simp only [step?] at h
    split at h
    · obtain rfl := Option.some.inj h
      rw [client_withClient]
      exact l.client.carries_pong
    · simp at h
  | acknowledge number =>
    refine .inr (.inr ⟨by simp, ?_⟩)
    simp only [step?] at h
    split at h
    · obtain rfl := Option.some.inj h
      rw [client_withClient]
      exact l.client.carries_acknowledge number
    · simp at h
  | deliver topic payload =>
    refine .inr (.inr ⟨by simp, ?_⟩)
    simp only [step?] at h
    split at h
    · obtain rfl := Option.some.inj h
      exact l.client.carries_react (show Outcome.message topic payload ≠ .connected by simp)
    · simp at h
  | connect =>
    simp only [step?] at h
    split at h
    · simp at h
    · next hdown =>
      obtain rfl := Option.some.inj h
      refine .inr (.inl ⟨rfl, by simpa using hdown, ?_⟩)
      -- between sessions nothing is held back that would be dealt with first
      have hempty : ({ l.client with delayed := [] } : Client) = l.client := by
        rw [← hdelayed]
      show l.client.connect = l.client.react .connected
      rw [Client.connect, hdelayed, hempty]
      rfl
  | fail fault =>
    refine .inr (.inr ⟨by simp, ?_⟩)
    obtain rfl := Option.some.inj h
    exact l.client.carries_react (show Outcome.failed fault ≠ .connected by simp)

theorem Live.step (hdelayed : l.client.delayed = []) (hlive : l.Live) (h : l.step? a = some l') :
    l'.Live := by
  intro hup
  rcases client_cases hdelayed h with ⟨action, -, hown, hstep⟩ | ⟨-, hdown, hclient⟩ | ⟨-, hcarries⟩
  · obtain ⟨hsame, hphase, -, -⟩ := Client.step_own hown hstep
    rw [hphase]
    exact hlive (hsame ▸ hup)
  · rw [hclient] at hup ⊢
    by_cases hstopped : l.client.loop.phase = .stopped
    · rw [Client.react_of_stopped _ hstopped, hdown] at hup
      cases hup
    · obtain ⟨hloop, hgoes, -⟩ := Client.react_fields hstopped .connected
      rw [hloop]
      exact (hgoes hup).1
  · exact hcarries.live hlive hup

/-- Events stay until they are taken. -/
theorem mem_events_step (hdelayed : l.client.delayed = []) (h : l.step? a = some l')
    (htaken : a ≠ .own .takeEvent) (hdropped : a ≠ .own .dropReceiver) {event : Event}
    (hevent : event ∈ l.client.loop.events) : event ∈ l'.client.loop.events := by
  rcases client_cases hdelayed h with ⟨action, rfl, hown, hstep⟩ | ⟨-, -, hclient⟩ | ⟨-, hcarries⟩
  · have hsame := (Client.step_own hown hstep).2.2.1 (fun heq => htaken (heq ▸ rfl))
      (fun heq => hdropped (heq ▸ rfl))
    rcases hsame with hsame | ⟨-, hsame⟩ <;> rwa [hsame]
  · rw [hclient]
    by_cases hstopped : l.client.loop.phase = .stopped
    · rwa [Client.react_of_stopped _ hstopped]
    · rw [(Client.react_fields hstopped .connected).1]
      exact Loop.mem_events_react hevent .connected
  · exact hcarries.events event hevent

/-! ### Sessions step by step -/

/-- What has to do with the client alone is nothing to the broker, unless the session ends. -/
theorem session_withClient {c : Client} (hup : l.client.up = true)
    (hnews : ∀ filter, l.news? filter a = none) : l.Session a (l.withClient c) := by
  unfold withClient
  split
  · exact .kept hup hnews rfl (.refl _)
  · next hdown => exact .down (by simpa using hdown)

theorem session_transmit {refuse : Bool} (h : l.transmit? refuse = some l') :
    l.Session (.transmit refuse) l' := by
  simp only [transmit?, Option.bind_eq_bind, Option.bind_eq_some_iff] at h
  obtain ⟨⟨dispatch, c⟩, hprepare, h⟩ := h
  have hup : l.client.up = true := by
    unfold Client.prepare? at hprepare
    split at hprepare
    · assumption
    · simp at hprepare
  cases dispatch with
  | send packet =>
    obtain rfl := Option.some.inj h
    dsimp only
    split
    · next hsent =>
      rw [client_withClient] at hsent
      have hsame : l.withClient (c.send (.send packet)) =
          { l with client := c.send (.send packet) } := by
        simp [withClient, hsent]
      rw [hsame]
      exact .took hup hprepare (by cases packet <;> rfl) (by cases packet <;> rfl)
    · next hsent => exact .down (by simpa using hsent)
  | hold =>
    obtain rfl := Option.some.inj h
    exact session_withClient hup (by simp [news?, hprepare])
  | refuse =>
    obtain rfl := Option.some.inj h
    exact session_withClient hup (by simp [news?, hprepare])

theorem session_cases (hdelayed : l.client.delayed = []) (hlive : l.Live)
    (h : l.step? a = some l') : l.Session a l' := by
  cases a with
  | own action =>
    simp only [step?] at h
    split at h
    · next hown =>
      obtain ⟨c, hstep, rfl⟩ := Option.map_eq_some_iff.mp h
      have hsame := (Client.step_own hown hstep).1
      cases hup : l.client.up with
      | true => exact .kept hup (fun _ => rfl) rfl (.refl _)
      | false => exact .down (hsame.trans hup)
    · simp at h
  | transmit refuse => exact session_transmit h
  | answer k =>
    simp only [step?, answer?, Option.bind_eq_bind, Option.bind_eq_some_iff,
      Option.some.injEq] at h
    obtain ⟨d, hdebt, rfl⟩ := h
    have hcarries := l.client.carries_answer d
    cases hup : l.client.up with
    | true => exact .kept hup (fun _ => rfl) rfl (List.eraseIdx_sublist _ _)
    | false =>
      refine .down ?_
      rw [← Bool.not_eq_true]
      intro hafter
      simp [hcarries.up hafter] at hup
  | ping =>
    simp only [step?] at h
    split at h
    · next hup =>
      obtain rfl := Option.some.inj h
      exact session_withClient hup fun _ => rfl
    · simp at h
  | pong =>
    simp only [step?] at h
    split at h
    · next hup =>
      obtain rfl := Option.some.inj h
      exact session_withClient hup fun _ => rfl
    · simp at h
  | acknowledge number =>
    simp only [step?] at h
    split at h
    · next hup =>
      obtain rfl := Option.some.inj h
      exact session_withClient hup fun _ => rfl
    · simp at h
  | deliver topic payload =>
    simp only [step?] at h
    split at h
    · next hup =>
      obtain rfl := Option.some.inj h
      exact .kept hup (fun _ => rfl) rfl (.refl _)
    · simp at h
  | connect =>
    rcases client_cases hdelayed h with ⟨action, hne, -⟩ | ⟨-, hdown, hclient⟩ | ⟨-, hcarries⟩
    · cases hne
    · simp only [step?, hdown, Bool.false_eq_true, if_false, Option.some.injEq] at h
      cases hup : l'.client.up with
      | false => exact .down hup
      | true =>
        -- a loop that has ended does not take up a session
        have hruns : l.client.loop.phase ≠ .stopped := by
          intro hstopped
          rw [hclient, Client.react_of_stopped _ hstopped, hdown] at hup
          cases hup
        obtain ⟨hloop, hgoes, -⟩ := Client.react_fields hruns .connected
        rw [hclient] at hup
        refine .begun (h ▸ rfl) (h ▸ rfl) ?_
        rw [hclient, hloop]
        exact Loop.mem_events_connected hruns (hgoes hup).1
    · simp only [step?] at h
      split at h
      · simp at h
      · next hdown =>
        refine .down ?_
        rw [← Bool.not_eq_true]
        intro hafter
        exact hdown (hcarries.up hafter)
  | fail fault =>
    obtain rfl := Option.some.inj h
    refine .down ?_
    show (l.client.react (.failed fault)).up = false
    rw [← Bool.not_eq_true]
    intro hup
    -- a loop that has ended does not hear of the failure, but has no session
    by_cases hstopped : l.client.loop.phase = .stopped
    · rw [Client.react_of_stopped _ hstopped] at hup
      exact hlive hup hstopped
    · exact ((Client.react_fields hstopped (.failed fault)).2.1 hup).2.2 fault rfl

/-! ### Requests are those of their calls -/

/-- Every request for an answer is that of its call. -/
def Recorded (l : Link) : Prop :=
  ∀ request ∈ l.client.outbox.pending ++ l.client.outbox.requests,
    ∀ answer i, request.asks? = some (answer, i) →
      ∃ call, l.client.calls[i]? = some call ∧ call.request? i = some request

/-- A call asks for the same all the time. -/
theorem request?_of_evolves {i : Nat} {call call' : Call} (h : Call.Evolves l i a call call') :
    call'.request? i = call.request? i ∧ call'.filter = call.filter := by
  cases h <;> exact ⟨rfl, rfl⟩

theorem filter_of_subscribes {call : Call} {i j : Nat} {qos : Transport.QoS}
    (h : call.request? i = some (.subscribe j filter qos)) : call.filter = filter := by
  unfold Call.request? at h
  split at h
  · split at h
    · exact (Request.subscribe.inj (Option.some.inj h)).2.1
    · simp at h
  · simp at h

theorem kind_of_unsubscribes {call : Call} {i j : Nat}
    (h : call.request? i = some (.unsubscribe j filter)) :
    call.kind = .unsubscribe ∧ call.filter = filter := by
  unfold Call.request? at h
  split at h
  · split at h <;> simp at h
  · next hkind => exact ⟨hkind, (Request.unsubscribe.inj (Option.some.inj h)).2⟩

theorem Recorded.step (hs : l.Sound) (hl : l.Recorded) (now : l.step? a = some l') :
    l'.Recorded := by
  have hcase := (step_cases hs.delayed now).1
  intro request hmem answer i hasks
  -- a request that was there is still that of its call
  have kept (hbefore : request ∈ l.client.outbox.pending ++ l.client.outbox.requests) :
      ∃ call, l'.client.calls[i]? = some call ∧ call.request? i = some request := by
    obtain ⟨call, hcall, hrequest⟩ := hl request hbefore answer i hasks
    obtain ⟨call', hcall', hevolves⟩ := hcase.exists_evolves hcall
    exact ⟨call', hcall', (request?_of_evolves hevolves).1.trans hrequest⟩
  have hsome : request.asks? ≠ none := by simp [hasks]
  rcases client_cases hs.delayed now with ⟨action, rfl, hown, hstep⟩ | ⟨-, -, hclient⟩ |
    ⟨-, hcarries⟩
  · rcases (Client.step_own hown hstep).2.2.2 with
      hwithin | ⟨j, call, made, rfl, hcall, hmade, hpush⟩
    · exact kept (hwithin request hmem hsome)
    · rw [hpush] at hmem
      rcases List.mem_append.mp hmem with hmem | hmem
      · exact kept (List.mem_append_left _ hmem)
      · rcases List.mem_append.mp hmem with hmem | hmem
        · exact kept (List.mem_append_right _ hmem)
        · obtain rfl := List.mem_singleton.mp hmem
          -- the request that was made now
          have hcaller := Client.asks_of_request? hmade
          rw [hasks] at hcaller
          obtain rfl : i = j := (Prod.mk.inj (Option.some.inj hcaller)).2
          obtain ⟨call', hcall', hevolves⟩ := hcase.exists_evolves hcall
          exact ⟨call', hcall', (request?_of_evolves hevolves).1.trans hmade⟩
  · rw [hclient] at hmem
    by_cases hstopped : l.client.loop.phase = .stopped
    · rw [Client.react_of_stopped _ hstopped] at hmem
      exact kept hmem
    · exact kept ((Client.react_fields hstopped .connected).2.2 request hmem hsome)
  · exact kept (hcarries.outbox request hmem hsome)

/-- What holds of a link in every run. -/
structure Steady (l : Link) : Prop where
  sound : l.Sound
  live : l.Live
  recorded : l.Recorded

variable {steps : List (Link × Action)}

theorem steady_of_run (h : Run Link.step? {} steps l) : l.Steady := by
  refine ⟨sound_of_run h, ?_, ?_⟩
  · induction h with
    | refl => simp [Live]
    | step before now ih => exact Live.step (sound_of_run before).delayed ih now
  · induction h with
    | refl => simp [Recorded]
    | step before now ih => exact Recorded.step (sound_of_run before) ih now

/-- The packet that is sent is that of a call, and this is the sender. -/
theorem call_of_packet (hl : l.Recorded) {packet : Packet} {c : Client}
    (hnext : l.client.prepare? = some (.send packet, c)) :
    (∀ number filter qos, packet = .subscribe number filter qos →
      ∃ call, l.client.calls[l.sender]? = some call ∧ call.filter = filter) ∧
      ∀ number filter, packet = .unsubscribe number filter →
        ∃ call, l.client.calls[l.sender]? = some call ∧ call.kind = .unsubscribe ∧
          call.filter = filter := by
  unfold Client.prepare? at hnext
  split at hnext
  · obtain ⟨⟨dispatch, outbox⟩, htake, heq⟩ := Option.map_eq_some_iff.mp hnext
    obtain ⟨rfl, -⟩ := Prod.mk.inj heq
    obtain ⟨hsubscribe, hunsubscribe⟩ := Outbox.take?_request htake
    refine ⟨?_, ?_⟩
    · rintro number filter qos rfl
      obtain ⟨i, hhead, hmem⟩ := hsubscribe number filter qos rfl
      rw [l.sender_of_head? hhead rfl]
      obtain ⟨call, hcall, hrequest⟩ := hl _ hmem _ i rfl
      exact ⟨call, hcall, filter_of_subscribes hrequest⟩
    · rintro number filter rfl
      obtain ⟨i, hhead, hmem⟩ := hunsubscribe number filter rfl
      rw [l.sender_of_head? hhead rfl]
      obtain ⟨call, hcall, hrequest⟩ := hl _ hmem _ i rfl
      exact ⟨call, hcall, kind_of_unsubscribes hrequest⟩
  · simp at hnext

/-- Subscriptions are ended by calls that unsubscribe. -/
theorem unsubscribe_of_ended (hl : l.Recorded) {i : Nat}
    (h : l.news? filter a = some (.ended i)) :
    ∃ call, l.client.calls[i]? = some call ∧ call.kind = .unsubscribe := by
  cases a with
  | transmit refuse =>
    simp only [news?] at h
    split at h
    · split at h <;> simp at h
    · next number other c hnext =>
      split at h
      · obtain rfl := News.ended.inj (Option.some.inj h)
        obtain ⟨call, hcall, hkind, -⟩ := (call_of_packet hl hnext).2 number other rfl
        exact ⟨call, hcall, hkind⟩
      · simp at h
    · simp at h
  | _ => simp [news?] at h

/-! ### What the broker did last -/

/-- The broker has granted or ended a subscription in this session. -/
def Settled (filter : String) (steps : List (Link × Action)) : Prop :=
  ∃ call, lastNews filter steps = some (.granted call) ∨ lastNews filter steps = some (.ended call)

/-- What the broker did last about a filter accounts for the session: whether it is subscribed, and
    that it may be answered that it is. -/
structure Informed (filter : String) (steps : List (Link × Action)) (l : Link) : Prop where
  subscribed : l.client.up = true →
    (filter ∈ l.subscriptions ↔ ∃ call, lastNews filter steps = some (.granted call))
  granting : l.client.up = true → ∀ d ∈ l.owed, d.answer = .suback → d.refused = false →
    Settled filter steps
  ended : ∀ i, lastNews filter steps = some (.ended i) →
    ∃ call, l.client.calls[i]? = some call ∧ call.kind = .unsubscribe

/-- What the broker does when it takes a packet. -/
theorem Informed.took (hi : Informed filter steps l) (hl : l.Steady)
    (hcalls : ∀ call ∈ l.client.calls, call.filter = filter) {refuse : Bool} {packet : Packet}
    {c : Client} (hup : l.client.up = true) (hnext : l.client.prepare? = some (.send packet, c)) :
    (filter ∈ (l.take l.sender refuse packet).subscriptions ↔
        ∃ call, lastNews filter (steps ++ [(l, .transmit refuse)]) = some (.granted call)) ∧
      ∀ d ∈ (l.take l.sender refuse packet).owed, d.answer = .suback → d.refused = false →
        Settled filter (steps ++ [(l, .transmit refuse)]) := by
  obtain ⟨hsubscribe, hunsubscribe⟩ := call_of_packet hl.recorded hnext
  have hsubscribed := hi.subscribed hup
  have hgranting := hi.granting hup
  unfold Settled at hgranting ⊢
  rw [lastNews_append]
  cases packet with
  | subscribe number other qos =>
    obtain ⟨call, hcall, rfl⟩ := hsubscribe number other qos rfl
    obtain rfl : call.filter = filter := hcalls call (List.mem_of_getElem? hcall)
    cases refuse with
    | true =>
      -- the answer that is owed now is that the subscription is refused
      have hnews : l.news? call.filter (.transmit true) = none := by simp [news?, hnext]
      rw [hnews, Option.none_or]
      refine ⟨hsubscribed, ?_⟩
      intro d hd hkind hgranted
      rcases List.mem_append.mp hd with hd | hd
      · exact hgranting d hd hkind hgranted
      · obtain rfl := List.mem_singleton.mp hd
        simp at hgranted
    | false =>
      have hnews : l.news? call.filter (.transmit false) = some (.granted l.sender) := by
        simp [news?, hnext]
      rw [hnews, Option.some_or]
      exact ⟨by simp [take], fun _ _ _ _ => ⟨l.sender, .inl rfl⟩⟩
  | unsubscribe number other =>
    obtain ⟨call, hcall, -, rfl⟩ := hunsubscribe number other rfl
    obtain rfl : call.filter = filter := hcalls call (List.mem_of_getElem? hcall)
    have hnews : l.news? call.filter (.transmit refuse) = some (.ended l.sender) := by
      simp [news?, hnext]
    rw [hnews, Option.some_or]
    exact ⟨by simp [take], fun _ _ _ _ => ⟨l.sender, .inr rfl⟩⟩
  | _ =>
    have hnews : l.news? filter (.transmit refuse) = none := by simp [news?, hnext]
    rw [hnews, Option.none_or]
    exact ⟨hsubscribed, hgranting⟩

theorem Informed.step (hi : Informed filter steps l) (hl : l.Steady)
    (hcalls : ∀ call ∈ l.client.calls, call.filter = filter) (now : l.step? a = some l') :
    Informed filter (steps ++ [(l, a)]) l' := by
  have hcase := (step_cases hl.sound.delayed now).1
  -- calls do not change what they do
  have later (i : Nat)
      (hbefore : ∃ call, l.client.calls[i]? = some call ∧ call.kind = .unsubscribe) :
      ∃ call, l'.client.calls[i]? = some call ∧ call.kind = .unsubscribe := by
    obtain ⟨call, hcall, hkind⟩ := hbefore
    obtain ⟨call', hcall', hevolves⟩ := hcase.exists_evolves hcall
    exact ⟨call', hcall', hevolves.kind.trans hkind⟩
  have hended : ∀ i, lastNews filter (steps ++ [(l, a)]) = some (.ended i) →
      ∃ call, l'.client.calls[i]? = some call ∧ call.kind = .unsubscribe := by
    intro i h
    rw [lastNews_append] at h
    cases hnews : l.news? filter a with
    | none =>
      rw [hnews, Option.none_or] at h
      exact later i (hi.ended i h)
    | some news =>
      rw [hnews, Option.some_or] at h
      obtain rfl := Option.some.inj h
      exact later i (unsubscribe_of_ended hl.recorded hnews)
  cases session_cases hl.sound.delayed hl.live now with
  | down hdown => exact ⟨by simp [hdown], by simp [hdown], hended⟩
  | begun hsubscriptions howed hreported =>
    refine ⟨fun _ => ?_, fun _ => by simp [howed], hended⟩
    rw [hsubscriptions, lastNews_append]
    simp [news?]
  | took hup hnext hsubscriptions howed =>
    obtain ⟨hsubscribed, hgranting⟩ := hi.took hl hcalls hup hnext
    exact ⟨fun _ => by rw [hsubscriptions, hsubscribed], fun _ => by rwa [howed], hended⟩
  | kept hup hnews hsubscriptions howed =>
    have hsame : lastNews filter (steps ++ [(l, a)]) = lastNews filter steps := by
      rw [lastNews_append, hnews filter, Option.none_or]
    refine ⟨fun _ => ?_, fun _ => ?_, hended⟩
    · rw [hsubscriptions, hsame]
      exact hi.subscribed hup
    · intro d hd
      unfold Settled
      rw [hsame]
      exact hi.granting hup d (howed.subset hd)

/-- What the broker has granted or ended in a session stays so until the next one. -/
theorem Settled.append (h : Settled filter steps) (hsession : a ≠ .connect) :
    Settled filter (steps ++ [(l, a)]) := by
  unfold Settled
  rw [lastNews_append]
  cases hnews : l.news? filter a with
  | none => exact h
  | some news =>
    cases news with
    | begun =>
      cases a with
      | connect => exact absurd rfl hsession
      | transmit refuse =>
        simp only [news?] at hnews
        split at hnews
        · split at hnews <;> simp at hnews
        · split at hnews <;> simp at hnews
        · simp at hnews
      | _ => simp [news?] at hnews
    | granted call => exact ⟨call, .inl rfl⟩
    | ended call => exact ⟨call, .inr rfl⟩

/-- A session has come up in this step, which was reported, or it was up before. -/
theorem reported_or_up (hl : l.Steady) (now : l.step? a = some l') (hup : l'.client.up = true) :
    .connected ∈ l'.client.loop.events ∨ (l.client.up = true ∧ a ≠ .connect) := by
  cases session_cases hl.sound.delayed hl.live now with
  | down hdown => simp [hup] at hdown
  | begun hsubscriptions howed hreported => exact .inl hreported
  | took hbefore => exact .inr ⟨hbefore, by simp⟩
  | kept hbefore hnews =>
    refine .inr ⟨hbefore, ?_⟩
    rintro rfl
    simpa [news?] using hnews ""

/-- A call that subscribes is told that it has succeeded when the broker has granted a
    subscription in this session. -/
theorem granted_before (hl : l.Steady) (hi : Informed filter steps l) (hup : l.client.up = true)
    (now : l.step? a = some l') (hnew : ∀ kind other, a ≠ .own (.call kind other)) {i : Nat}
    {call' : Call} (hcall' : l'.client.calls[i]? = some call')
    (hkind : call'.kind.answer = .suback) (hanswer : call'.answer? = some (.ok ())) :
    (∃ call, l.client.calls[i]? = some call ∧ call.answer? = some (.ok ())) ∨
      Settled filter steps := by
  obtain ⟨call, hcall, hevolves⟩ :=
    (step_cases hl.sound.delayed now).1.exists_before hnew hcall'
  rw [hevolves.kind] at hkind
  cases hevolves with
  | @hand _ k d hdebt hslot hlistens =>
    -- the answer is owed for a packet of this session, whoever's it is
    right
    have hsame := (hl.sound.orderly.of_slot hslot hcall).1
    have hsuback : d.answer = .suback := hsame ▸ hkind
    refine hi.granting hup d (List.mem_of_getElem? hdebt) hsuback ?_
    have hresult : d.result = .ok () := Option.some.inj hanswer
    cases hrefused : d.refused with
    | false => rfl
    | true => simp [Debt.result, hsuback, hrefused] at hresult
  | lost hslot hlistens => simp at hanswer
  | _ => exact .inl ⟨_, hcall, hanswer⟩

/-- A client whose calls are all about one filter. -/
theorem informed_of_run (h : Run Link.step? {} steps l)
    (hcalls : ∀ call ∈ l.client.calls, call.filter = filter) : Informed filter steps l := by
  induction h with
  | refl => exact ⟨by simp, by simp, by simp [lastNews]⟩
  | @step steps l a l' before now ih =>
    have hl := steady_of_run before
    have hcalls' : ∀ call ∈ l.client.calls, call.filter = filter := by
      intro call hmem
      obtain ⟨i, hcall⟩ := List.getElem?_of_mem hmem
      obtain ⟨call', hcall', hevolves⟩ :=
        (step_cases hl.sound.delayed now).1.exists_evolves hcall
      rw [← (request?_of_evolves hevolves).2]
      exact hcalls call' (List.mem_of_getElem? hcall')
    exact (ih hcalls').step hl hcalls' now

end Link

end LoraBridge.Broker
