import LoraBridge.Proofs.Document.RoundTrip
import LoraBridge.Proofs.Handler.Post
import LoraBridge.Proofs.Topic

/-! # Commands that are delivered

  A command for a device is written to a payload and delivered on a topic of the device. It comes
  under the filter of all commands, the handler reads it back, and when its lock is free the network
  server receives it.

  - `Post.Underway.free_when_asked`: a lock that is free when a command is delivered is free when
    the store is asked for it, unless somebody else asks for it in between.
  - `Post.command_delivered`: what is received in the end is the command.
-/

namespace LoraBridge.Handler.Post

open Lock (Contract)

variable {σ : Type} {l : Contract σ} {c c' d r : Post σ} {more : List (Post σ × Action)} {n : Nat}
  {command : Command} {past : List (State × Handler.Action)}

/-! ### Commands on their way -/

/-- The topic of commands for a device. -/
def commandTopic (application device : String) : String :=
  TopicAddress.topicFor { application, device } "tx"

/-- The other side of the session delivers a command. -/
def deliver (application : String) (command : Command) : Action :=
  .station (.script (.deliver (commandTopic application command.device) command.encode))

/-- A payload that was written for a command, on a topic of its device, is judged to be the
    command. -/
theorem judge_encode {application : String}
    (happlication : TopicAddress.isWord application.toList = true)
    (hdevice : TopicAddress.isWord command.device.toList = true) :
    judge (commandTopic application command.device) command.encode = .command command :=
  judge_eq_command.mpr ⟨_, TopicAddress.ofCommandTopic?_topicFor happlication hdevice,
    command.decode_encode, rfl⟩

/-- A command on its way to the handler of a post. -/
structure Underway (c : Post σ) (past : List (State × Handler.Action)) (n : Nat)
    (command : Command) : Prop where
  /-- The handler may have been in use before. -/
  past : Run State.step? {} past c.station.handler
  /-- The message waits among the events of the session. -/
  arriving : ∃ topic payload, judge topic payload = .command command ∧
    Station.Arriving n topic payload [] c.station
  /-- Its ticket is still to be given out. -/
  new : c.station.handler.nextTicket ≤ n

/-- The task of the message waits for the lock of the command, and has not been answered yet. -/
theorem Underway.locking (hc : Underway c past n command) (h : Run (step? l) c more r)
    (houtside : ∀ e ∈ more, e.2.isOutside = true) {found : Command}
    (hlocking : r.station.handler.locking? n = some found) :
    found = command ∧ ∀ answer, .answered n answer ∉ record l more := by
  obtain ⟨topic, payload, hjudge, harriving⟩ := hc.arriving
  exact Station.command_of_locking hc.past (run_station h) (outside_stations houtside) harriving
    hc.new hjudge hlocking

/-- A lock that is free when a command is on its way stays free until its task is answered, if
    nobody else asks for it. -/
theorem free_or_answered (h : Run (step? l) c more d) (hfree : c.isLocked l command = false)
    (halone : ∀ r a, (r, a) ∈ more → r.asks? a = some (lockKey command) → a = .answer n) :
    d.isLocked l command = false ∨ ∃ answer, .answered n answer ∈ record l more := by
  induction h with
  | refl => exact .inl hfree
  | @step steps r a d _ now ih =>
    have hcase := step_cases now
    rw [record_append]
    rcases ih fun q b hmem => halone q b (List.mem_append_left _ hmem) with hfree | ⟨answer, hmem⟩
    · by_cases hasks : r.asks? a = some (lockKey command)
      · obtain rfl := halone r a (by simp) hasks
        cases hcase with
        | answer hlocking hstep =>
          rw [record_single_answer hlocking]
          exact .inr ⟨_, List.mem_append_right _ (List.mem_singleton_self _)⟩
      · exact .inl (hcase.isLocked_eq_false hfree hasks)
    · exact .inr ⟨answer, List.mem_append_left _ hmem⟩

/-- A lock that is free when a command is on its way is free when the store is asked for it, if
    nobody else asks for it. -/
theorem Underway.free_when_asked (hc : Underway c past n command) (h : Run (step? l) c more d)
    (houtside : ∀ e ∈ more, e.2.isOutside = true) (hfree : c.isLocked l command = false)
    (halone : ∀ r a, (r, a) ∈ more → r.asks? a = some (lockKey command) → a = .answer n)
    (hmem : (r, .answer n) ∈ more) : r.isLocked l command = false := by
  obtain ⟨before, after, rfl⟩ := List.append_of_mem hmem
  obtain ⟨hbefore, u, now, -⟩ := h.split_at
  cases step_cases now with
  | answer hlocking hstep =>
    have hoff (e : Post σ × Action) (he : e ∈ before) : e.2.isOutside = true :=
      houtside e (List.mem_append_left _ he)
    -- the store has not answered before
    have hnone := (hc.locking hbefore hoff hlocking).2
    rcases free_or_answered hbefore hfree fun q b hq =>
      halone q b (List.mem_append_left _ hq) with hfree | ⟨answer, hanswered⟩
    · exact hfree
    · exact absurd hanswered (hnone answer)

/-- What a command needs on its way. -/
structure Undisturbed (l : Contract σ) (n : Nat) (command : Command) (more : List (Post σ × Action))
    (d : Post σ) : Prop where
  /-- The network server receives. -/
  receiver : d.station.handler.receiver = true
  /-- The handler takes messages, or has taken this one before it was closed. -/
  taken : d.station.handler.sender = true ∨ n < d.station.handler.nextTicket
  /-- The store does not fail when it is asked for the lock of the command. -/
  works : ∀ r error taken, (r, .fail n error taken) ∉ more
  /-- Nobody holds the lock then. -/
  free : ∀ r, (r, .answer n) ∈ more → r.isLocked l command = false

/-- An undisturbed command gets its lock. -/
theorem Underway.granted (hc : Underway c past n command) (h : Run (step? l) c more d)
    (houtside : ∀ e ∈ more, e.2.isOutside = true) (hd : Undisturbed l n command more d)
    {answer : Except Lock.StoreError Bool} (hmem : .answered n answer ∈ record l more) :
    answer = .ok true := by
  rcases answer_of_answered h hmem with ⟨r, found, hstep, hlocking, rfl⟩ | ⟨r, error, taken, hstep⟩
  · have hfree := hd.free r hstep
    obtain ⟨before, after, rfl⟩ := List.append_of_mem hstep
    have hoff (e : Post σ × Action) (he : e ∈ before) : e.2.isOutside = true :=
      houtside e (List.mem_append_left _ he)
    obtain ⟨rfl, -⟩ := hc.locking h.split_at.1 hoff hlocking
    have hwon : (r.call l found).1 = !r.isLocked l found := l.answer_eq _ _ _ _
    rw [hwon, hfree]
    rfl
  · exact absurd hstep (hd.works r error taken)

/-! ### What becomes of a command -/

/-- What becomes of a command that is delivered to a post, after some steps. -/
structure Delivery (l : Contract σ) (c : Post σ) (n : Nat) (command : Command)
    (more : List (Post σ × Action)) (d : Post σ) : Prop where
  /-- Nobody holds its lock when the store is asked for it, if nobody did when the command was
      delivered and nobody else asks. -/
  free : c.isLocked l command = false →
    (∀ r a, (r, a) ∈ more → r.asks? a = some (lockKey command) → a = .answer n) →
    ∀ r, (r, .answer n) ∈ more → r.isLocked l command = false
  /-- If it is not disturbed, its message brings the network server this command and nothing else,
      once; until then there is something to do. -/
  received : Undisturbed l n command more d →
    delivered n (record l more) = [command] ∨
      (delivered n (record l more) = [] ∧ ∃ a d', a.carries = true ∧ d.step? l a = some d')
  /-- Only the other side of the session can bring more to do. -/
  bounded : more.countP (·.2.carries) + d.station.load ≤
    c.station.load + 6 * (1 + more.countP (·.2.isScript))

/-- A command that is delivered is on its way, and gets the ticket after those of the messages that
    wait. -/
theorem underway_of_deliver {application : String}
    (hpast : Run State.step? {} past c.station.handler)
    (hdelivers : c.station.transport.delivers (commandTopic application command.device) = true)
    (hjudge : judge (commandTopic application command.device) command.encode = .command command)
    (h : c.step? l (deliver application command) = some c') :
    Underway c' past c.station.ticketToCome command ∧
      c'.isLocked l command = c.isLocked l command := by
  unfold deliver at h
  cases step_cases h with
  | @station action station hown hstep =>
    obtain ⟨hhandler, harriving⟩ := Station.arriving_of_deliver hdelivers command.encode hstep
    refine ⟨⟨?_, ⟨_, _, hjudge, harriving⟩, ?_⟩, rfl⟩
    · show Run State.step? {} past station.handler
      rwa [hhandler]
    · show station.handler.nextTicket ≤ _
      rw [hhandler]
      exact Nat.le_add_right _ _

/-- When the session is up and the command topic is subscribed to, a command for a device is
    delivered. Whatever happens then, it is received as it was written, unless it is disturbed. -/
theorem command_delivered {application : String}
    (hpast : Run State.step? {} past c.station.handler)
    (hsession : c.station.transport.takesEvents = true)
    (hsubscribed : c.station.transport.holds commandFilter = true)
    (happlication : TopicAddress.isWord application.toList = true)
    (hdevice : TopicAddress.isWord command.device.toList = true) :
    c.station.transport.delivers (commandTopic application command.device) = true ∧
      ∃ c', c.step? l (deliver application command) = some c' ∧
        ∀ more d, Run (step? l) c' more d → (∀ e ∈ more, e.2.isOutside = true) →
          Delivery l c c.station.ticketToCome command more d := by
  have hdelivers : c.station.transport.delivers (commandTopic application command.device) = true :=
    c.station.transport.delivers_of_holds hsubscribed
      (TopicAddress.accepts_commandFilter happlication hdevice) hsession
  have hjudge := judge_encode happlication hdevice
  obtain ⟨c', hstep⟩ : ∃ c', c.step? l (deliver application command) = some c' := ⟨_, rfl⟩
  refine ⟨hdelivers, c', hstep, fun more d h houtside => ?_⟩
  obtain ⟨hunderway, hsame⟩ := underway_of_deliver hpast hdelivers hjudge hstep
  obtain ⟨topic, payload, hjudge, harriving⟩ := hunderway.arriving
  constructor
  case free =>
    intro hfree halone r hmem
    exact hunderway.free_when_asked h houtside (hsame.trans hfree) halone hmem
  case received =>
    intro hd
    have hgranted (answer : Except Lock.StoreError Bool) :
        .answered c.station.ticketToCome answer ∈ record l more → answer = .ok true :=
      hunderway.granted h houtside hd
    rcases Station.delivered_or_held hunderway.past (run_station h) (outside_stations houtside)
      harriving hunderway.new hjudge hd.receiver hd.taken hgranted with hdone | ⟨hnothing, hheld⟩
    · exact .inl hdone
    · exact .inr ⟨hnothing, exists_carrying hd.receiver hheld⟩
  case bounded =>
    have hmore := load_of_run hunderway.past h houtside
    have hfirst : c'.station.load ≤ c.station.load + 6 := by
      simpa [deliver, Action.carries, Action.isScript, Station.Action.carries,
        Station.Action.isScript] using
        (step_cases hstep).load_le (numbered_of_run hpast) rfl
    omega

/-! ### An example -/

/-- A command whose reference has to be escaped. -/
def quotedCommand : Command :=
  { reference := "5 \u00b0C \"now\"\\\n", device := "d_1", port := 7, data := [0, 255, 16, 1] }

/-- The session comes up, and the command topic is subscribed to. -/
def comingUp : List Action :=
  [.station (.script .connect), .station .dispatch, .station (.own (.check 0)),
    .station (.own (.subscribe 0)), .station (.subscribeReply 0)]

/-- A post with an empty store after that. -/
def subscribedPost : Post Lock.Tree where
  station :=
    { handler := { nextLoop := 1 },
      transport := { subscriptions := [(commandFilter, .exactlyOnce)], attempts := 1 } }
  store := .empty

/-- A command is carried to the network server, while some time passes. -/
def carrying : List Action :=
  [.station .dispatch, .station (.own (.judge 0)), .tick 5, .answer 0,
    .station (.own (.queueUp 0)), .station (.own .send), .station (.own .receive)]

theorem command_delivered_quoted :
    ∃ steps c' more d,
      Run (step? Lock.embedded) { store := Lock.Tree.empty } steps subscribedPost ∧
      subscribedPost.step? Lock.embedded (deliver "a1" quotedCommand) = some c' ∧
      Run (step? Lock.embedded) c' more d ∧ more.map (·.2) = carrying ∧
      delivered 0 (record Lock.embedded more) = [quotedCommand] := by
  have hup : (Run.steps? (step? Lock.embedded) { store := Lock.Tree.empty } comingUp).map (·.2) =
      some subscribedPost := rfl
  have hcarried : ((subscribedPost.step? Lock.embedded (deliver "a1" quotedCommand)).bind fun c' =>
      (Run.steps? (step? Lock.embedded) c' carrying).map fun run =>
        (run.1.map (·.2), run.2.station.handler.receiver, run.2.station.handler.sender,
          (delivered 0 (record Lock.embedded run.1)).length)) =
      some (carrying, true, true, 1) := rfl
  obtain ⟨⟨steps, c⟩, hsteps, rfl⟩ := Option.map_eq_some_iff.mp hup
  have hrun := Run.of_steps? hsteps
  have hpast := Station.run_inner (run_station hrun)
  have happlication : TopicAddress.isWord "a1".toList = true := by decide
  have hdevice : TopicAddress.isWord quotedCommand.device.toList = true := by decide
  obtain ⟨-, c', hstep, hdelivery⟩ := command_delivered hpast rfl rfl happlication hdevice
  rw [hstep, Option.bind_some] at hcarried
  obtain ⟨⟨more, d⟩, hmore, hfacts⟩ := Option.map_eq_some_iff.mp hcarried
  simp only [Prod.mk.injEq] at hfacts
  obtain ⟨hactions, hreceiver, hsender, hone⟩ := hfacts
  have hrun' := Run.of_steps? hmore
  -- each step is one of those that carry the command, and only its task asks the store
  have hmem (e : Post Lock.Tree × Action) (he : e ∈ more) : e.2 ∈ carrying :=
    hactions ▸ List.mem_map_of_mem he
  have houtside : ∀ e ∈ more, e.2.isOutside = true := by
    have hall : carrying.all Action.isOutside = true := rfl
    exact fun e he => List.all_eq_true.mp hall e.2 (hmem e he)
  have hticket : subscribedPost.station.ticketToCome = 0 := rfl
  have hd := hticket ▸ hdelivery more d hrun' houtside
  have hundisturbed : Undisturbed Lock.embedded 0 quotedCommand more d := by
    refine ⟨hreceiver, .inl hsender, ?_, hd.free rfl ?_⟩
    · intro r error taken hfail
      simpa [carrying] using hmem _ hfail
    · intro r a ha hasks
      have hall : ∀ a ∈ carrying, a = .answer 0 ∨ ∀ q : Post Lock.Tree, q.asks? a = none := by
        simp [carrying, asks?]
      rcases hall a (hmem _ ha) with hanswer | hnothing
      · exact hanswer
      · simp [hnothing r] at hasks
  rcases hd.received hundisturbed with hdone | ⟨hnothing, -⟩
  · exact ⟨steps, c', more, d, hrun, hstep, hrun', hactions, hdone⟩
  · simp [hnothing] at hone

end LoraBridge.Handler.Post
