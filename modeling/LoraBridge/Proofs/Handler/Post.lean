import LoraBridge.Handler.Fleet
import LoraBridge.Proofs.Handler.Arrival
import LoraBridge.Proofs.Lock.Contract

/-! # Handlers with their lock stores

  A `Post` is a handler on a local transport with the lock store that it asks, of which nothing is
  known but its `Contract`. The parts of the handler take their steps in any order, and so do others
  who share the store: they ask it for locks, and they remove what has expired.

  - `Post.step?` is what can happen.
  - `Post.run_station`: what happens at the station of a post is a run of the station.
  - `Post.answer_of_answered`: what the tasks of the handler are answered.
  - `Post.load_of_run`: how much there is to do.
  - `Fleet.post?_act`, `Fleet.post?_answerLock`: a fleet that is run does what its posts can do.
-/

namespace LoraBridge.Handler

open Lock (Contract)

/-- A station and its lock store. -/
structure Post (σ : Type) where
  station : Station := {}
  store : σ
  /-- The clock of the lock store. -/
  now : Int := 0

/-- Whether an action is an answer of the lock store. -/
def Station.Action.isAnswer : Station.Action → Bool
  | .own action => !action.isOwn
  | _ => false

/-- A task is answered by the lock store alone. -/
theorem Station.isAnswer_of_answered {s s' : Station} {a : Station.Action} {n : Nat}
    {answer : Except Lock.StoreError Bool} (h : s.step? a = some s')
    (hmem : .answered n answer ∈ Handler.record (inner [(s, a)])) : a.isAnswer = true := by
  rcases Station.step_cases h with ⟨call, rfl, -⟩ | ⟨b, t, hresolve, hstep, -⟩
  · cases hmem
  · have hinner : inner [(s, a)] = [(s.handler, b)] := by simp [inner, hresolve]
    rw [hinner, record_single] at hmem
    obtain rfl := (State.step_cases hstep).eq_lockReply hmem
    cases resolve?_cases hresolve with
    | own hown => rfl

namespace Post

/-- What happens next. -/
inductive Action where
  /-- Time passes. -/
  | tick (ms : Nat)
  /-- Something happens at the station, save for answers of the store. -/
  | station (action : Station.Action)
  /-- The store answers a task. -/
  | answer (ticket : Nat)
  /-- The store fails to, which leaves open whether it has taken the lock. -/
  | fail (ticket : Nat) (error : Lock.StoreError) (taken : Bool)
  /-- Somebody else asks the store for a lock. -/
  | attempt (key : String) (ttl : Duration)
  /-- What has expired is removed from the store. -/
  | purge
deriving Repr

variable {σ : Type} (l : Contract σ)

/-- What the store answers when it is asked for the lock of a command, and the store after that. -/
def call (c : Post σ) (command : Command) : Bool × σ :=
  l.setIfAbsent c.store c.now (lockKey command) Lock.commandTtl

/-- The post after an action, if the action is possible. -/
def step? (c : Post σ) : Action → Option (Post σ)
  | .tick ms => some { c with now := c.now + ms }
  | .station action =>
    if action.isAnswer then none
    else (c.station.step? action).map fun station => { c with station }
  | .answer ticket => do
    let command ← c.station.handler.locking? ticket
    let (won, store) := c.call l command
    let station ← c.station.step? (.own (.lockReply ticket (.ok won)))
    some { c with station, store }
  | .fail ticket error taken => do
    let command ← c.station.handler.locking? ticket
    let station ← c.station.step? (.own (.lockReply ticket (.error error)))
    let store := if taken then (c.call l command).2 else c.store
    some { c with station, store }
  | .attempt key ttl => some { c with store := (l.setIfAbsent c.store c.now key ttl).2 }
  | .purge => some { c with store := l.purge c.store c.now }

/-! ### Steps by their cases -/

/-- What an action does to a post, under which conditions. -/
inductive Step (c : Post σ) : Action → Post σ → Prop
  | tick (ms : Nat) : Step c (.tick ms) { c with now := c.now + ms }
  | station {action : Station.Action} {station : Station} (hown : action.isAnswer = false)
    (hstep : c.station.step? action = some station) :
    Step c (.station action) { c with station }
  -- the store
  | answer {ticket : Nat} {command : Command} {station : Station}
    (hlocking : c.station.handler.locking? ticket = some command)
    (hstep : c.station.step? (.own (.lockReply ticket (.ok (c.call l command).1))) = some station) :
    Step c (.answer ticket) { c with station, store := (c.call l command).2 }
  | fail {ticket : Nat} {error : Lock.StoreError} {taken : Bool} {command : Command}
    {station : Station} (hlocking : c.station.handler.locking? ticket = some command)
    (hstep : c.station.step? (.own (.lockReply ticket (.error error))) = some station) :
    Step c (.fail ticket error taken) { c with
      station, store := if taken then (c.call l command).2 else c.store }
  | attempt (key : String) (ttl : Duration) :
    Step c (.attempt key ttl) { c with store := (l.setIfAbsent c.store c.now key ttl).2 }
  | purge : Step c .purge { c with store := l.purge c.store c.now }

variable {l} {c c' d r : Post σ} {a : Action} {more : List (Post σ × Action)} {n : Nat}
  {command : Command} {topic : String} {payload : Bytes}
  {past : List (State × Handler.Action)}

theorem step_cases (h : c.step? l a = some c') : c.Step l a c' := by
  cases a with
  | tick ms =>
    obtain rfl := Option.some.inj h
    exact .tick ms
  | station action =>
    simp only [step?] at h
    split at h
    · simp at h
    · next hown =>
      obtain ⟨station, hstep, rfl⟩ := Option.map_eq_some_iff.mp h
      exact .station (by simpa using hown) hstep
  | answer ticket =>
    simp only [step?, Option.bind_eq_bind, Option.bind_eq_some_iff, Option.some.injEq] at h
    obtain ⟨command, hlocking, station, hstep, rfl⟩ := h
    exact .answer hlocking hstep
  | fail ticket error taken =>
    simp only [step?, Option.bind_eq_bind, Option.bind_eq_some_iff, Option.some.injEq] at h
    obtain ⟨command, hlocking, station, hstep, rfl⟩ := h
    exact .fail hlocking hstep
  | attempt key ttl =>
    obtain rfl := Option.some.inj h
    exact .attempt key ttl
  | purge =>
    obtain rfl := Option.some.inj h
    exact .purge

/-! ### The station of a post -/

/-- What happens at the station in an action, if anything does. -/
def stationAction? (l : Contract σ) (c : Post σ) : Action → Option Station.Action
  | .station action => some action
  | .answer ticket => (c.station.handler.locking? ticket).map fun command =>
      .own (.lockReply ticket (.ok (c.call l command).1))
  | .fail ticket error _ => some (.own (.lockReply ticket (.error error)))
  | _ => none

/-- The steps of the station among those of a post. -/
def stations (l : Contract σ) (steps : List (Post σ × Action)) :
    List (Station × Station.Action) :=
  steps.filterMap fun e => (e.1.stationAction? l e.2).map (e.1.station, ·)

/-- What is written down of the steps of a post. -/
def record (l : Contract σ) (steps : List (Post σ × Action)) : List Entry :=
  Handler.record (Station.inner (stations l steps))

theorem stations_append (steps more : List (Post σ × Action)) :
    stations l (steps ++ more) = stations l steps ++ stations l more :=
  List.filterMap_append

theorem record_append (steps more : List (Post σ × Action)) :
    record l (steps ++ more) = record l steps ++ record l more := by
  rw [record, stations_append, Station.inner_append, Handler.record_append]
  rfl

/-- A step is one of the station, or leaves the station alone. -/
theorem Step.station_eq (h : c.Step l a c') :
    (stations l [(c, a)] = [] ∧ c'.station = c.station) ∨
      ∃ b, stations l [(c, a)] = [(c.station, b)] ∧ c.station.step? b = some c'.station := by
  cases h with
  | station hown hstep => exact .inr ⟨_, rfl, hstep⟩
  | answer hlocking hstep =>
    exact .inr ⟨_, by simp [stations, stationAction?, hlocking], hstep⟩
  | fail hlocking hstep => exact .inr ⟨_, rfl, hstep⟩
  | _ => exact .inl ⟨rfl, rfl⟩

/-- What happens at the station of a post is a run of the station. -/
theorem run_station (h : Run (step? l) c more d) :
    Run Station.step? c.station (stations l more) d.station := by
  induction h with
  | refl => exact .refl
  | @step steps r a d _ now ih =>
    rw [stations_append]
    rcases (step_cases now).station_eq with ⟨hnone, hsame⟩ | ⟨b, hone, hstep⟩
    · rwa [hnone, List.append_nil, hsame]
    · rw [hone]
      exact .step ih hstep

/-- Whether an action leaves to the handler what only the owner of a transport does. -/
def Action.isOutside : Action → Bool
  | .station action => action.isOutside
  | _ => true

theorem outside_stations (h : ∀ e ∈ more, e.2.isOutside = true) :
    ∀ e ∈ stations l more, e.2.isOutside = true := by
  intro e he
  obtain ⟨⟨r, a⟩, hmem, heq⟩ := List.mem_filterMap.mp he
  obtain ⟨b, hb, rfl⟩ := Option.map_eq_some_iff.mp heq
  have houtside := h _ hmem
  cases a with
  | station action =>
    obtain rfl := Option.some.inj hb
    exact houtside
  | answer ticket =>
    obtain ⟨command, -, rfl⟩ := Option.map_eq_some_iff.mp hb
    rfl
  | fail ticket error taken =>
    obtain rfl := Option.some.inj hb
    rfl
  | _ => simp [stationAction?] at hb

/-! ### The lock of a command -/

/-- Whether somebody holds the lock of a command. -/
def isLocked (l : Contract σ) (c : Post σ) (command : Command) : Bool :=
  l.isLive c.store (lockKey command) c.now

/-- The key that the store is asked for in an action, if it is asked for one. -/
def asks? (c : Post σ) : Action → Option String
  | .answer ticket => (c.station.handler.locking? ticket).map lockKey
  | .fail ticket _ _ => (c.station.handler.locking? ticket).map lockKey
  | .attempt key _ => some key
  | _ => none

/-- A lock that is free stays free until the store is asked for it. -/
theorem Step.isLocked_eq_false (h : c.Step l a c') (hfree : c.isLocked l command = false)
    (hothers : c.asks? a ≠ some (lockKey command)) : c'.isLocked l command = false := by
  -- asking for another lock is nothing to this one
  have asked {key : String} {ttl : Duration} (hkey : key ≠ lockKey command) :
      l.isLive (l.setIfAbsent c.store c.now key ttl).2 (lockKey command) c.now = false :=
    (l.isLive_of_ne _ _ _ hkey.symm).trans hfree
  have other {found : Command}
      (hasks : c.asks? a = some (lockKey found)) : lockKey found ≠ lockKey command :=
    fun hkey => hothers (hasks.trans (congrArg some hkey))
  cases h with
  | tick ms =>
    -- an entry that is live later is live now
    refine Bool.eq_false_iff.mpr fun hlive => ?_
    have hlocked : c.isLocked l command = true :=
      l.isLive_mono _ _ (Int.le.intro ms rfl) hlive
    simp [hfree] at hlocked
  | station hown hstep => exact hfree
  | answer hlocking hstep => exact asked (other (by simp [asks?, hlocking]))
  | @fail ticket error taken found station hlocking hstep =>
    cases taken with
    | false => exact hfree
    | true => exact asked (other (by simp [asks?, hlocking]))
  | attempt key ttl => exact asked fun hkey => hothers (congrArg some hkey)
  | purge => exact (l.isLive_purge _ _ _).trans hfree

/-! ### What a task is answered -/

/-- What is written down of a step, if there is a step of the handler. -/
theorem record_single_answer {ticket : Nat} {found : Command}
    (hlocking : c.station.handler.locking? ticket = some found) :
    record l [(c, .answer ticket)] = [.answered ticket (.ok ((c.call l found).1))] := by
  simp [record, stations, stationAction?, hlocking, Station.inner, Station.resolve?,
    Station.isOwn, State.entries]

/-- An answer that is written down was given by the store, or the store has failed. -/
theorem answer_of_answered (h : Run (step? l) c more d) {answer : Except Lock.StoreError Bool}
    (hmem : .answered n answer ∈ record l more) :
    (∃ r found, (r, .answer n) ∈ more ∧ r.station.handler.locking? n = some found ∧
        answer = .ok ((r.call l found).1)) ∨
      ∃ r error taken, (r, .fail n error taken) ∈ more := by
  induction h with
  | refl => cases hmem
  | @step steps r a d _ now ih =>
    have hlast : (r, a) ∈ steps ++ [(r, a)] := by simp
    rw [record_append, List.mem_append] at hmem
    rcases hmem with hmem | hmem
    · rcases ih hmem with ⟨q, found, hstep, hfound⟩ | ⟨q, error, taken, hstep⟩
      · exact .inl ⟨q, found, List.mem_append_left _ hstep, hfound⟩
      · exact .inr ⟨q, error, taken, List.mem_append_left _ hstep⟩
    · cases step_cases now with
      | @station action station hown hstep =>
        -- the station alone writes down no answer
        have hanswer : action.isAnswer = true := Station.isAnswer_of_answered hstep hmem
        simp [hown] at hanswer
      | @answer ticket found station hlocking hstep =>
        rw [record_single_answer hlocking, List.mem_singleton] at hmem
        obtain ⟨rfl, rfl⟩ := Entry.answered.inj hmem
        exact .inl ⟨r, found, hlast, hlocking, rfl⟩
      | @fail ticket error taken found station hlocking hstep =>
        have hentry : record l [(r, .fail ticket error taken)] =
            [.answered ticket (.error error)] := rfl
        rw [hentry, List.mem_singleton] at hmem
        obtain ⟨rfl, -⟩ := Entry.answered.inj hmem
        exact .inr ⟨r, error, taken, hlast⟩
      | _ => cases hmem

/-! ### Something to do -/

/-- Whether an action carries a message on, or takes an event. -/
def Action.carries : Action → Bool
  | .station action => action.carries
  | .answer _ => true
  | .fail _ _ _ => true
  | _ => false

/-- Whether an action is one of the other side of the session. -/
def Action.isScript : Action → Bool
  | .station action => action.isScript
  | _ => false

theorem step?_of_own {b : Handler.Action} {s' : State} (hcarries : b.carries = true)
    (hown : b.isOwn = true) (hstep : c.station.handler.step? b = some s') :
    ∃ d, c.step? l (.station (.own b)) = some d := by
  have howned : Station.isOwn b = true := by
    cases b with
    | dispatch | subscribeReply | unsubscribeReply | disconnectReply => cases hcarries
    | _ => rfl
  have hstation : c.station.step? (.own b) = some { c.station with handler := s' } := by
    simp [Station.step?, Station.resolve?, howned, hstep]
  refine ⟨{ c with station := { c.station with handler := s' } }, ?_⟩
  simp [step?, Station.Action.isAnswer, hown, hstation]

theorem step?_of_locking {found : Command}
    (hlocking : c.station.handler.locking? n = some found) :
    ∃ d, c.step? l (.answer n) = some d := by
  obtain ⟨task, htask, hphase⟩ := State.locking?_eq_some.mp hlocking
  have hanswered : ∃ s', c.station.handler.step?
      (.lockReply n (.ok ((c.call l found).1))) = some s' := by
    cases (c.call l found).1 with
    | true => exact ⟨_, (State.Step.acquire htask hphase).possible⟩
    | false => exact ⟨_, (State.Step.refuse htask hphase (by simp)).possible⟩
  obtain ⟨s', hstep⟩ := hanswered
  have hstation : c.station.step? (.own (.lockReply n (.ok ((c.call l found).1)))) =
      some { c.station with handler := s' } := by
    simp [Station.step?, Station.resolve?, Station.isOwn, hstep]
  refine ⟨{ c with
    station := { c.station with handler := s' }, store := (c.call l found).2 }, ?_⟩
  simp [step?, hlocking, hstation]

/-- A message that waits or is held by the handler can be carried on, or another one can. -/
theorem exists_carrying (hreceiver : c.station.handler.receiver = true)
    (h : c.station.transport.events ≠ [] ∨ (c.station.handler.place n).isHeld = true) :
    ∃ a d, a.carries = true ∧ c.step? l a = some d := by
  rcases h with hevents | hheld
  · obtain ⟨event, events, hevents⟩ := List.exists_cons_of_ne_nil hevents
    refine ⟨.station .dispatch, { c with station := { c.station with
      handler := c.station.handler.dispatch event,
      transport := { c.station.transport with events } } }, rfl, ?_⟩
    simp [step?, Station.Action.isAnswer, Station.step?, Station.resolve?, hevents, State.step?]
  · rcases State.exists_carrying hheld hreceiver with ⟨found, hlocking⟩ |
      ⟨b, s', hcarries, hown, hstep⟩
    · obtain ⟨d, hstep⟩ := step?_of_locking hlocking
      exact ⟨_, d, rfl, hstep⟩
    · obtain ⟨d, hstep⟩ := step?_of_own hcarries hown hstep
      exact ⟨.station (.own b), d, hcarries, hstep⟩

/-! ### Work that is left -/

/-- Steps that carry messages on leave less to do at the station of a post, and only the other side
    of the session brings more. -/
theorem Step.load_le (h : c.Step l a c') (hn : c.station.handler.Numbered)
    (houtside : a.isOutside = true) :
    a.carries.toNat + c'.station.load ≤ c.station.load + 6 * a.isScript.toNat := by
  cases h with
  | station hown hstep => exact Station.load_step hstep hn houtside
  | answer hlocking hstep => exact Station.load_step hstep hn rfl
  | fail hlocking hstep => exact Station.load_step hstep hn rfl
  | _ => exact Nat.le_of_eq (Nat.zero_add _)

theorem load_of_run (hpast : Run State.step? {} past c.station.handler) (h : Run (step? l) c more d)
    (houtside : ∀ e ∈ more, e.2.isOutside = true) :
    more.countP (·.2.carries) + d.station.load ≤
      c.station.load + 6 * more.countP (·.2.isScript) := by
  induction h with
  | refl => exact Nat.le_of_eq (Nat.zero_add _)
  | @step steps r a d hbefore now ih =>
    obtain ⟨hearlier, hlast⟩ := List.forall_mem_append.mp houtside
    have hrun := hpast.append (Station.run_inner (run_station hbefore))
    have hstep := (step_cases now).load_le (numbered_of_run hrun)
      (hlast _ (List.mem_singleton_self _))
    have hload := ih hearlier
    have hcount (p : Action → Bool) : (steps ++ [(r, a)]).countP (p ·.2) =
        steps.countP (p ·.2) + (p a).toNat := by
      cases hp : p a <;> simp [hp]
    rw [hcount, hcount]
    omega

end Post

/-! ### Posts of a fleet -/

namespace Fleet

variable {f : Fleet} {i j ticket : Nat} {c : Post Lock.Tree} {command : Command}

/-- The post of an instance. -/
def post? (f : Fleet) (i : Nat) : Option (Post Lock.Tree) :=
  f.instances[i]?.map fun inst => { station := inst.station, store := f.store, now := f.lockNow }

theorem station_startTimers (inst : Instance) (now : Nat) (action : Station.Action) :
    (inst.startTimers now action).station = inst.station := by
  unfold Instance.startTimers
  split <;> rfl

/-- When an instance acts, its station takes the step, if that is possible. -/
theorem post?_act (hpost : f.post? i = some c) (action : Station.Action) :
    (f.act i action).post? i =
      some { c with station := (c.station.step? action).getD c.station } := by
  obtain ⟨inst, hinst, rfl⟩ := Option.map_eq_some_iff.mp hpost
  have hlt := (List.getElem?_eq_some_iff.mp hinst).1
  unfold act
  cases hstep : inst.station.step? action with
  | none => simpa [hinst, hstep] using hpost
  | some station =>
    rw [hinst]
    dsimp only
    rw [hstep]
    simp [post?, hlt, station_startTimers]

/-- Nothing else changes. -/
theorem post?_act_of_ne (hne : i ≠ j) (action : Station.Action) :
    (f.act i action).post? j = f.post? j := by
  unfold act
  cases f.instances[i]? with
  | none => rfl
  | some inst =>
    dsimp only
    split
    · rfl
    · simp [post?, List.getElem?_set_ne hne]

/-- When the store answers an instance, its post takes the step. -/
theorem post?_answerLock (hworks : f.storeFails = false) (hpost : f.post? i = some c)
    (hlocking : c.station.handler.locking? ticket = some command) :
    (f.answerLock i ticket command).post? i = c.step? Lock.embedded (.answer ticket) := by
  obtain ⟨inst, hinst, rfl⟩ := Option.map_eq_some_iff.mp hpost
  obtain ⟨d, hd⟩ := Post.step?_of_locking (l := Lock.embedded) hlocking
  rw [hd]
  cases Post.step_cases hd with
  | @answer ticket found station hlocking' hstep =>
    obtain rfl := Option.some.inj (hlocking.symm.trans hlocking')
    unfold answerLock
    dsimp only
    rw [if_neg (by simp [hworks])]
    -- the store is as the call left it, and the station gets the answer
    have hstored (store : Lock.Tree) (calls : List LockCall) :
        post? { f with store, calls } i =
          some { station := inst.station, store, now := f.lockNow } := by
      simp [post?, hinst]
    refine (post?_act (hstored _ _) _).trans ?_
    exact congrArg (fun s? : Option Station => some
      ({ station := s?.getD inst.station, store := _, now := f.lockNow } : Post Lock.Tree)) hstep

/-- For the others, that is a call of somebody else. -/
theorem post?_answerLock_of_ne (hworks : f.storeFails = false) (hne : i ≠ j)
    (hpost : f.post? j = some c) :
    (f.answerLock i ticket command).post? j =
      c.step? Lock.embedded (.attempt (lockKey command) Lock.commandTtl) := by
  obtain ⟨inst, hinst, rfl⟩ := Option.map_eq_some_iff.mp hpost
  simp only [answerLock, hworks, Bool.false_eq_true, if_false]
  rw [post?_act_of_ne hne]
  simp [post?, hinst, Post.step?, Lock.embedded, lockKey]

end Fleet

end LoraBridge.Handler
