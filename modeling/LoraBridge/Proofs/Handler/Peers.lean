import LoraBridge.Proofs.Handler.Gate
import LoraBridge.Proofs.Lock.Register
import Mathlib.Control.Monad.Basic

/-! # Handlers that share a lock store

  Any number of handlers take their steps in any order. The tasks of all of them ask one store
  for the locks of their commands, and the store carries out each call at one instant, at some
  time between the question and the answer.

  - `Peers.step?` is what can happen.
  - `run_part`: what each of the handlers does is a run of its own, so that everything that is
    known of a single handler is true of each of them.
-/

namespace LoraBridge.Handler

/-- A call to the store, as it was carried out. -/
structure StoreCall where
  /-- The handler whose task asked. -/
  handler : Nat
  /-- The message of the task. -/
  ticket : Nat
  key : String
  time : Int
  answer : Except Lock.StoreError Bool

/-- Handlers and the store that they share. -/
structure Peers where
  handlers : List State
  store : Lock.Register
  now : Int
  /-- The calls that have been carried out, in order. -/
  calls : List StoreCall := []

namespace Peers

/-- What happens next. -/
inductive Action where
  /-- Time passes. -/
  | tick (ms : Nat)
  /-- A handler takes a step. -/
  | handler (i : Nat) (action : Handler.Action)
  /-- The store carries out the call of a task. -/
  | call (i ticket : Nat)
  /-- The store fails to, which leaves open whether it has taken the lock. -/
  | fail (i ticket : Nat) (error : Lock.StoreError) (taken : Bool)
deriving Repr

/-- The handlers in the beginning, with a store that may have been in use before. -/
def start (n : Nat) (store : Lock.Register) (now : Int) : Peers :=
  { handlers := List.replicate n {}, store, now }

/-- Whether a task has called the store. -/
def hasCalled (p : Peers) (i ticket : Nat) : Bool :=
  p.calls.any fun call => call.handler = i && call.ticket = ticket

/-- The key that a task has asked for, if its call has not been carried out. -/
def asking? (p : Peers) (i ticket : Nat) : Option String := do
  let s ← p.handlers[i]?
  let task ← s.task? ticket
  let .locking command := task.phase | none
  if p.hasCalled i ticket then none else some (lockKey command)

/-- Whether an action of a handler goes with the store: an answer must have been given. -/
def allows (p : Peers) (i : Nat) : Handler.Action → Bool
  | .lockReply ticket answer =>
    p.calls.any fun call =>
      call.handler = i && call.ticket = ticket && decide (call.answer = answer)
  | _ => true

/-- The peers after the store has carried out a call. -/
def carryOut (p : Peers) (i ticket : Nat) (key : String) (answer : Except Lock.StoreError Bool)
    (store : Lock.Register) : Peers :=
  { p with store, calls := p.calls ++ [{ handler := i, ticket, key, time := p.now, answer }] }

/-- The peers after an action, if the action is possible. -/
def step? (p : Peers) : Action → Option Peers
  | .tick ms => some { p with now := p.now + ms }
  | .handler i action => do
    let s ← p.handlers[i]?
    if p.allows i action then
      let s ← s.step? action
      some { p with handlers := p.handlers.set i s }
    else none
  | .call i ticket => do
    let key ← p.asking? i ticket
    let (won, store) := p.store.setIfAbsent p.now key Lock.commandTtl
    some (p.carryOut i ticket key (.ok won) store)
  | .fail i ticket error taken => do
    let key ← p.asking? i ticket
    let store := if taken then (p.store.setIfAbsent p.now key Lock.commandTtl).2 else p.store
    some (p.carryOut i ticket key (.error error) store)

/-! ### Steps by their cases -/

/-- What an action does to the peers, under which conditions. -/
inductive Step (p : Peers) : Action → Peers → Prop
  | tick (ms : Nat) : Step p (.tick ms) { p with now := p.now + ms }
  | handler {i : Nat} {action : Handler.Action} {s s' : State} (hi : p.handlers[i]? = some s)
    (hallows : p.allows i action = true) (hstep : s.step? action = some s') :
    Step p (.handler i action) { p with handlers := p.handlers.set i s' }
  -- the store
  | win {i ticket : Nat} {key : String} (hasking : p.asking? i ticket = some key)
    (hfree : p.store.isLive key p.now = false) :
    Step p (.call i ticket) (p.carryOut i ticket key (.ok true)
      (p.store.lock key (p.now + Lock.commandTtl.millis)))
  | lose {i ticket : Nat} {key : String} (hasking : p.asking? i ticket = some key)
    (hlive : p.store.isLive key p.now = true) :
    Step p (.call i ticket) (p.carryOut i ticket key (.ok false) p.store)
  | fail {i ticket : Nat} {key : String} (error : Lock.StoreError) (taken : Bool)
    (hasking : p.asking? i ticket = some key) :
    Step p (.fail i ticket error taken) (p.carryOut i ticket key (.error error) p.store)
  | failTaken {i ticket : Nat} {key : String} (error : Lock.StoreError)
    (hasking : p.asking? i ticket = some key) (hfree : p.store.isLive key p.now = false) :
    Step p (.fail i ticket error true) (p.carryOut i ticket key (.error error)
      (p.store.lock key (p.now + Lock.commandTtl.millis)))

variable {p p' : Peers} {a : Action}

theorem step_cases (h : p.step? a = some p') : p.Step a p' := by
  cases a with
  | tick ms =>
    obtain rfl := Option.some.inj h
    exact .tick ms
  | handler i action =>
    simp only [step?, Option.bind_eq_bind, Option.bind_eq_some_iff] at h
    obtain ⟨s, hi, h⟩ := h
    split at h
    · next hallows =>
      simp only [Option.bind_eq_some_iff, Option.some.injEq] at h
      obtain ⟨s', hstep, rfl⟩ := h
      exact .handler hi hallows hstep
    · simp at h
  | call i ticket =>
    simp only [step?, Option.bind_eq_bind, Option.bind_eq_some_iff, Option.some.injEq] at h
    obtain ⟨key, hasking, rfl⟩ := h
    cases hlive : p.store.isLive key p.now with
    | true =>
      rw [p.store.setIfAbsent_of_live hlive]
      exact .lose hasking hlive
    | false =>
      rw [p.store.setIfAbsent_of_not_live hlive]
      exact .win hasking hlive
  | fail i ticket error taken =>
    simp only [step?, Option.bind_eq_bind, Option.bind_eq_some_iff, Option.some.injEq] at h
    obtain ⟨key, hasking, rfl⟩ := h
    cases taken with
    | false => exact .fail error false hasking
    | true =>
      cases hlive : p.store.isLive key p.now with
      | true =>
        rw [p.store.setIfAbsent_of_live hlive]
        exact .fail error true hasking
      | false =>
        rw [p.store.setIfAbsent_of_not_live hlive]
        exact .failTaken error hasking hlive

/-- A task whose call can be carried out waits for its lock, and has not called before. -/
theorem asking?_eq_some {i ticket : Nat} {key : String} :
    p.asking? i ticket = some key ↔
      ∃ s task command, p.handlers[i]? = some s ∧ s.task? ticket = some task ∧
        task.phase = .locking command ∧ p.hasCalled i ticket = false ∧ lockKey command = key := by
  simp only [asking?, Option.bind_eq_bind, Option.bind_eq_some_iff]
  constructor
  · rintro ⟨s, hi, task, htask, h⟩
    cases hphase : task.phase with
    | locking command =>
      simp only [hphase] at h
      split at h
      · simp at h
      · next hcalled =>
        exact ⟨s, task, command, hi, htask, hphase, by simpa using hcalled, Option.some.inj h⟩
    | _ => simp [hphase] at h
  · rintro ⟨s, task, command, hi, htask, hphase, hcalled, rfl⟩
    exact ⟨s, hi, task, htask, by simp [hphase, hcalled]⟩

/-! ### What each of them does -/

/-- What is written down of a step, and by which handler. -/
def entries (p : Peers) : Action → List (Nat × Entry)
  | .handler i action =>
    match p.handlers[i]? with
    | some s => (s.entries action).map (i, ·)
    | none => []
  | _ => []

/-- What is written down of a run. -/
def record (steps : List (Peers × Action)) : List (Nat × Entry) :=
  steps.flatMap fun e => e.1.entries e.2

/-- The step of one handler, if an action is one. -/
def part? (i : Nat) (e : Peers × Action) : Option (State × Handler.Action) :=
  match e.2 with
  | .handler j action => if j = i then e.1.handlers[i]?.map (·, action) else none
  | _ => none

/-- The steps of one handler in a run of all. -/
def part (i : Nat) (steps : List (Peers × Action)) : List (State × Handler.Action) :=
  steps.filterMap (part? i)

variable {steps : List (Peers × Action)} {i : Nat}

@[simp] theorem record_append (more : List (Peers × Action)) :
    record (steps ++ more) = record steps ++ record more := by
  simp [record]

@[simp] theorem record_single : record [(p, a)] = p.entries a := by
  simp [record]

theorem part_append (more : List (Peers × Action)) :
    part i (steps ++ more) = part i steps ++ part i more := by
  simp [part]

theorem entries_of_some {action : Handler.Action} {s : State} (hi : p.handlers[i]? = some s) :
    p.entries (.handler i action) = (s.entries action).map (i, ·) := by
  simp only [entries, hi]

theorem part_self {action : Handler.Action} {s : State} (hi : p.handlers[i]? = some s) :
    part i [(p, .handler i action)] = [(s, action)] := by
  simp [part, part?, hi]

/-- A step of another handler is none of this one's. -/
theorem part_other {j : Nat} {action : Handler.Action} (hj : j ≠ i) :
    part i [(p, .handler j action)] = [] := by
  simp [part, part?, hj]

/-- What a handler writes down in a step of all is what it writes down in its own step. -/
theorem record_part_single :
    Handler.record (part i [(p, a)]) =
      (p.entries a).filterMap fun e => if e.1 = i then some e.2 else none := by
  cases a with
  | handler j action =>
    by_cases hj : j = i
    · subst hj
      cases hs : p.handlers[j]? with
      | none => simp [part, part?, entries, hs]
      | some s => rw [part_self hs, entries_of_some hs, filterMap_numbered, if_pos rfl,
          Handler.record_single]
    · rw [part_other hj, Handler.record_nil]
      cases hs : p.handlers[j]? with
      | none => simp [entries, hs]
      | some s => rw [entries_of_some hs, filterMap_numbered, if_neg hj]
  | _ => rfl

/-- The record of a handler is its part of the record of all. -/
theorem record_part (steps : List (Peers × Action)) (i : Nat) :
    Handler.record (part i steps) =
      (record steps).filterMap fun e => if e.1 = i then some e.2 else none := by
  induction steps with
  | nil => rfl
  | cons e steps ih =>
    rw [← List.singleton_append, part_append, Handler.record_append, record_append,
      List.filterMap_append, ih, record_part_single, record_single]

theorem mem_record_part {e : Entry} :
    e ∈ Handler.record (part i steps) ↔ (i, e) ∈ record steps := by
  rw [record_part, List.mem_filterMap]
  constructor
  · rintro ⟨⟨j, f⟩, hmem, heq⟩
    split at heq
    · next hj =>
      obtain rfl := Option.some.inj heq
      exact hj ▸ hmem
    · simp at heq
  · intro hmem
    exact ⟨(i, e), hmem, by simp⟩

/-- What a handler has written down about a message is in the record of all. -/
theorem mem_record_of_about {e : Entry} {t : Nat}
    (h : e ∈ about t (Handler.record (part i steps))) : (i, e) ∈ record steps :=
  mem_record_part.mp ((about_sublist t _).subset h)

theorem mem_about_part {e : Entry} {t : Nat} (h : (i, e) ∈ record steps)
    (ht : e.ticket? = some t) : e ∈ about t (Handler.record (part i steps)) :=
  mem_about (mem_record_part.mpr h) ht

/-- What a handler does among others is a run of its own. -/
theorem run_part {n : Nat} {store : Lock.Register} {now : Int}
    (h : Run step? (start n store now) steps p) (i : Nat) :
    Run State.step? {} (part i steps) (p.handlers[i]?.getD {}) := by
  induction h with
  | refl =>
    have hstart : (start n store now).handlers[i]?.getD {} = {} := by
      rw [start, List.getElem?_replicate]
      split <;> rfl
    rw [hstart]
    exact .refl
  | @step steps p a p' _ now ih =>
    rw [part_append]
    cases step_cases now with
    | @handler j action s s' hj hallows hstep =>
      by_cases hji : j = i
      · subst hji
        have hlt : j < p.handlers.length := (List.getElem?_eq_some_iff.mp hj).1
        rw [hj] at ih
        rw [part_self hj, List.getElem?_set_self hlt]
        exact .step ih hstep
      · rw [part_other hji, List.append_nil, List.getElem?_set_ne hji]
        exact ih
    | _ =>
      -- time and the store leave every handler alone
      exact (List.append_nil (part i steps)).symm ▸ ih

end Peers

end LoraBridge.Handler
