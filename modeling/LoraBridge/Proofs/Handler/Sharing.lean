import LoraBridge.Proofs.Handler.Peers

/-! # One of many forwards a command

  Every handler receives every command, and its lock decides who forwards it. What makes this work
  is that a lock that was won stays locked for as long as it lives (`Peers.Held`), and that a
  handler forwards nothing without having won.

  - `Peers.Held.step`: this is so after every step.
  - `Peers.call_of_answered`, `Peers.asked_of_call`: what the store has carried out and what the
    handlers have written down fit together.
  - `Peers.queuesKept_of_run`: what is written down as forwarded was on a queue.
  - `Peers.copies_forwarded_once`: of what is forwarded under one key, the locks were won a
    lifetime apart; and of copies that ask within one lifetime, exactly one is forwarded.
-/

namespace LoraBridge.Handler.Peers

open Lock (commandTtl)

variable {p p' : Peers} {a : Action} {steps : List (Peers × Action)} {i t : Nat}

/-! ### Locks that were won -/

/-- What the calls that were carried out say about the store. -/
structure Held (p : Peers) : Prop where
  /-- No call was carried out in the future. -/
  past : ∀ x ∈ p.calls, x.time ≤ p.now
  /-- What was won is locked as long as it lives, if not longer. -/
  locked : ∀ x ∈ p.calls, x.answer = .ok true →
    ∃ deadline, p.store.deadline? x.key = some deadline ∧ x.time + commandTtl.millis ≤ deadline
  /-- No key is won again before that time. -/
  apart : p.calls.Pairwise fun x y : StoreCall => x.answer = .ok true → y.answer = .ok true →
    x.key = y.key → x.time + commandTtl.millis ≤ y.time
  /-- Every task calls once. -/
  once : p.calls.Pairwise fun x y : StoreCall => x.handler = y.handler → x.ticket ≠ y.ticket

theorem Held.start (n : Nat) (store : Lock.Register) (now : Int) :
    (Peers.start n store now).Held := by
  constructor <;> simp [Peers.start]

/-- A key that is free was won a lifetime ago, if ever. -/
theorem Held.le_now (hp : p.Held) {x : StoreCall} (hx : x ∈ p.calls)
    (hwon : x.answer = .ok true) (hfree : p.store.isLive x.key p.now = false) :
    x.time + commandTtl.millis ≤ p.now := by
  obtain ⟨deadline, hdeadline, hle⟩ := hp.locked x hx hwon
  have hpassed : ¬ p.now < deadline := fun hlt =>
    Bool.eq_false_iff.mp hfree (p.store.isLive_iff.mpr ⟨deadline, hdeadline, hlt⟩)
  omega

/-- Locking a key that is free leaves everything locked that was won. -/
theorem Held.locked_lock (hp : p.Held) {key : String} (hfree : p.store.isLive key p.now = false)
    {x : StoreCall} (hx : x ∈ p.calls) (hwon : x.answer = .ok true) :
    ∃ deadline, (p.store.lock key (p.now + commandTtl.millis)).deadline? x.key = some deadline ∧
      x.time + commandTtl.millis ≤ deadline := by
  by_cases hkey : x.key = key
  · subst hkey
    have hle := hp.le_now hx hwon hfree
    refine ⟨_, p.store.deadline?_lock_self _, ?_⟩
    omega
  · rw [p.store.deadline?_lock_of_ne _ hkey]
    exact hp.locked x hx hwon

/-- A call that is carried out must not unlock what was won, and has to be late if it wins. -/
theorem Held.carryOut (hp : p.Held) {key : String} {answer : Except Lock.StoreError Bool}
    {store : Lock.Register} (hasking : p.asking? i t = some key)
    (hkept : ∀ x ∈ p.calls, x.answer = .ok true → ∃ deadline,
      store.deadline? x.key = some deadline ∧ x.time + commandTtl.millis ≤ deadline)
    (hnew : answer = .ok true →
      p.store.isLive key p.now = false ∧
        ∃ deadline, store.deadline? key = some deadline ∧ p.now + commandTtl.millis ≤ deadline) :
    (p.carryOut i t key answer store).Held := by
  constructor
  · intro x hx
    rcases List.mem_append.mp hx with hx | hx
    · exact hp.past x hx
    · obtain rfl := List.mem_singleton.mp hx
      exact Int.le_refl _
  · -- what was won before stays locked, and what is won now is locked from now on
    intro x hx hwon
    rcases List.mem_append.mp hx with hx | hx
    · exact hkept x hx hwon
    · obtain rfl := List.mem_singleton.mp hx
      exact (hnew hwon).2
  · -- whoever wins has found the key free
    refine List.pairwise_append.mpr ⟨hp.apart, List.pairwise_singleton _ _, ?_⟩
    intro x hx y hy hxwon hywon hkey
    obtain rfl := List.mem_singleton.mp hy
    exact hp.le_now hx hxwon (hkey ▸ (hnew hywon).1)
  · -- whoever has called does not ask again
    refine List.pairwise_append.mpr ⟨hp.once, List.pairwise_singleton _ _, ?_⟩
    intro x hx y hy hhandler hticket
    obtain rfl := List.mem_singleton.mp hy
    obtain ⟨_, _, _, _, _, _, hcalled, _⟩ := asking?_eq_some.mp hasking
    have hnone := List.any_eq_false.mp hcalled x hx
    simp [hhandler, hticket] at hnone

theorem Held.step (hp : p.Held) (h : p.Step a p') : p'.Held := by
  cases h with
  | tick ms =>
    refine ⟨?_, hp.locked, hp.apart, hp.once⟩
    intro x hx
    have hpast := hp.past x hx
    show x.time ≤ p.now + ms
    omega
  | handler hi hallows hstep => exact ⟨hp.past, hp.locked, hp.apart, hp.once⟩
  | win hasking hfree =>
    refine hp.carryOut hasking (fun x => hp.locked_lock hfree) fun _ => ⟨hfree, ?_⟩
    exact ⟨_, p.store.deadline?_lock_self _, Int.le_refl _⟩
  | lose hasking hlive => exact hp.carryOut hasking hp.locked fun hwon => by simp at hwon
  | fail error taken hasking => exact hp.carryOut hasking hp.locked fun hwon => by simp at hwon
  | failTaken error hasking hfree =>
    exact hp.carryOut hasking (fun x => hp.locked_lock hfree) fun hwon => by simp at hwon

theorem held_of_run {n : Nat} {store : Lock.Register} {now : Int}
    (h : Run step? (start n store now) steps p) : p.Held :=
  h.invariant (Held.start n store now) fun hp now => hp.step (step_cases now)

/-! ### Calls and the records of handlers -/

section

variable {n : Nat} {store : Lock.Register} {now : Int}

/-- A handler only gets answers that the store has given. -/
theorem call_of_answered (h : Run step? (start n store now) steps p)
    {answer : Except Lock.StoreError Bool} (hmem : (i, .answered t answer) ∈ record steps) :
    ∃ x ∈ p.calls, x.handler = i ∧ x.ticket = t ∧ x.answer = answer := by
  induction h with
  | refl => cases hmem
  | @step steps p a p' _ now ih =>
    rw [record_append, record_single, List.mem_append] at hmem
    cases step_cases now with
    | @handler j action s s' hj hallows hstep =>
      rcases hmem with hmem | hmem
      · exact ih hmem
      · simp only [entries, hj, List.mem_map, Prod.mk.injEq, exists_eq_right_right] at hmem
        obtain ⟨hmem, rfl⟩ := hmem
        -- the handler was allowed to get this answer, so there is a call that it comes from
        obtain rfl := (State.step_cases hstep).eq_lockReply hmem
        simpa [allows, and_assoc] using hallows
    | tick ms => exact ih (by simpa [entries] using hmem)
    | win | lose | fail | failTaken =>
      obtain ⟨x, hx, hcall⟩ := ih (by simpa [entries] using hmem)
      exact ⟨x, List.mem_append_left _ hx, hcall⟩

/-- A task whose call can be carried out has asked for the lock of its key. -/
theorem asked_of_asking (h : Run step? (start n store now) steps p) {key : String}
    (hasking : p.asking? i t = some key) : (i, .asked t key) ∈ record steps := by
  obtain ⟨s, task, command, hi, htask, hphase, -, rfl⟩ := asking?_eq_some.mp hasking
  have hstory := story_of_run (run_part h i) t
  rw [hi, Option.getD_some, State.place_of_task htask] at hstory
  exact mem_record_of_about (hstory.asked_of_locking hphase)

/-- The store carries out what tasks have asked for. -/
theorem asked_of_call (h : Run step? (start n store now) steps p) {x : StoreCall}
    (hx : x ∈ p.calls) : (x.handler, .asked x.ticket x.key) ∈ record steps := by
  induction h with
  | refl => cases hx
  | @step steps p a p' hbefore now ih =>
    rw [record_append]
    apply List.mem_append_left
    cases step_cases now with
    | tick | handler => exact ih hx
    | win hasking | lose hasking | fail _ _ hasking | failTaken _ hasking =>
      rcases List.mem_append.mp hx with hx | hx
      · exact ih hx
      · obtain rfl := List.mem_singleton.mp hx
        exact asked_of_asking hbefore hasking

/-- Every call was carried out in a step, after those before it. -/
theorem step_of_call (h : Run step? (start n store now) steps p) {before after : List StoreCall}
    {x : StoreCall} (hx : p.calls = before ++ x :: after) :
    ∃ q a q', (q, a) ∈ steps ∧ q.Step a q' ∧ q.calls = before ∧ q'.calls = before ++ [x] := by
  induction h generalizing after with
  | refl => simp [start] at hx
  | @step steps p a p' _ now ih =>
    have hstep := step_cases now
    -- a step adds one call at most
    have hcalls : p'.calls = p.calls ∨ ∃ y, p'.calls = p.calls ++ [y] := by
      cases hstep with
      | tick | handler => exact .inl rfl
      | win | lose | fail | failTaken => exact .inr ⟨_, rfl⟩
    rcases hcalls with hsame | ⟨y, hmore⟩
    · obtain ⟨q, b, q', hmem, hq⟩ := ih (hsame ▸ hx)
      exact ⟨q, b, q', List.mem_append_left _ hmem, hq⟩
    · -- the call that we look for is the one that was added, or one of those before
      rcases List.eq_nil_or_concat after with rfl | ⟨after, z, rfl⟩
      · rw [hmore] at hx
        obtain ⟨hbefore, hlast⟩ := List.append_inj' hx rfl
        refine ⟨p, a, p', List.mem_append_right _ (List.mem_singleton_self _), hstep, hbefore, ?_⟩
        rw [hmore, hbefore, hlast]
      · rw [hmore, List.concat_eq_append, ← List.cons_append, ← List.append_assoc] at hx
        obtain ⟨q, b, q', hmem, hq⟩ := ih (List.append_inj' hx rfl).1
        exact ⟨q, b, q', List.mem_append_left _ hmem, hq⟩

/-- A call is for the key that its task has asked for. -/
theorem key_of_call (h : Run step? (start n store now) steps p) {x : StoreCall} (hx : x ∈ p.calls)
    {key : String} (hasked : (x.handler, .asked x.ticket key) ∈ record steps) : x.key = key := by
  have hstory := story_of_run (run_part h x.handler) x.ticket
  exact hstory.asked_unique (mem_about_part (asked_of_call h hx) rfl) (mem_about_part hasked rfl)

end

/-- Of two things in a list, one comes before the other. -/
theorem rel_of_pairwise {α : Type} {R : α → α → Prop} {l : List α} (h : l.Pairwise R) {x y : α}
    (hx : x ∈ l) (hy : y ∈ l) : x = y ∨ R x y ∨ R y x := by
  induction h with
  | nil => cases hx
  | @cons z l hz _ ih =>
    rcases List.mem_cons.mp hx with hxz | hxl <;> rcases List.mem_cons.mp hy with hyz | hyl
    · exact .inl (hxz.trans hyz.symm)
    · exact .inr (.inl (hxz ▸ hz y hyl))
    · exact .inr (.inr (hyz ▸ hz x hxl))
    · exact ih hxl hyl

theorem Held.eq_of_ticket (hp : p.Held) {x y : StoreCall} (hx : x ∈ p.calls) (hy : y ∈ p.calls)
    (hhandler : x.handler = y.handler) (hticket : x.ticket = y.ticket) : x = y := by
  rcases rel_of_pairwise hp.once hx hy with heq | hne | hne
  · exact heq
  · exact absurd hticket (hne hhandler)
  · exact absurd hticket.symm (hne hhandler.symm)

/-- Two calls that won a key lie a lifetime apart. -/
theorem Held.apart_of_ne (hp : p.Held) {x y : StoreCall} (hx : x ∈ p.calls) (hy : y ∈ p.calls)
    (hne : x ≠ y) (hxwon : x.answer = .ok true) (hywon : y.answer = .ok true)
    (hkey : x.key = y.key) :
    x.time + commandTtl.millis ≤ y.time ∨ y.time + commandTtl.millis ≤ x.time := by
  rcases rel_of_pairwise hp.apart hx hy with heq | hle | hle
  · exact absurd heq hne
  · exact .inl (hle hxwon hywon hkey)
  · exact .inr (hle hywon hxwon hkey.symm)

/-! ### What is forwarded -/

/-- A command that a handler has put on its queue. -/
structure Forwarding where
  handler : Nat
  ticket : Nat
  command : Command

/-- The command that an entry says was put on a queue. -/
def forwarding? : Nat × Entry → Option Forwarding
  | (handler, .forwarded ticket command) => some { handler, ticket, command }
  | _ => none

/-- What has been put on the queues, in order. -/
def forwarded (steps : List (Peers × Action)) : List Forwarding :=
  (record steps).filterMap forwarding?

/-- Whether a call has won the lock for what was forwarded. -/
structure Forwarding.WonBy (f : Forwarding) (x : StoreCall) : Prop where
  handler : x.handler = f.handler
  ticket : x.ticket = f.ticket
  key : x.key = lockKey f.command
  answer : x.answer = .ok true

theorem mem_forwarded {f : Forwarding} :
    f ∈ forwarded steps ↔ (f.handler, .forwarded f.ticket f.command) ∈ record steps := by
  rw [forwarded, List.mem_filterMap]
  constructor
  · rintro ⟨⟨handler, e⟩, hmem, hf⟩
    cases e with
    | forwarded ticket command =>
      obtain rfl := Option.some.inj hf
      exact hmem
    | _ => simp [forwarding?] at hf
  · intro hmem
    exact ⟨_, hmem, rfl⟩

/-- What one handler has put on its queue. -/
theorem forwarded_part (steps : List (Peers × Action)) (i : Nat) :
    ((forwarded steps).filter (·.handler = i)).map (fun f => (f.ticket, f.command)) =
      (Handler.record (part i steps)).filterMap Entry.forwarded? := by
  rw [record_part, forwarded, List.filter_filterMap, List.map_filterMap, List.filterMap_filterMap]
  congr 1
  funext ⟨j, e⟩
  cases e with
  | forwarded ticket command =>
    by_cases hj : j = i
    · subst hj
      simp [forwarding?, Entry.forwarded?, Option.filter]
    · simp [forwarding?, hj]
  | _ => by_cases hj : j = i <;> simp [forwarding?, hj, Entry.forwarded?]

/-- Whether what is written down of the queues is what became of them. What a handler has put on its
    queue has been taken from it in the same order, or is there still. -/
def QueuesKept (steps : List (Peers × Action)) (p : Peers) : Prop :=
  ∀ i s, p.handlers[i]? = some s →
    ((forwarded steps).filter (·.handler = i)).map (fun f => (f.ticket, f.command)) =
      (Handler.record (part i steps)).filterMap Entry.taken? ++ s.queue

section

variable {n : Nat} {store : Lock.Register} {now : Int}

theorem queuesKept_of_run (h : Run step? (start n store now) steps p) : QueuesKept steps p := by
  intro i s hi
  have hrun : Run State.step? {} (part i steps) s := by simpa [hi] using run_part h i
  rw [forwarded_part]
  exact forwarded_eq hrun

/-- No handler puts a message's command on its queue twice. -/
theorem forwarded_once (h : Run step? (start n store now) steps p) :
    (forwarded steps).Pairwise fun f g : Forwarding =>
      f.handler = g.handler → f.ticket ≠ g.ticket := by
  have hparts : ∀ i, (((forwarded steps).filter (·.handler = i)).map (·.ticket)).Nodup := by
    intro i
    have hnodup := nodup_forwarded (run_part h i)
    rwa [← forwarded_part, List.map_map] at hnodup
  generalize forwarded steps = l at hparts
  induction l with
  | nil => exact .nil
  | cons f l ih =>
    refine List.pairwise_cons.mpr ⟨?_, ih fun i => ?_⟩
    · intro g hg hhandler hticket
      have hnodup := hparts f.handler
      rw [List.filter_cons_of_pos (by simp), List.map_cons] at hnodup
      apply (List.nodup_cons.mp hnodup).1
      rw [hticket]
      exact List.mem_map_of_mem (List.mem_filter.mpr ⟨hg, by simp [hhandler]⟩)
    · exact (hparts i).sublist (((List.sublist_cons_self f l).filter _).map _)

/-- Where no two things of a message are, a filter that lets only that message through keeps
    one thing at most. -/
theorem filter_eq_singleton {l : List Forwarding} {f : Forwarding} {copies : List (Nat × Nat)}
    (h : l.Pairwise fun f g => f.handler = g.handler → f.ticket ≠ g.ticket) (hf : f ∈ l)
    (hcopy : (f.handler, f.ticket) ∈ copies)
    (honly : ∀ g ∈ l, (g.handler, g.ticket) ∈ copies →
      g.handler = f.handler ∧ g.ticket = f.ticket) :
    l.filter (fun g => (g.handler, g.ticket) ∈ copies) = [f] := by
  have hmem : f ∈ l.filter fun g => (g.handler, g.ticket) ∈ copies :=
    List.mem_filter.mpr ⟨hf, by simpa using hcopy⟩
  have hsame : ∀ g ∈ l.filter (fun g => (g.handler, g.ticket) ∈ copies), g.handler = f.handler ∧
      g.ticket = f.ticket := fun g hg =>
    honly g (List.mem_filter.mp hg).1 (by simpa using (List.mem_filter.mp hg).2)
  have hpair := h.filter fun g => (g.handler, g.ticket) ∈ copies
  cases hl : l.filter fun g => (g.handler, g.ticket) ∈ copies with
  | nil => simp [hl] at hmem
  | cons g rest =>
    rw [hl] at hmem hsame hpair
    have hrest : rest = [] := by
      apply List.eq_nil_iff_forall_not_mem.mpr
      intro k hk
      obtain ⟨hg, hg'⟩ := hsame g (List.mem_cons_self ..)
      obtain ⟨hk', hk''⟩ := hsame k (List.mem_cons_of_mem _ hk)
      exact (List.pairwise_cons.mp hpair).1 k hk (hg.trans hk'.symm) (hg'.trans hk''.symm)
    subst hrest
    rw [List.mem_singleton.mp hmem]

/-- Whatever is forwarded was won. -/
theorem exists_wonBy (h : Run step? (start n store now) steps p) {f : Forwarding}
    (hf : f ∈ forwarded steps) : ∃ x ∈ p.calls, f.WonBy x := by
  have hmem := mem_about_part (mem_forwarded.mp hf) rfl
  have hstory := story_of_run (run_part h f.handler) f.ticket
  obtain ⟨topic, payload, -, hbegin⟩ := hstory.of_forwarded hmem
  -- its message asked for the lock and was answered, as the record says
  have hrecord : ∀ e ∈ granted f.ticket topic payload f.command,
      (f.handler, e) ∈ record steps := fun e he =>
    mem_record_of_about (hbegin.subset (List.mem_append_left _ he))
  obtain ⟨x, hx, hhandler, hticket, hanswer⟩ :=
    call_of_answered h (hrecord (.answered f.ticket (.ok true)) (by simp [granted]))
  have hasked := hrecord (.asked f.ticket (lockKey f.command)) (by simp [granted])
  rw [← hhandler, ← hticket] at hasked
  exact ⟨x, hx, hhandler, hticket, key_of_call h hx hasked, hanswer⟩

/-! ### Copies -/

/-- Copies of one command, each given by a handler and a ticket, that ask for its lock at about
    the same time. -/
structure Copies (steps : List (Peers × Action)) (p : Peers) (copies : List (Nat × Nat))
    (command : Command) : Prop where
  nonempty : copies ≠ []
  /-- Each of them is a message with this command. -/
  delivered : ∀ m ∈ copies, ∃ topic payload, (m.1, .accepted m.2 topic payload) ∈ record steps ∧
    judge topic payload = .command command
  /-- When the store is called for the first of them, the lock is free. -/
  free : ∀ q i t, (q, .call i t) ∈ steps → (i, t) ∈ copies →
    (∀ y ∈ q.calls, (y.handler, y.ticket) ∉ copies) →
    q.store.isLive (lockKey command) q.now = false
  /-- The store is called for all of them while the lock that it grants first is alive. -/
  close : ∀ x ∈ p.calls, ∀ y ∈ p.calls, (x.handler, x.ticket) ∈ copies →
    (y.handler, y.ticket) ∈ copies → y.time < x.time + commandTtl.millis
  /-- The store does not fail. -/
  answered : ∀ x ∈ p.calls, ∃ won, x.answer = .ok won
  /-- All tasks have finished. -/
  finished : ∀ s ∈ p.handlers, s.inFlight = 0
  /-- All network servers still receive. -/
  received : ∀ s ∈ p.handlers, s.receiver = true

variable {copies : List (Nat × Nat)} {command : Command}

/-- Each copy has called the store, and was forwarded if it won. -/
theorem Copies.called (hc : Copies steps p copies command)
    (h : Run step? (start n store now) steps p) (hcopy : (i, t) ∈ copies) :
    ∃ x ∈ p.calls, x.handler = i ∧ x.ticket = t ∧ x.key = lockKey command ∧
      (x.answer = .ok true → ⟨i, t, command⟩ ∈ forwarded steps) := by
  obtain ⟨topic, payload, haccepted, hjudge⟩ := hc.delivered (i, t) hcopy
  have hrun := run_part h i
  have hstory := story_of_run hrun t
  have haccepted := mem_about_part haccepted rfl
  have hidle : (p.handlers[i]?.getD {}).inFlight = 0 ∧
      (p.handlers[i]?.getD {}).receiver = true := by
    cases hi : p.handlers[i]? with
    | none => exact ⟨rfl, rfl⟩
    | some s =>
      have hmem := List.mem_of_getElem? hi
      exact ⟨hc.finished s hmem, hc.received s hmem⟩
  -- nothing is in flight, so that the message has come to its end
  have hplace := State.place_of_idle hidle.1 t
  obtain ⟨hasked, hend⟩ := hstory.of_done hplace haccepted hjudge
  rcases hend with ⟨answer, hanswer, hanswered⟩ | ⟨hanswered, hforwarded | hdiscarded⟩
  · obtain ⟨x, hx, rfl, rfl, rfl⟩ := call_of_answered h (mem_record_of_about hanswered)
    exact ⟨x, hx, rfl, rfl, key_of_call h hx (mem_record_of_about hasked),
      fun hwon => absurd hwon hanswer⟩
  · obtain ⟨x, hx, rfl, rfl, -⟩ := call_of_answered h (mem_record_of_about hanswered)
    exact ⟨x, hx, rfl, rfl, key_of_call h hx (mem_record_of_about hasked),
      fun _ => mem_forwarded.mpr (mem_record_of_about hforwarded)⟩
  · -- while the network server receives, nothing is discarded
    exact absurd ((about_sublist t _).subset hdiscarded) (not_discarded hrun hidle.2 t command).1

/-- The first copy for which the store is called wins. -/
theorem Copies.exists_won (hc : Copies steps p copies command)
    (h : Run step? (start n store now) steps p) :
    ∃ x ∈ p.calls, (x.handler, x.ticket) ∈ copies ∧ x.answer = .ok true := by
  obtain ⟨⟨i, t⟩, hcopy⟩ := List.exists_mem_of_ne_nil copies hc.nonempty
  obtain ⟨y, hy, rfl, rfl, -, -⟩ := hc.called h hcopy
  have hfound : (p.calls.find? fun x => (x.handler, x.ticket) ∈ copies).isSome := by
    rw [List.find?_isSome]
    exact ⟨y, hy, by simpa using hcopy⟩
  obtain ⟨x, hfind⟩ := Option.isSome_iff_exists.mp hfound
  obtain ⟨hx, before, after, hsplit, hnone⟩ := List.find?_eq_some_iff_append.mp hfind
  have hmem : x ∈ p.calls := List.mem_of_find?_eq_some hfind
  have hx : (x.handler, x.ticket) ∈ copies := by simpa using hx
  have hnone : ∀ y ∈ before, (y.handler, y.ticket) ∉ copies := by simpa using hnone
  refine ⟨x, hmem, hx, ?_⟩
  -- the store was called for no copy before, so it finds the lock free and does not fail
  obtain ⟨x', hx', hhandler, hticket, hkey, -⟩ := hc.called h hx
  obtain rfl := (held_of_run h).eq_of_ticket hx' hmem hhandler hticket
  obtain ⟨won, hanswer⟩ := hc.answered x' hmem
  obtain ⟨q, a, q', hstep, hcase, hbefore, hafter⟩ := step_of_call h hsplit
  have hlast : ∀ y, q.calls ++ [y] = before ++ [x'] → y = x' := fun y heq => by
    simpa using (List.append_inj' heq rfl).2
  cases hcase with
  | tick | handler => simp [hbefore] at hafter
  | win hasking hfree =>
    obtain rfl := hlast _ hafter
    rfl
  | @lose i t key hasking hlive =>
    obtain rfl := hlast _ hafter
    have hfree := hc.free q i t hstep hx (hbefore ▸ hnone)
    rw [← hkey] at hfree
    exact absurd hlive (by simpa using hfree)
  | fail | failTaken =>
    obtain rfl := hlast _ hafter
    simp at hanswer

/-- A copy that is forwarded is the one that won. -/
theorem Copies.of_forwarded (hc : Copies steps p copies command)
    (h : Run step? (start n store now) steps p) {x : StoreCall} (hx : x ∈ p.calls)
    (hcopy : (x.handler, x.ticket) ∈ copies) (hwon : x.answer = .ok true) {g : Forwarding}
    (hg : g ∈ forwarded steps) (hgcopy : (g.handler, g.ticket) ∈ copies) :
    g.handler = x.handler ∧ g.ticket = x.ticket := by
  have hheld := held_of_run h
  obtain ⟨y, hy, hgy⟩ := exists_wonBy h hg
  have hycopy : (y.handler, y.ticket) ∈ copies := by
    rw [hgy.handler, hgy.ticket]
    exact hgcopy
  have hkey : ∀ z ∈ p.calls, (z.handler, z.ticket) ∈ copies → z.key = lockKey command := by
    intro z hz hzcopy
    obtain ⟨z', hz', hhandler, hticket, hkey, -⟩ := hc.called h hzcopy
    rw [← hheld.eq_of_ticket hz' hz hhandler hticket]
    exact hkey
  by_cases hxy : x = y
  · subst hxy
    exact ⟨hgy.handler.symm, hgy.ticket.symm⟩
  · -- two copies that won would lie a lifetime apart
    have hclose := hc.close x hx y hy hcopy hycopy
    have hclose' := hc.close y hy x hx hycopy hcopy
    have hapart := hheld.apart_of_ne hx hy hxy hwon hgy.answer
      ((hkey x hx hcopy).trans (hkey y hy hycopy).symm)
    omega

/-- Of any two commands that were forwarded for one device under one reference, by whichever
    handlers, the locks were won a lifetime apart. And of copies that ask for the lock within one
    lifetime exactly one is forwarded. To be forwarded is to have been put on the queue of a
    handler. -/
theorem copies_forwarded_once (h : Run step? (start n store now) steps p) :
    QueuesKept steps p ∧
      (∀ f ∈ forwarded steps, ∃ x ∈ p.calls, f.WonBy x) ∧
      ((forwarded steps).Pairwise fun f g : Forwarding =>
        f.command.device = g.command.device → f.command.reference = g.command.reference →
          ∀ x ∈ p.calls, ∀ y ∈ p.calls, f.WonBy x → g.WonBy y →
            x.time + commandTtl.millis ≤ y.time ∨ y.time + commandTtl.millis ≤ x.time) ∧
      ∀ copies command, Copies steps p copies command →
        ∃ f, (forwarded steps).filter (fun f => (f.handler, f.ticket) ∈ copies) = [f] ∧
          f.command = command := by
  have hheld := held_of_run h
  refine ⟨queuesKept_of_run h, fun f hf => exists_wonBy h hf, ?_, ?_⟩
  · refine (forwarded_once h).imp ?_
    intro f g hne hdevice hreference x hx y hy hfx hgy
    have hkey : x.key = y.key := by
      rw [hfx.key, hgy.key, lockKey, lockKey, hdevice, hreference]
    -- two messages never share a call
    have hxy : x ≠ y := by
      rintro rfl
      exact hne (hfx.handler.symm.trans hgy.handler) (hfx.ticket.symm.trans hgy.ticket)
    exact hheld.apart_of_ne hx hy hxy hfx.answer hgy.answer hkey
  · intro copies command hc
    obtain ⟨x, hx, hcopy, hwon⟩ := hc.exists_won h
    obtain ⟨x', hx', hhandler, hticket, -, hforwarded⟩ := hc.called h hcopy
    obtain rfl := hheld.eq_of_ticket hx' hx hhandler hticket
    refine ⟨⟨x'.handler, x'.ticket, command⟩, ?_, rfl⟩
    exact filter_eq_singleton (forwarded_once h) (hforwarded hwon) hcopy
      fun g hg hgcopy => hc.of_forwarded h hx hcopy hwon hg hgcopy

end

/-! ### An example -/

/-- A command arrives at two handlers. The store is called for the second of them, and almost a
    lifetime later for the first. -/
def twoHandlers : List Action :=
  [.handler 0 (.dispatch (.message sampleTopic samplePayload)),
    .handler 1 (.dispatch (.message sampleTopic samplePayload)),
    .handler 0 (.judge 0), .handler 1 (.judge 0), .call 1 0, .tick 99, .call 0 0,
    .handler 0 (.lockReply 0 (.ok false)), .handler 1 (.lockReply 0 (.ok true)),
    .handler 1 (.queueUp 0), .handler 1 .send]

theorem copies_forwarded_once_twoHandlers :
    ∃ steps p, Run step? (start 2 ⟨fun _ => none⟩ 0) steps p ∧
      Copies steps p [(0, 0), (1, 0)] sampleCommand ∧
      ∃ f, (forwarded steps).filter (fun f => (f.handler, f.ticket) ∈ [(0, 0), (1, 0)]) = [f] ∧
        f.command = sampleCommand := by
  have hcomputed : (Run.steps? step? (start 2 ⟨fun _ => none⟩ 0) twoHandlers).map (fun run =>
      ((record run.1).take 2,
        run.1.all fun e => e.1.calls.any (fun y => (y.handler, y.ticket) ∈ [(0, 0), (1, 0)]) ||
          !e.1.store.isLive (lockKey sampleCommand) e.1.now,
        run.2.calls.all fun x => 0 ≤ x.time && x.time < 100 && x.answer.isOk,
        run.2.handlers.all fun s => s.inFlight = 0 && s.receiver)) =
      some ([0, 1].map fun i => (i, .accepted 0 sampleTopic samplePayload), true, true, true) := rfl
  obtain ⟨⟨steps, p⟩, hrun, hfacts⟩ := Option.map_eq_some_iff.mp hcomputed
  simp only [Prod.mk.injEq, List.all_eq_true, Bool.and_eq_true, Bool.or_eq_true,
    decide_eq_true_eq] at hfacts
  obtain ⟨hrecord, hfree, hcalls, hhandlers⟩ := hfacts
  have hjudge : judge sampleTopic samplePayload = .command sampleCommand := rfl
  have haccepted : ∀ i ∈ [0, 1], (i, .accepted 0 sampleTopic samplePayload) ∈ record steps := by
    intro i hi
    apply List.mem_of_mem_take (i := 2)
    rw [hrecord]
    simpa [eq_comm] using hi
  have hcopies : Copies steps p [(0, 0), (1, 0)] sampleCommand := by
    constructor
    case nonempty => simp
    case delivered =>
      intro m hm
      obtain rfl | rfl : m = (0, 0) ∨ m = (1, 0) := by simpa using hm
      · exact ⟨_, _, haccepted 0 (by simp), hjudge⟩
      · exact ⟨_, _, haccepted 1 (by simp), hjudge⟩
    case free =>
      intro q i t hstep _ hnone
      rcases hfree _ hstep with hcalled | hfree
      · obtain ⟨y, hy, hcopy⟩ := List.any_eq_true.mp hcalled
        exact absurd (by simpa using hcopy) (hnone y hy)
      · simpa using hfree
    case close =>
      intro x hx y hy _ _
      have hx := (hcalls x hx).1
      have hy := (hcalls y hy).1
      show y.time < x.time + 100
      omega
    case answered =>
      intro x hx
      have hok := (hcalls x hx).2
      cases hanswer : x.answer with
      | ok won => exact ⟨won, rfl⟩
      | error e => simp [hanswer, Except.isOk, Except.toBool] at hok
    case finished => exact fun s hs => (hhandlers s hs).1
    case received => exact fun s hs => (hhandlers s hs).2
  obtain ⟨-, -, -, honce⟩ := copies_forwarded_once (Run.of_steps? hrun)
  exact ⟨steps, p, Run.of_steps? hrun, hcopies, honce _ _ hcopies⟩

end LoraBridge.Handler.Peers
