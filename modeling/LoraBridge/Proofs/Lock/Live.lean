import LoraBridge.Lock.Embedded
import LoraBridge.Proofs.Lock.Tree
import LoraBridge.Proofs.Run

/-! # Live entries stay

  Calls of the embedded store act on what they have seen some time ago, by a clock that they have
  read even earlier. In between, other calls may have replaced an entry, or removed it and put
  the same bytes back. All the same no call ever replaces or removes an entry that still holds:

  - what a call remembers is never news: its clock is behind, and the entry that it is about to
    change had expired by that clock (`System.Behind`);
  - a swap goes through only on the very bytes that the call remembers, and bytes carry their
    expiry with them, so whatever happened in between does not matter.
-/

namespace LoraBridge.Lock

/-! ### Swaps -/

/-- The key whose entry a step swaps, and what it puts there. Steps that swap nothing, or try to
    in vain, have none. -/
def System.swap? (s : System) : System.Action → Option (Bytes × Option Bytes)
  | .acquire i => do
    let call ← s.acquires[i]?
    let .seen t old? := call.phase | none
    if s.tree.get? call.key = old? then some (call.key, some (entry (expiryAt t call.ttl)))
    else none
  | .purge i => do
    let .sweeping _ (e :: _) _ ← s.purges[i]? | none
    if s.tree.get? e.1 = some e.2 then some (e.1, none) else none
  | _ => none

/-- The entry that a step of a call installs: its key and its value. -/
def System.installed? (s : System) (a : System.Action) : Option (Bytes × Bytes) :=
  match s.swap? a with
  | some (key, some value) => some (key, value)
  | _ => none

/-! ### What calls remember -/

/-- What a call remembers is behind the clock, and the entry that it has seen had expired. -/
def AcquirePhase.Behind (now : Int) : AcquirePhase → Prop
  | .start => True
  | .clocked t => t ≤ now
  | .seen t found? => t ≤ now ∧ ∀ value, found? = some value → expiryOf value ≤ t
  | .done _ => True

/-- What a purge remembers is behind the clock, and the entries that it will remove had
    expired. -/
def PurgePhase.Behind (now : Int) : PurgePhase → Prop
  | .start => True
  | .clocked t => t ≤ now
  | .sweeping t left _ => t ≤ now ∧ ∀ e ∈ left, expiryOf e.2 ≤ t
  | .done _ => True

/-- What all calls remember is behind the clock. -/
structure System.Behind (s : System) : Prop where
  acquires : ∀ call ∈ s.acquires, call.phase.Behind s.now
  purges : ∀ phase ∈ s.purges, phase.Behind s.now

theorem AcquirePhase.Behind.mono {now later : Int} {phase : AcquirePhase} (h : phase.Behind now)
    (hle : now ≤ later) : phase.Behind later := by
  cases phase with
  | start => trivial
  | clocked t => exact Int.le_trans h hle
  | seen t found? => exact ⟨Int.le_trans h.1 hle, h.2⟩
  | done won => trivial

theorem PurgePhase.Behind.mono {now later : Int} {phase : PurgePhase} (h : phase.Behind now)
    (hle : now ≤ later) : phase.Behind later := by
  cases phase with
  | start => trivial
  | clocked t => exact Int.le_trans h hle
  | sweeping t left removed => exact ⟨Int.le_trans h.1 hle, h.2⟩
  | done removed => trivial

theorem expiryOf_le_of_not_isLive {now : Int} {value : Bytes} (h : ¬ isLive now value) :
    expiryOf value ≤ now := by
  simp only [isLive, decide_eq_true_eq] at h
  omega

theorem expiryOf_le_of_mem_expired {now : Int} {tree : Tree} {e : Bytes × Bytes}
    (h : e ∈ expired now tree) : expiryOf e.2 ≤ now := by
  have hdead := (List.mem_filter.mp h).2
  exact expiryOf_le_of_not_isLive (by simpa using hdead)

/-! ### Steps of a single call -/

theorem Acquire.behind_step {call : Acquire} {now : Int} {tree : Tree}
    (h : call.phase.Behind now) : (call.step now tree).1.phase.Behind now := by
  unfold Acquire.step
  cases hphase : call.phase with
  | start => exact Int.le_refl now
  | clocked t =>
    have ht : t ≤ now := by simpa [hphase, AcquirePhase.Behind] using h
    dsimp only
    split
    · next value _ =>
      split
      · trivial
      · next hdead =>
        refine ⟨ht, ?_⟩
        intro v hv
        rw [Option.some.inj hv] at hdead
        exact expiryOf_le_of_not_isLive hdead
    · exact ⟨ht, by simp⟩
  | seen t old? =>
    dsimp only
    split <;> trivial
  | done won =>
    dsimp only
    rw [hphase]
    trivial

theorem Acquire.key_step (call : Acquire) (now : Int) (tree : Tree) :
    (call.step now tree).1.key = call.key := by
  unfold Acquire.step
  split <;> (try split) <;> (try split) <;> rfl

theorem PurgePhase.behind_step {phase : PurgePhase} {now : Int} {tree : Tree}
    (h : phase.Behind now) : (phase.step now tree).1.Behind now := by
  cases phase with
  | start => exact Int.le_refl now
  | clocked t => exact ⟨h, fun e he => expiryOf_le_of_mem_expired he⟩
  | sweeping t left removed =>
    cases left with
    | nil => trivial
    | cons e left =>
      refine ⟨h.1, ?_⟩
      intro f hf
      exact h.2 f (List.mem_cons_of_mem e hf)
  | done removed => trivial

/-! ### Steps of a system -/

namespace System

variable {s s' : System} {a : System.Action} {key value : Bytes}

theorem step_acquire {i : Nat} (h : s.step? (.acquire i) = some s') :
    ∃ call, s.acquires[i]? = some call ∧
      s' = { s with acquires := s.acquires.set i (call.step s.now s.tree).1,
                    tree := (call.step s.now s.tree).2 } := by
  simp only [step?, Option.bind_eq_bind, Option.bind_eq_some_iff] at h
  obtain ⟨call, hcall, hs'⟩ := h
  exact ⟨call, hcall, (Option.some.inj hs').symm⟩

theorem step_purge {i : Nat} (h : s.step? (.purge i) = some s') :
    ∃ phase, s.purges[i]? = some phase ∧
      s' = { s with purges := s.purges.set i (phase.step s.now s.tree).1,
                    tree := (phase.step s.now s.tree).2 } := by
  simp only [step?, Option.bind_eq_bind, Option.bind_eq_some_iff] at h
  obtain ⟨phase, hphase, hs'⟩ := h
  exact ⟨phase, hphase, (Option.some.inj hs').symm⟩

/-- The clock never goes back. -/
theorem now_le_step (h : s.step? a = some s') : s.now ≤ s'.now := by
  cases a with
  | tick ms =>
    obtain rfl := Option.some.inj h
    show s.now ≤ s.now + ms
    omega
  | beginAcquire key ttl => obtain rfl := Option.some.inj h; exact Int.le_refl _
  | beginPurge => obtain rfl := Option.some.inj h; exact Int.le_refl _
  | acquire i => obtain ⟨_, _, rfl⟩ := step_acquire h; exact Int.le_refl _
  | purge i => obtain ⟨_, _, rfl⟩ := step_purge h; exact Int.le_refl _

/-- A tree changes by swaps alone. -/
theorem tree_step (h : s.step? a = some s') :
    s'.tree = match s.swap? a with
      | some (key, value?) => s.tree.put key value?
      | none => s.tree := by
  cases a with
  | tick ms => obtain rfl := Option.some.inj h; rfl
  | beginAcquire key ttl => obtain rfl := Option.some.inj h; rfl
  | beginPurge => obtain rfl := Option.some.inj h; rfl
  | acquire i =>
    obtain ⟨call, hcall, rfl⟩ := step_acquire h
    simp only [swap?, hcall, Option.bind_eq_bind, Option.bind_some, Acquire.step]
    cases call.phase with
    | start => rfl
    | clocked t => dsimp only; split <;> (try split) <;> rfl
    | seen t old? =>
      dsimp only
      by_cases hold : s.tree.get? call.key = old?
      · simp [Tree.compareAndSwap?, hold]
      · simp [Tree.compareAndSwap?, hold]
    | done won => rfl
  | purge i =>
    obtain ⟨phase, hphase, rfl⟩ := step_purge h
    simp only [swap?, hphase, Option.bind_eq_bind, Option.bind_some, PurgePhase.step]
    cases phase with
    | start => rfl
    | clocked t => rfl
    | sweeping t left removed =>
      cases left with
      | nil => rfl
      | cons e left =>
        dsimp only
        by_cases hold : s.tree.get? e.1 = some e.2
        · simp [sweep, Tree.compareAndSwap?, hold]
        · simp [sweep, Tree.compareAndSwap?, hold]
    | done removed => rfl

/-- A step leaves the entries alone that it does not swap. -/
theorem get?_step (h : s.step? a = some s') (hkey : ∀ new?, s.swap? a ≠ some (key, new?)) :
    s'.tree.get? key = s.tree.get? key := by
  rw [tree_step h]
  split
  · next k new? hswap =>
    have hne : key ≠ k := by
      intro heq
      exact hkey new? (heq ▸ hswap)
    exact s.tree.get?_put_of_ne new? hne
  · rfl

/-- A step that swaps an entry has seen it, and it had expired. -/
theorem Behind.expiryOf_le (hs : s.Behind) {new? : Option Bytes}
    (hswap : s.swap? a = some (key, new?)) (hget : s.tree.get? key = some value) :
    expiryOf value ≤ s.now := by
  cases a with
  | tick ms => simp [swap?] at hswap
  | beginAcquire key ttl => simp [swap?] at hswap
  | beginPurge => simp [swap?] at hswap
  | acquire i =>
    simp only [swap?, Option.bind_eq_bind, Option.bind_eq_some_iff] at hswap
    obtain ⟨call, hcall, hswap⟩ := hswap
    have hbehind := hs.acquires call (List.mem_of_getElem? hcall)
    cases hphase : call.phase with
    | seen t old? =>
      rw [hphase] at hswap hbehind
      dsimp only at hswap
      split at hswap
      · next hold =>
        -- what is there is what the call has seen, and that had expired
        simp only [Option.some.injEq, Prod.mk.injEq] at hswap
        have hseen : old? = some value := by rw [← hold, hswap.1, hget]
        exact Int.le_trans (hbehind.2 value hseen) hbehind.1
      · simp at hswap
    | _ => simp [hphase] at hswap
  | purge i =>
    simp only [swap?, Option.bind_eq_bind, Option.bind_eq_some_iff] at hswap
    obtain ⟨phase, hphase, hswap⟩ := hswap
    have hbehind := hs.purges phase (List.mem_of_getElem? hphase)
    cases phase with
    | sweeping t left removed =>
      cases left with
      | nil => simp at hswap
      | cons e left =>
        dsimp only at hswap
        split at hswap
        · next hold =>
          simp only [Option.some.injEq, Prod.mk.injEq] at hswap
          have hseen : e.2 = value := by
            rw [hswap.1, hget] at hold
            exact (Option.some.inj hold).symm
          exact Int.le_trans (hseen ▸ hbehind.2 e (List.mem_cons_self ..)) hbehind.1
        · simp at hswap
    | _ => simp at hswap

/-- Steps keep what calls remember behind the clock. -/
theorem Behind.step (hs : s.Behind) (h : s.step? a = some s') : s'.Behind := by
  have hnow := now_le_step h
  cases a with
  | tick ms =>
    obtain rfl := Option.some.inj h
    exact ⟨fun call hcall => (hs.acquires call hcall).mono hnow,
      fun phase hphase => (hs.purges phase hphase).mono hnow⟩
  | beginAcquire key ttl =>
    obtain rfl := Option.some.inj h
    refine ⟨?_, hs.purges⟩
    intro call hcall
    rcases List.mem_append.mp hcall with hcall | hcall
    · exact hs.acquires call hcall
    · rw [List.mem_singleton.mp hcall]
      trivial
  | beginPurge =>
    obtain rfl := Option.some.inj h
    refine ⟨hs.acquires, ?_⟩
    intro phase hphase
    rcases List.mem_append.mp hphase with hphase | hphase
    · exact hs.purges phase hphase
    · rw [List.mem_singleton.mp hphase]
      trivial
  | acquire i =>
    obtain ⟨call, hcall, rfl⟩ := step_acquire h
    refine ⟨?_, hs.purges⟩
    intro other hother
    rcases List.mem_or_eq_of_mem_set hother with hother | rfl
    · exact hs.acquires other hother
    · exact Acquire.behind_step (hs.acquires call (List.mem_of_getElem? hcall))
  | purge i =>
    obtain ⟨phase, hphase, rfl⟩ := step_purge h
    refine ⟨hs.acquires, ?_⟩
    intro other hother
    rcases List.mem_or_eq_of_mem_set hother with hother | rfl
    · exact hs.purges other hother
    · exact PurgePhase.behind_step (hs.purges phase (List.mem_of_getElem? hphase))

/-! ### Runs of a system -/

/-- A store on which nobody works yet. -/
def start (tree : Tree) (now : Int) : System := { tree, now }

variable {tree : Tree} {now : Int} {steps : List (System × System.Action)}

theorem Behind.start : (start tree now).Behind := by
  constructor <;> simp [System.start]

theorem Behind.of_run (hs : s.Behind) (h : Run step? s steps s') : s'.Behind :=
  h.invariant hs Behind.step

/-- As long as an entry holds, it stays. -/
theorem get?_of_run (hs : s.Behind) (h : Run step? s steps s') (hget : s.tree.get? key = some value)
    (hlive : s'.now < expiryOf value) : s'.tree.get? key = some value := by
  induction h with
  | refl => exact hget
  | @step steps r a t hbefore now ih =>
    -- the clock was no later before the step, so the entry was there, and no step swaps it
    have hr : r.now < expiryOf value := Int.lt_of_le_of_lt (now_le_step now) hlive
    have hthere := ih hr
    have hbehind := hs.of_run hbefore
    rw [get?_step now, hthere]
    intro new? hswap
    have hdead := hbehind.expiryOf_le hswap hthere
    omega

theorem swap?_of_installed? (h : s.installed? a = some (key, value)) :
    s.swap? a = some (key, some value) := by
  unfold installed? at h
  split at h
  · next hswap =>
    simp only [Option.some.injEq, Prod.mk.injEq] at h
    rw [hswap, h.1, h.2]
  · simp at h

/-- An entry is there once it has been installed. -/
theorem get?_step_of_installed? (h : s.step? a = some s')
    (hinst : s.installed? a = some (key, value)) : s'.tree.get? key = some value := by
  rw [tree_step h, swap?_of_installed? hinst]
  exact s.tree.get?_put_self (some value)

/-- While an entry that was installed holds, no other one is installed for its key. -/
theorem expiryOf_le_of_installed? (hs : s.Behind) {b : System.Action} {r : System}
    {value' : Bytes} (h : s.step? a = some s') (hinst : s.installed? a = some (key, value))
    (hrun : Run step? s' steps r) (hinst' : r.installed? b = some (key, value')) :
    expiryOf value ≤ r.now := by
  -- if the first entry still held, it would be there, and could not be swapped
  apply Int.not_lt.mp
  intro hlive
  have hbehind := hs.step h
  have hthere := get?_of_run hbehind hrun (get?_step_of_installed? h hinst) hlive
  have hdead := (hbehind.of_run hrun).expiryOf_le (swap?_of_installed? hinst') hthere
  omega

/-- A step after which its call has won is one that installs an entry, unless the call had won
    before. -/
theorem installed?_of_won {i : Nat} {call : Acquire} (hcall : s.acquires[i]? = some call)
    (hwon : (call.step s.now s.tree).1.phase = .done true) :
    call.phase = .done true ∨
      ∃ value, s.installed? (.acquire i) = some (call.key, value) := by
  cases hphase : call.phase with
  | start => simp [Acquire.step, hphase] at hwon
  | clocked t =>
    simp only [Acquire.step, hphase] at hwon
    split at hwon <;> (try split at hwon) <;> simp at hwon
  | seen t old? =>
    right
    by_cases hold : s.tree.get? call.key = old?
    · exact ⟨entry (expiryAt t call.ttl), by simp [installed?, swap?, hcall, hphase, hold]⟩
    · simp [Acquire.step, hphase, Tree.compareAndSwap?, hold] at hwon
  | done won =>
    left
    simpa [Acquire.step, hphase] using hwon

/-- A call that has won has installed an entry. -/
theorem installed?_of_run (h : Run step? (System.start tree now) steps s) {i : Nat}
    {call : Acquire} (hcall : s.acquires[i]? = some call) (hwon : call.phase = .done true) :
    ∃ r value, (r, .acquire i) ∈ steps ∧ r.installed? (.acquire i) = some (call.key, value) := by
  induction h generalizing call with
  | refl => simp [System.start] at hcall
  | @step steps r a t hbefore now ih =>
    -- a call that had won before this step has its step among the earlier ones
    have earlier {call : Acquire} (hcall : r.acquires[i]? = some call)
        (hwon : call.phase = .done true) : ∃ q value, (q, .acquire i) ∈ steps ++ [(r, a)] ∧
          q.installed? (.acquire i) = some (call.key, value) := by
      obtain ⟨q, value, hmem, hinst⟩ := ih hcall hwon
      exact ⟨q, value, List.mem_append_left _ hmem, hinst⟩
    cases a with
    | tick ms => obtain rfl := Option.some.inj now; exact earlier hcall hwon
    | beginPurge => obtain rfl := Option.some.inj now; exact earlier hcall hwon
    | purge j => obtain ⟨_, _, rfl⟩ := step_purge now; exact earlier hcall hwon
    | beginAcquire key ttl =>
      obtain rfl := Option.some.inj now
      rw [List.getElem?_append] at hcall
      split at hcall
      · exact earlier hcall hwon
      · rw [List.mem_singleton.mp (List.mem_of_getElem? hcall)] at hwon
        simp at hwon
    | acquire j =>
      obtain ⟨before, hbefore, rfl⟩ := step_acquire now
      by_cases hij : j = i
      · subst hij
        have hlt : j < r.acquires.length := (List.getElem?_eq_some_iff.mp hbefore).1
        simp only [List.getElem?_set_self hlt, Option.some.injEq] at hcall
        subst hcall
        rw [Acquire.key_step]
        rcases installed?_of_won hbefore hwon with hdone | ⟨value, hinst⟩
        · exact earlier hbefore hdone
        · exact ⟨r, value, by simp, hinst⟩
      · rw [List.getElem?_set_ne hij] at hcall
        exact earlier hcall hwon

/-- No step replaces or removes an entry that still holds. So a call returns that it has won
    only after it has installed an entry, and from then until that entry expires no other entry
    is installed for its key. -/
theorem live_entries_stay (h : Run step? (System.start tree now) steps s) :
    (∀ a s' key value, s.step? a = some s' → s.tree.get? key = some value →
      s.now < expiryOf value →
        (∀ new?, s.swap? a ≠ some (key, new?)) ∧ s'.tree.get? key = some value) ∧
    (∀ i call, s.acquires[i]? = some call → call.phase = .done true →
      ∃ r value, (r, .acquire i) ∈ steps ∧ r.installed? (.acquire i) = some (call.key, value)) ∧
    (∀ (m n : Nat) (r r' : System) a b key value value', m < n → steps[m]? = some (r, a) →
      steps[n]? = some (r', b) → r.installed? a = some (key, value) →
      r'.installed? b = some (key, value') → expiryOf value ≤ r'.now) := by
  have hs : s.Behind := Behind.start.of_run h
  refine ⟨?_, fun i call => installed?_of_run h, ?_⟩
  · intro a s' key value hstep hget hlive
    have hkept : ∀ new?, s.swap? a ≠ some (key, new?) := by
      intro new? hswap
      have hdead := hs.expiryOf_le hswap hget
      omega
    exact ⟨hkept, by rw [get?_step hstep hkept, hget]⟩
  · intro m n r r' a b key value value' hlt hm hn hinst hinst'
    obtain ⟨_, u, _, hbefore, hstep, hbetween⟩ := h.between hlt hm hn
    exact expiryOf_le_of_installed? (Behind.start.of_run hbefore) hstep hinst hbetween hinst'

/-- Two calls for one key. The second one begins while the entry of the first one holds, but tries
    again once that has expired, and then wins. -/
def twoCalls : List System.Action :=
  [.beginAcquire [1] (.ofMillis 5), .acquire 0, .acquire 0, .acquire 0,
    .beginAcquire [1] (.ofMillis 5), .tick 4, .beginAcquire [1] (.ofMillis 5), .acquire 1,
    .acquire 1, .tick 1, .acquire 2, .acquire 2, .acquire 2]

theorem live_entries_stay_twoCalls :
    ∃ steps s, Run step? (System.start .empty 0) steps s ∧
      s.acquires.map (·.phase) = [.done true, .done false, .done true] ∧
      ∃ r r' : System, steps[3]? = some (r, .acquire 0) ∧ steps[12]? = some (r', .acquire 2) ∧
        r.installed? (.acquire 0) = some ([1], entry 5) ∧ expiryOf (entry 5) ≤ r'.now := by
  have hcomputed : (Run.steps? step? (System.start .empty 0) twoCalls).map (fun run =>
      (run.2.acquires.map (·.phase), run.1[3]?.map (fun p => (p.2, p.1.installed? p.2)),
        run.1[12]?.map (fun p => (p.2, p.1.installed? p.2)))) =
      some ([.done true, .done false, .done true], some (.acquire 0, some ([1], entry 5)),
        some (.acquire 2, some ([1], entry 10))) := rfl
  obtain ⟨⟨steps, s⟩, hrun, hfacts⟩ := Option.map_eq_some_iff.mp hcomputed
  simp only [Prod.mk.injEq, Option.map_eq_some_iff] at hfacts
  obtain ⟨hphases, ⟨⟨r, a⟩, hthird, rfl, hinst⟩, ⟨⟨r', b⟩, hlast, rfl, hinst'⟩⟩ := hfacts
  obtain ⟨-, -, hapart⟩ := live_entries_stay (Run.of_steps? hrun)
  exact ⟨steps, s, Run.of_steps? hrun, hphases, r, r', hthird, hlast, hinst,
    hapart 3 12 r r' _ _ _ _ _ (by decide) hthird hlast hinst hinst'⟩

end System

end LoraBridge.Lock
