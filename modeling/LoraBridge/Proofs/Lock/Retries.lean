import LoraBridge.Proofs.Lock.Live

/-! # Calls that try again

  A call of the embedded store whose swap fails begins anew, and nothing in the call itself says
  how often. But a swap only fails if the entry is no longer what the call has seen, and entries
  change by swaps alone. So somebody else has changed the entry in between, and that change is
  not to blame for any other failure, because the call looks again before it swaps again.

  - `exists_read_of_seen`: what a call is about to swap is what it found when it last looked.
  - `exists_swap_of_run`: an entry only differs later on if some step has swapped it.
  - `charged_of_run`: the iterations of a call are counted against the changes that others make.
  - `retries_charged`: every failure has its own change, so changes bound the iterations.
-/

namespace LoraBridge.Lock

/-! ### Iterations of a single call -/

/-- Whether a call has returned. -/
def AcquirePhase.isDone : AcquirePhase → Bool
  | .done _ => true
  | _ => false

/-- How the phase of a call agrees with the number of steps that it has `taken`, the number of
    iterations that it has `begun`, and how often others have `changed` its entry, which is
    `present?` now. An iteration has three steps, and the change that the failure of this iteration
    will be charged to has been made as soon as the entry differs from what the call has seen. -/
def AcquirePhase.Charged (present? : Option Bytes) (taken begun changed : Nat) :
    AcquirePhase → Prop
  | .start => taken = 3 * begun ∧ begun ≤ changed
  | .clocked _ => taken + 2 = 3 * begun ∧ begun ≤ changed + 1
  | .seen _ found? =>
    taken + 1 = 3 * begun ∧ begun ≤ changed + 1 ∧ (present? ≠ found? → begun ≤ changed)
  | .done _ => begun ≤ changed + 1

section

variable {present? later? : Option Bytes} {taken begun changed : Nat} {phase : AcquirePhase}

theorem AcquirePhase.Charged.begun_le (h : phase.Charged present? taken begun changed) :
    begun ≤ changed + 1 := by
  cases phase with
  | start => exact Nat.le_succ_of_le h.2
  | clocked t => exact h.2
  | seen t found? => exact h.2.1
  | done won => exact h

/-- A change by others pays for one more iteration. -/
theorem AcquirePhase.Charged.of_change (h : phase.Charged present? taken begun changed)
    (hopen : phase.isDone = false) : phase.Charged later? taken begun (changed + 1) := by
  have hle := h.begun_le
  cases phase with
  | start => exact ⟨h.1, hle⟩
  | clocked t => exact ⟨h.1, Nat.le_succ_of_le hle⟩
  | seen t found? => exact ⟨h.1, Nat.le_succ_of_le hle, fun _ => hle⟩
  | done won => cases hopen

/-- A call that has returned takes no notice of changes. -/
theorem AcquirePhase.Charged.of_isDone (h : phase.Charged present? taken begun changed)
    (hdone : phase.isDone = true) : phase.Charged later? taken begun changed := by
  cases phase with
  | done won => exact h
  | _ => cases hdone

/-- A call that has taken three steps for every iteration that it can have has returned. -/
theorem AcquirePhase.Charged.isDone (h : phase.Charged present? taken begun changed)
    (htaken : 3 * (1 + changed) ≤ taken) : phase.isDone = true := by
  cases phase with
  | start =>
    obtain ⟨hsteps, hle⟩ := h
    omega
  | clocked t =>
    obtain ⟨hsteps, hle⟩ := h
    omega
  | seen t found? =>
    obtain ⟨hsteps, hle, -⟩ := h
    omega
  | done won => rfl

end

/-- A step of a call keeps the count: the first step of an iteration begins it, and a swap that
    fails does so because the entry differs from what the call has seen. -/
theorem Acquire.charged_step {call : Acquire} {now : Int} {tree : Tree} {taken begun changed : Nat}
    (h : call.phase.Charged (tree.get? call.key) taken begun changed) :
    (call.step now tree).1.phase.Charged ((call.step now tree).2.get? call.key) (taken + 1)
      (begun + (decide (call.phase = .start)).toNat) changed := by
  cases hphase : call.phase with
  | start =>
    rw [hphase] at h
    obtain ⟨hsteps, hle⟩ := h
    simp only [Acquire.step, hphase, AcquirePhase.Charged, decide_true, Bool.toNat_true]
    omega
  | clocked t =>
    rw [hphase] at h
    obtain ⟨hsteps, hle⟩ := h
    have hsame : begun + (decide (AcquirePhase.clocked t = .start)).toNat = begun := rfl
    rw [hsame]
    simp only [Acquire.step, hphase]
    split
    · next value hvalue =>
      split
      · exact hle
      · exact ⟨by omega, hle, fun hne => absurd hvalue hne⟩
    · next hnone => exact ⟨by omega, hle, fun hne => absurd hnone hne⟩
  | seen t found? =>
    rw [hphase] at h
    obtain ⟨hsteps, hle, hdiffers⟩ := h
    have hsame : begun + (decide (AcquirePhase.seen t found? = .start)).toNat = begun := rfl
    rw [hsame]
    simp only [Acquire.step, hphase]
    by_cases hfound : tree.get? call.key = found?
    · simp only [Tree.compareAndSwap?, if_pos hfound]
      exact hle
    · simp only [Tree.compareAndSwap?, if_neg hfound]
      exact ⟨by omega, hdiffers hfound⟩
  | done won =>
    rw [hphase] at h
    simp only [Acquire.step, hphase]
    exact h

/-- A call has seen what is there when it looks, and changes nothing by looking. -/
theorem Acquire.looked_of_seen {call : Acquire} {now clock : Int} {tree : Tree}
    {found? : Option Bytes} (h : (call.step now tree).1.phase = .seen clock found?) :
    call.phase = .clocked clock ∧ tree.get? call.key = found? ∧ (call.step now tree).2 = tree := by
  cases hphase : call.phase with
  | clocked t =>
    simp only [Acquire.step, hphase] at h ⊢
    cases hvalue : tree.get? call.key with
    | none =>
      simp only [hvalue, AcquirePhase.seen.injEq] at h ⊢
      obtain ⟨rfl, rfl⟩ := h
      exact ⟨rfl, rfl, trivial⟩
    | some value =>
      simp only [hvalue] at h ⊢
      cases hlive : isLive t value with
      | true => simp [hlive] at h
      | false =>
        simp only [hlive, Bool.false_eq_true, if_false, AcquirePhase.seen.injEq] at h ⊢
        obtain ⟨rfl, rfl⟩ := h
        exact ⟨rfl, rfl, trivial⟩
  | start => simp [Acquire.step, hphase] at h
  | seen t old? =>
    simp only [Acquire.step, hphase] at h
    split at h <;> cases h
  | done won => simp [Acquire.step, hphase] at h

namespace System

variable {s s' t u : System} {a : System.Action} {tree : Tree} {now : Int} {i : Nat}
  {steps more : List (System × System.Action)} {call : Acquire} {key : Bytes}

/-! ### Steps of a call among others -/

/-- Whether an action is a step of the call with this number. -/
def Action.isOf (i : Nat) : System.Action → Bool
  | .acquire j => j == i
  | _ => false

/-- Whether a step begins an iteration of the call with this number: the call reads the clock. -/
def begins (s : System) (i : Nat) (a : System.Action) : Bool :=
  a.isOf i && s.acquires[i]?.any (·.phase = .start)

/-- Whether a step of somebody else swaps the entry of the key of the call with this number, before
    that has returned. -/
def rivals (s : System) (i : Nat) (a : System.Action) : Bool :=
  !a.isOf i && s.acquires[i]?.any fun call =>
    !call.phase.isDone && (s.swap? a).any (·.1 = call.key)

/-- How many steps the call with this number takes. -/
def stepsOf (i : Nat) (steps : List (System × System.Action)) : Nat := steps.countP (·.2.isOf i)

/-- How many iterations the call with this number begins. -/
def iterations (i : Nat) (steps : List (System × System.Action)) : Nat :=
  steps.countP fun e => e.1.begins i e.2

/-- How often others swap the entry of its key meanwhile. -/
def rivalSwaps (i : Nat) (steps : List (System × System.Action)) : Nat :=
  steps.countP fun e => e.1.rivals i e.2

theorem eq_acquire_of_isOf (h : a.isOf i = true) : a = .acquire i := by
  cases a with
  | acquire j => rw [eq_of_beq h]
  | _ => cases h

/-- Nobody else takes the steps of a call. -/
theorem acquires_of_other (h : s.step? a = some s') (hother : a.isOf i = false) :
    s'.acquires[i]? = s.acquires[i]? ∨
      s.acquires[i]? = none ∧ ∃ key ttl, s'.acquires[i]? = some { key, ttl } := by
  cases a with
  | tick ms => obtain rfl := Option.some.inj h; exact .inl rfl
  | beginPurge => obtain rfl := Option.some.inj h; exact .inl rfl
  | purge j => obtain ⟨_, _, rfl⟩ := step_purge h; exact .inl rfl
  | acquire j =>
    obtain ⟨_, _, rfl⟩ := step_acquire h
    have hne : j ≠ i := by simpa [Action.isOf] using hother
    exact .inl (List.getElem?_set_ne hne)
  | beginAcquire key ttl =>
    obtain rfl := Option.some.inj h
    by_cases hlt : i < s.acquires.length
    · exact .inl (List.getElem?_append_left hlt)
    · -- the new call has the number, or it is still free
      have hfree : s.acquires[i]? = none := List.getElem?_eq_none (Nat.not_lt.mp hlt)
      by_cases hnew : i = s.acquires.length
      · exact .inr ⟨hfree, key, ttl, by simp [hnew]⟩
      · refine .inl ?_
        rw [hfree]
        exact List.getElem?_eq_none (by rw [List.length_append, List.length_singleton]; omega)

/-- Whoever takes a step as this call is it. -/
theorem step_self (h : s.step? (.acquire i) = some s') :
    ∃ call, s.acquires[i]? = some call ∧ s'.acquires[i]? = some (call.step s.now s.tree).1 ∧
      s'.tree = (call.step s.now s.tree).2 := by
  obtain ⟨call, hcall, rfl⟩ := step_acquire h
  exact ⟨call, hcall, List.getElem?_set_self (List.getElem?_eq_some_iff.mp hcall).1, rfl⟩

/-! ### Changes of an entry -/

/-- An entry only differs after a run if some step of it has swapped the entry. -/
theorem exists_swap_of_run (h : Run step? s steps t) (hne : t.tree.get? key ≠ s.tree.get? key) :
    ∃ r b new?, (r, b) ∈ steps ∧ r.swap? b = some (key, new?) := by
  induction h with
  | refl => exact absurd rfl hne
  | @step steps r b t hbefore now ih =>
    by_cases hswap : ∃ new?, r.swap? b = some (key, new?)
    · obtain ⟨new?, hswap⟩ := hswap
      exact ⟨r, b, new?, by simp, hswap⟩
    · -- the last step has left the entry alone, so it differed before
      have hkept := get?_step now fun new? heq => hswap ⟨new?, heq⟩
      obtain ⟨q, c, new?, hmem, hearlier⟩ := ih (by rwa [← hkept])
      exact ⟨q, c, new?, List.mem_append_left _ hmem, hearlier⟩

/-- A call that is about to swap has looked at the entry before, and has not taken a step since. -/
theorem exists_read_of_seen (h : Run step? (System.start tree now) steps s)
    (hcall : s.acquires[i]? = some call) {clock : Int} {found? : Option Bytes}
    (hphase : call.phase = .seen clock found?) :
    ∃ before q reader between, steps = before ++ (q, .acquire i) :: between ∧
      q.acquires[i]? = some reader ∧ reader.key = call.key ∧ reader.phase = .clocked clock ∧
      q.tree.get? call.key = found? ∧ ∀ e ∈ between, e.2.isOf i = false := by
  induction h generalizing call with
  | refl => simp [System.start] at hcall
  | @step steps r a t hbefore now ih =>
    cases hown : a.isOf i with
    | false =>
      -- somebody else's step: the call looked where it had looked before
      rcases acquires_of_other now hown with hsame | ⟨-, key, ttl, hnew⟩
      · obtain ⟨before, q, reader, between, hsplit, hread⟩ := ih (hsame ▸ hcall) hphase
        obtain ⟨hreader, hkey, hclocked, hfound, hothers⟩ := hread
        refine ⟨before, q, reader, between ++ [(r, a)], by simp [hsplit], hreader, hkey, hclocked,
          hfound, ?_⟩
        exact List.forall_mem_append.mpr ⟨hothers, by simpa using hown⟩
      · obtain rfl := Option.some.inj (hnew.symm.trans hcall)
        cases hphase
    | true =>
      obtain rfl := eq_acquire_of_isOf hown
      obtain ⟨prior, hprior, hstepped, -⟩ := step_self now
      obtain rfl := Option.some.inj (hstepped.symm.trans hcall)
      obtain ⟨hclocked, hfound, -⟩ := Acquire.looked_of_seen hphase
      have hkey := prior.key_step r.now r.tree
      exact ⟨steps, r, prior, [], rfl, hprior, hkey.symm, hclocked, by rw [hkey, hfound], by simp⟩

/-- Between the last look of a call and its swap that fails, somebody has swapped the entry. -/
theorem exists_rival_of_failure {before after : List (System × System.Action)} {r : System}
    (h : Run step? (System.start tree now) (before ++ (r, .acquire i) :: after) s)
    (hcall : r.acquires[i]? = some call) {clock : Int} {found? : Option Bytes}
    (hphase : call.phase = .seen clock found?) (hfailed : r.tree.get? call.key ≠ found?) :
    ∃ earlier q reader between, before = earlier ++ (q, .acquire i) :: between ∧
      q.acquires[i]? = some reader ∧ reader.key = call.key ∧ reader.phase = .clocked clock ∧
      q.tree.get? call.key = found? ∧ (∀ e ∈ between, e.2.isOf i = false) ∧
      ∃ e ∈ between, ∃ new?, e.1.swap? e.2 = some (call.key, new?) := by
  have hbefore := h.split_at.1
  obtain ⟨earlier, q, reader, between, rfl, hreader, hkey, hclocked, hfound, hothers⟩ :=
    exists_read_of_seen hbefore hcall hphase
  obtain ⟨-, u, hlook, hbetween⟩ := hbefore.split_at
  -- looking leaves the tree as it is, so the entry has changed after that
  have hsame : u.tree.get? call.key = q.tree.get? call.key := by
    rw [tree_step hlook]
    simp [swap?, hreader, hclocked]
  have hne : r.tree.get? call.key ≠ u.tree.get? call.key := by rwa [hsame, hfound]
  obtain ⟨p, b, new?, hmem, hswap⟩ := exists_swap_of_run hbetween hne
  exact ⟨earlier, q, reader, between, rfl, hreader, hkey, hclocked, hfound, hothers, (p, b), hmem,
    new?, hswap⟩

/-! ### Iterations along a run -/

section

variable (i : Nat) (steps : List (System × System.Action)) (e : System × System.Action)

theorem stepsOf_concat : stepsOf i (steps ++ [e]) = stepsOf i steps + (e.2.isOf i).toNat := by
  rw [stepsOf, List.countP_append, List.countP_singleton]
  cases e.2.isOf i <;> rfl

theorem iterations_concat :
    iterations i (steps ++ [e]) = iterations i steps + (e.1.begins i e.2).toNat := by
  rw [iterations, List.countP_append, List.countP_singleton]
  cases e.1.begins i e.2 <;> rfl

theorem rivalSwaps_concat :
    rivalSwaps i (steps ++ [e]) = rivalSwaps i steps + (e.1.rivals i e.2).toNat := by
  rw [rivalSwaps, List.countP_append, List.countP_singleton]
  cases e.1.rivals i e.2 <;> rfl

end

/-- A step of somebody else keeps the count, too: it is one more change if it swaps the entry. -/
theorem charged_other {taken begun changed : Nat} (now : s.step? a = some s')
    (hother : a.isOf i = false) (hcall : s.acquires[i]? = some call)
    (h : call.phase.Charged (s.tree.get? call.key) taken begun changed) :
    call.phase.Charged (s'.tree.get? call.key) taken begun (changed + (s.rivals i a).toNat) := by
  cases hdone : call.phase.isDone with
  | true =>
    have hrivals : s.rivals i a = false := by simp [rivals, hcall, hdone]
    rw [hrivals]
    exact h.of_isDone hdone
  | false =>
    by_cases hswap : ∃ new?, s.swap? a = some (call.key, new?)
    · obtain ⟨new?, hswap⟩ := hswap
      have hrivals : s.rivals i a = true := by simp [rivals, hother, hcall, hdone, hswap]
      rw [hrivals]
      exact h.of_change hdone
    · have hrivals : s.rivals i a = false := by
        have hnone : (s.swap? a).any (·.1 = call.key) = false := by
          cases hsome : s.swap? a with
          | none => rfl
          | some e =>
            simp only [Option.any_some, decide_eq_false_iff_not]
            exact fun hkey => hswap ⟨e.2, by rw [hsome, ← hkey]⟩
        simp [rivals, hcall, hnone]
      rw [hrivals, get?_step now fun new? heq => hswap ⟨new?, heq⟩]
      exact h

/-- Nobody counts for a call that has not begun, and afterwards its phase agrees with the counts. -/
theorem charged_of_run (h : Run step? (System.start tree now) steps s) (i : Nat) :
    (s.acquires[i]? = none → stepsOf i steps = 0 ∧ iterations i steps = 0) ∧
      ∀ call, s.acquires[i]? = some call → call.phase.Charged (s.tree.get? call.key)
        (stepsOf i steps) (iterations i steps) (rivalSwaps i steps) := by
  induction h with
  | refl => simp [System.start, stepsOf, iterations]
  | @step steps r a t hbefore now ih =>
    obtain ⟨hfree, hcharged⟩ := ih
    rw [stepsOf_concat, iterations_concat, rivalSwaps_concat]
    cases hown : a.isOf i with
    | true =>
      obtain rfl := eq_acquire_of_isOf hown
      obtain ⟨prior, hprior, hstepped, htree⟩ := step_self now
      have hbegins : r.begins i (.acquire i) = decide (prior.phase = .start) := by
        simp [begins, hown, hprior]
      have hrivals : r.rivals i (.acquire i) = false := by simp [rivals, hown]
      refine ⟨fun hnone => by simp [hstepped] at hnone, ?_⟩
      intro call hcall
      obtain rfl := Option.some.inj (hstepped.symm.trans hcall)
      rw [hbegins, hrivals, htree, Acquire.key_step]
      exact Acquire.charged_step (hcharged prior hprior)
    | false =>
      have hbegins : r.begins i a = false := by simp [begins, hown]
      rw [hbegins]
      rcases acquires_of_other now hown with hsame | ⟨hnone, key, ttl, hnew⟩
      · rw [hsame]
        exact ⟨hfree, fun call hcall => charged_other now hown hcall (hcharged call hcall)⟩
      · -- a call that has just begun has not taken a step
        obtain ⟨hzero, hnever⟩ := hfree hnone
        refine ⟨fun h => by simp [hnew] at h, ?_⟩
        intro call hcall
        obtain rfl := Option.some.inj (hnew.symm.trans hcall)
        rw [hzero, hnever]
        exact ⟨rfl, Nat.zero_le _⟩

/-- When a swap of a call fails, somebody else has swapped the same entry since the call last looked
    at it. So a call has at most one iteration more than there are swaps of its entry by others
    while it lasts, and it returns in the last one of these. Without such a swap the first iteration
    is the last one. -/
theorem retries_charged (h : Run step? (System.start tree now) steps s) (i : Nat) :
    (∀ before r after call clock found?, steps = before ++ (r, .acquire i) :: after →
      r.acquires[i]? = some call → call.phase = .seen clock found? →
      r.tree.compareAndSwap? call.key found? (some (entry (expiryAt clock call.ttl))) = none →
      ∃ earlier q reader between, before = earlier ++ (q, .acquire i) :: between ∧
        q.acquires[i]? = some reader ∧ reader.key = call.key ∧ reader.phase = .clocked clock ∧
        q.tree.get? call.key = found? ∧ (∀ e ∈ between, e.2.isOf i = false) ∧
        ∃ e ∈ between, ∃ new?, e.1.swap? e.2 = some (call.key, new?)) ∧
    iterations i steps ≤ 1 + rivalSwaps i steps ∧
    (∀ call, s.acquires[i]? = some call → 3 * (1 + rivalSwaps i steps) ≤ stepsOf i steps →
      call.phase.isDone = true) ∧
    (rivalSwaps i steps = 0 → iterations i steps ≤ 1 ∧
      ∀ call, s.acquires[i]? = some call → 3 ≤ stepsOf i steps → call.phase.isDone = true) := by
  obtain ⟨hfree, hcharged⟩ := charged_of_run h i
  have hiterations : iterations i steps ≤ 1 + rivalSwaps i steps := by
    cases hcall : s.acquires[i]? with
    | none =>
      rw [(hfree hcall).2]
      exact Nat.zero_le _
    | some call =>
      rw [Nat.add_comm]
      exact (hcharged call hcall).begun_le
  have hreturned (call : Acquire) (hcall : s.acquires[i]? = some call)
      (htaken : 3 * (1 + rivalSwaps i steps) ≤ stepsOf i steps) : call.phase.isDone = true :=
    (hcharged call hcall).isDone htaken
  refine ⟨?_, hiterations, hreturned, ?_⟩
  · rintro before r after call clock found? rfl hcall hphase hfailed
    refine exists_rival_of_failure h hcall hphase ?_
    intro hsame
    simp [Tree.compareAndSwap?, hsame] at hfailed
  · intro hnone
    rw [hnone] at hiterations hreturned
    exact ⟨hiterations, hreturned⟩

/-- A tree with an entry that expired at the time 5. -/
def expiredEntry : Tree := ⟨[([1], entry 5)], List.pairwise_singleton _ _⟩

/-- A call sees that entry. Before it swaps, a purge removes the entry, and another call puts a new
    one there, which expires at once. The first call has to look again, and then wins. -/
def overtaken : List System.Action :=
  [.beginAcquire [1] (.ofMillis 100), .acquire 0, .acquire 0, .beginPurge, .purge 0, .purge 0,
    .purge 0, .beginAcquire [1] (.ofMillis 0), .acquire 1, .acquire 1, .acquire 1, .acquire 0,
    .acquire 0, .acquire 0, .acquire 0]

theorem retries_charged_overtaken :
    ∃ steps s, Run step? (System.start expiredEntry 10) steps s ∧
      s.acquires.map (·.phase) = [.done true, .done true] ∧
      iterations 0 steps = 2 ∧ rivalSwaps 0 steps = 2 ∧
      iterations 0 steps ≤ 1 + rivalSwaps 0 steps ∧
      (∃ r, steps[11]? = some (r, .acquire 0) ∧ ∃ e ∈ steps.take 11, e.2.isOf 0 = false ∧
        ∃ new?, e.1.swap? e.2 = some ([1], new?)) ∧
      rivalSwaps 1 steps = 0 ∧ iterations 1 steps ≤ 1 := by
  have hcomputed : (Run.steps? step? (System.start expiredEntry 10) overtaken).map (fun run =>
      (run.2.acquires.map (·.phase), (iterations 0 run.1, rivalSwaps 0 run.1, rivalSwaps 1 run.1),
        run.1[11]?.map fun e => (e.2, e.1.acquires[0]?, e.1.tree.get? [1]))) =
      some ([.done true, .done true], (2, 2, 0),
        some (.acquire 0, some ⟨[1], .ofMillis 100, .seen 10 (some (entry 5))⟩, some (entry 10))) :=
    rfl
  obtain ⟨⟨steps, s⟩, hrun, hfacts⟩ := Option.map_eq_some_iff.mp hcomputed
  simp only [Prod.mk.injEq, Option.map_eq_some_iff] at hfacts
  obtain ⟨hphases, ⟨htwice, hrivals, hnone⟩, ⟨⟨r, a⟩, hlast, rfl, hcall, hentry⟩⟩ := hfacts
  obtain ⟨hfailures, hiterations, -, -⟩ := retries_charged (Run.of_steps? hrun) 0
  obtain ⟨-, -, -, halone⟩ := retries_charged (Run.of_steps? hrun) 1
  -- the call has seen what expired at 5, and finds what expires at 10
  have hfailed : r.tree.compareAndSwap? [1] (some (entry 5))
      (some (entry (expiryAt 10 (.ofMillis 100)))) = none := by
    rw [Tree.compareAndSwap?, hentry, if_neg (by decide)]
  obtain ⟨hlt, hget⟩ := List.getElem?_eq_some_iff.mp hlast
  have hsplit : steps = steps.take 11 ++ (r, .acquire 0) :: steps.drop 12 := by
    rw [← hget, List.getElem_cons_drop, List.take_append_drop]
  obtain ⟨earlier, q, reader, between, hbefore, -, -, -, -, hothers, e, he, new?, hswap⟩ :=
    hfailures _ r _ _ 10 _ hsplit hcall rfl hfailed
  have hmem : e ∈ steps.take 11 := by
    rw [hbefore]
    exact List.mem_append_right _ (List.mem_cons_of_mem _ he)
  exact ⟨steps, s, Run.of_steps? hrun, hphases, htwice, hrivals, hiterations,
    ⟨r, hlast, e, hmem, hothers e he, new?, hswap⟩, hnone, (halone hnone).1⟩

end System

end LoraBridge.Lock
