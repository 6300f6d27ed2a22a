import LoraBridge.Proofs.Lock.Live
import LoraBridge.Proofs.Lock.Register

/-! # How far winners are apart

  A call of the embedded store reads the clock before it looks at the tree, and it swaps later
  still. The entry that it installs expires one time to live after the reading, not after the swap.
  So the lock that a call has won holds for its time to live less the time that the call took from
  the one to the other (`winners_apart`).

  As calls can take any time for that, the lock may have expired before it is won, and the next call
  wins at the same instant (`late_winner_excludes_nobody`).
-/

namespace LoraBridge.Lock

/-- What a call had in hand when it won. -/
structure Win where
  key : Bytes
  ttl : Duration
  /-- What it had read from the clock. -/
  read : Int
deriving DecidableEq, Repr

/-- When the entry expires that is installed with a win. -/
def Win.expiry (w : Win) : Int := expiryAt w.read w.ttl

/-- The win of a step, which is a swap that a call makes successfully. -/
def System.win? (s : System) : System.Action → Option Win
  | .acquire i => do
    let call ← s.acquires[i]?
    let .seen t old? := call.phase | none
    if s.tree.get? call.key = old? then some { key := call.key, ttl := call.ttl, read := t }
    else none
  | _ => none

/-- What a call has read from the clock is no earlier than `first`. -/
def AcquirePhase.Since (first : Int) : AcquirePhase → Prop
  | .start => True
  | .clocked t => first ≤ t
  | .seen t _ => first ≤ t
  | .done _ => True

/-- A call goes on for its own key and with its own time to live. -/
theorem Acquire.ttl_step (call : Acquire) (now : Int) (tree : Tree) :
    (call.step now tree).1.ttl = call.ttl := by
  unfold Acquire.step
  split <;> (try split) <;> (try split) <;> rfl

theorem Acquire.since_step {call : Acquire} {first now : Int} {tree : Tree}
    (h : call.phase.Since first) (hnow : first ≤ now) :
    (call.step now tree).1.phase.Since first := by
  unfold Acquire.step
  cases hphase : call.phase with
  | start => exact hnow
  | clocked t =>
    have ht : first ≤ t := by simpa [hphase, AcquirePhase.Since] using h
    dsimp only
    split
    · split
      · trivial
      · exact ht
    · exact ht
  | seen t old? =>
    dsimp only
    split <;> trivial
  | done won =>
    dsimp only
    rw [hphase]
    trivial

namespace System

variable {s s' : System} {a : System.Action} {tree : Tree} {now : Int}
  {steps : List (System × System.Action)} {i : Nat} {call : Acquire}

/-! ### Wins and entries -/

/-- The steps that install entries are the wins. -/
theorem installed?_eq (s : System) (a : System.Action) :
    s.installed? a = (s.win? a).map fun w => (w.key, entry w.expiry) := by
  cases a with
  | tick ms => rfl
  | beginAcquire key ttl => rfl
  | beginPurge => rfl
  | acquire i =>
    simp only [installed?, swap?, win?, Option.bind_eq_bind]
    cases s.acquires[i]? with
    | none => rfl
    | some call =>
      simp only [Option.bind_some]
      cases call.phase with
      | start => rfl
      | clocked t => rfl
      | seen t old? =>
        by_cases hold : s.tree.get? call.key = old?
        · simp [hold, Win.expiry]
        · simp [hold]
      | done won => rfl
  | purge i =>
    simp only [installed?, swap?, win?, Option.bind_eq_bind]
    cases s.purges[i]? with
    | none => rfl
    | some phase =>
      simp only [Option.bind_some]
      cases phase with
      | start => rfl
      | clocked t => rfl
      | sweeping t left removed =>
        cases left with
        | nil => rfl
        | cons e left =>
          by_cases hold : s.tree.get? e.1 = some e.2
          · simp [hold]
          · simp [hold]
      | done removed => rfl

theorem win?_acquire {w : Win} (h : s.win? (.acquire i) = some w) :
    ∃ call old?, s.acquires[i]? = some call ∧ call.phase = .seen w.read old? ∧
      s.tree.get? call.key = old? ∧ call.key = w.key ∧ call.ttl = w.ttl := by
  simp only [win?, Option.bind_eq_bind, Option.bind_eq_some_iff] at h
  obtain ⟨call, hcall, h⟩ := h
  cases hphase : call.phase with
  | seen t old? =>
    rw [hphase] at h
    dsimp only at h
    split at h
    · next hold =>
      obtain rfl := Option.some.inj h
      exact ⟨call, old?, hcall, hphase, hold, rfl, rfl⟩
    · simp at h
  | _ => simp [hphase] at h

/-- Only calls win. -/
theorem eq_acquire_of_win? {w : Win} (h : s.win? a = some w) : ∃ i, a = .acquire i := by
  cases a with
  | acquire i => exact ⟨i, rfl⟩
  | _ => simp [win?] at h

/-! ### Readings of the clock -/

/-- The clock and all that calls have read from it is no earlier than `first`. -/
structure Since (first : Int) (s : System) : Prop where
  now : first ≤ s.now
  acquires : ∀ call ∈ s.acquires, call.phase.Since first

theorem Since.step {first : Int} (hs : s.Since first) (h : s.step? a = some s') :
    s'.Since first := by
  refine ⟨Int.le_trans hs.now (now_le_step h), ?_⟩
  cases a with
  | tick ms => obtain rfl := Option.some.inj h; exact hs.acquires
  | beginAcquire key ttl =>
    obtain rfl := Option.some.inj h
    intro call hcall
    rcases List.mem_append.mp hcall with hcall | hcall
    · exact hs.acquires call hcall
    · rw [List.mem_singleton.mp hcall]
      trivial
  | beginPurge => obtain rfl := Option.some.inj h; exact hs.acquires
  | acquire i =>
    obtain ⟨call, hcall, rfl⟩ := step_acquire h
    intro other hother
    rcases List.mem_or_eq_of_mem_set hother with hother | rfl
    · exact hs.acquires other hother
    · exact Acquire.since_step (hs.acquires call (List.mem_of_getElem? hcall)) hs.now
  | purge i => obtain ⟨_, _, rfl⟩ := step_purge h; exact hs.acquires

theorem Since.of_run (h : Run step? (System.start tree now) steps s) : s.Since now :=
  h.invariant ⟨Int.le_refl now, by simp [System.start]⟩ Since.step

/-- What the winner has read from the clock is between the beginning and its swap. -/
theorem read_of_win? (h : Run step? (System.start tree now) steps s) {w : Win}
    (hwin : s.win? a = some w) : now ≤ w.read ∧ w.read ≤ s.now := by
  obtain ⟨i, rfl⟩ := eq_acquire_of_win? hwin
  obtain ⟨call, old?, hcall, hphase, -⟩ := win?_acquire hwin
  have hmem := List.mem_of_getElem? hcall
  have hsince := (Since.of_run h).acquires call hmem
  have hbehind := (Behind.start.of_run h).acquires call hmem
  rw [hphase] at hsince hbehind
  exact ⟨hsince, hbehind.1⟩

/-! ### Calls along a run -/

/-- A call stays the call that it was. -/
theorem acquire_step (h : s.step? a = some s') (hcall : s.acquires[i]? = some call) :
    ∃ later, s'.acquires[i]? = some later ∧ later.key = call.key ∧ later.ttl = call.ttl := by
  cases a with
  | tick ms => obtain rfl := Option.some.inj h; exact ⟨call, hcall, rfl, rfl⟩
  | beginAcquire key ttl =>
    obtain rfl := Option.some.inj h
    have hlt := (List.getElem?_eq_some_iff.mp hcall).1
    exact ⟨call, by rw [List.getElem?_append_left hlt, hcall], rfl, rfl⟩
  | beginPurge => obtain rfl := Option.some.inj h; exact ⟨call, hcall, rfl, rfl⟩
  | acquire j =>
    obtain ⟨stepped, hstepped, rfl⟩ := step_acquire h
    by_cases hij : j = i
    · subst hij
      obtain rfl : stepped = call := Option.some.inj (hstepped.symm.trans hcall)
      have hlt := (List.getElem?_eq_some_iff.mp hcall).1
      exact ⟨_, List.getElem?_set_self hlt, stepped.key_step s.now s.tree,
        stepped.ttl_step s.now s.tree⟩
    · exact ⟨call, by rw [List.getElem?_set_ne hij, hcall], rfl, rfl⟩
  | purge j => obtain ⟨_, _, rfl⟩ := step_purge h; exact ⟨call, hcall, rfl, rfl⟩

theorem acquire_run (h : Run step? s steps s') (hcall : s.acquires[i]? = some call) :
    ∃ later, s'.acquires[i]? = some later ∧ later.key = call.key ∧ later.ttl = call.ttl := by
  induction h with
  | refl => exact ⟨call, hcall, rfl, rfl⟩
  | step _ now ih =>
    obtain ⟨between, hbetween, hkey, httl⟩ := ih
    obtain ⟨later, hlater, hkey', httl'⟩ := acquire_step now hbetween
    exact ⟨later, hlater, hkey'.trans hkey, httl'.trans httl⟩

/-- A call that returns that it has won has won, for its own key and with its own time to live. -/
theorem win?_of_run (h : Run step? (System.start tree now) steps s)
    (hcall : s.acquires[i]? = some call) (hwon : call.phase = .done true) :
    ∃ r w, (r, .acquire i) ∈ steps ∧ r.win? (.acquire i) = some w ∧ w.key = call.key ∧
      w.ttl = call.ttl := by
  obtain ⟨r, value, hmem, hinst⟩ := installed?_of_run h hcall hwon
  rw [installed?_eq] at hinst
  obtain ⟨w, hwin, -⟩ := Option.map_eq_some_iff.mp hinst
  -- the call that won at that step is the one that has returned
  obtain ⟨winner, old?, hwinner, -, -, hkey, httl⟩ := win?_acquire hwin
  obtain ⟨pre, post, rfl⟩ := List.append_of_mem hmem
  obtain ⟨-, u, now, hpost⟩ := h.split_at
  obtain ⟨later, hlater, hkey', httl'⟩ := acquire_run ((Run.single now).append hpost) hwinner
  obtain rfl : later = call := Option.some.inj (hlater.symm.trans hcall)
  exact ⟨r, w, hmem, hwin, by rw [← hkey, hkey'], by rw [← httl, httl']⟩

/-! ### Two winners -/

/-- An entry that can be written can be read again. -/
theorem expiryOf_entry_of_win? (h : Run step? (System.start tree now) steps s)
    (hfirst : firstTime ≤ now) {w : Win} (hwin : s.win? a = some w) :
    expiryOf (entry w.expiry) = w.expiry := by
  obtain ⟨hread, -⟩ := read_of_win? h hwin
  have hfirst' : firstTime ≤ 0 := by decide
  have hlast : 0 ≤ lastTime := by decide
  apply expiryOf_entry
  · show firstTime ≤ min (w.read + min (w.ttl.millis : Int) lastTime) lastTime
    omega
  · exact Int.min_le_right _ _

/-- The entry of the earlier winner has expired when the next call wins. -/
theorem expiry_le_of_win? {m n : Nat} {r r' : System} {b : System.Action} {w w' : Win}
    (h : Run step? (System.start tree now) steps s) (hfirst : firstTime ≤ now) (hlt : m < n)
    (hm : steps[m]? = some (r, a)) (hn : steps[n]? = some (r', b))
    (hwin : r.win? a = some w) (hwin' : r'.win? b = some w') (hkey : w'.key = w.key) :
    w.expiry ≤ r'.now := by
  obtain ⟨_, u, _, hbefore, hstep, hbetween⟩ := h.between hlt hm hn
  have hinst : r.installed? a = some (w.key, entry w.expiry) := by simp [installed?_eq, hwin]
  have hinst' : r'.installed? b = some (w.key, entry w'.expiry) := by
    simp [installed?_eq, hwin', hkey]
  have hdead := expiryOf_le_of_installed? (Behind.start.of_run hbefore) hstep hinst hbetween hinst'
  rwa [expiryOf_entry_of_win? hbefore hfirst hwin] at hdead

/-- A call returns that it has won only after it has won. When another call wins the same key
    later, the clock has gone on by the time to live of the earlier one, less what had passed
    between the reading of the clock by the earlier one and its swap. (Unless the clock has come to
    its end, and no time to live counts beyond that.) -/
theorem winners_apart (h : Run step? (System.start tree now) steps s) (hfirst : firstTime ≤ now) :
    (∀ i call, s.acquires[i]? = some call → call.phase = .done true →
      ∃ r w, (r, .acquire i) ∈ steps ∧ r.win? (.acquire i) = some w ∧ w.key = call.key ∧
        w.ttl = call.ttl) ∧
    (∀ (m n : Nat) (r r' : System) a b w w', m < n → steps[m]? = some (r, a) →
      steps[n]? = some (r', b) → r.win? a = some w → r'.win? b = some w' → w'.key = w.key →
      w.read ≤ r.now ∧ (r'.now < lastTime →
        min (w.ttl.millis : Int) lastTime - (r.now - w.read) ≤ r'.now - r.now)) := by
  refine ⟨fun i call => win?_of_run h, ?_⟩
  intro m n r r' a b w w' hlt hm hn hwin hwin' hkey
  obtain ⟨_, _, _, hbefore, -, -⟩ := h.between hlt hm hn
  refine ⟨(read_of_win? hbefore hwin).2, ?_⟩
  intro hlast
  have hdead : min (w.read + min (w.ttl.millis : Int) lastTime) lastTime ≤ r'.now :=
    expiry_le_of_win? h hfirst hlt hm hn hwin hwin' hkey
  omega

/-- Two calls for one key with 100 ms to live. The first one reads the clock, sees nothing, and then
    takes 100 ms until it swaps. The second one comes right after it. -/
def lateCall : List System.Action :=
  [.beginAcquire [1] (.ofMillis 100), .acquire 0, .acquire 0, .tick 100, .acquire 0,
    .beginAcquire [1] (.ofMillis 100), .acquire 1, .acquire 1, .acquire 1]

/-- Both of them win, at the same instant. -/
theorem lateCall_facts : (Run.steps? step? (System.start .empty 0) lateCall).map (fun run =>
    (run.2.acquires, run.1[4]?.map (fun p => (p.2, p.1.now, p.1.win? p.2)),
      run.1[8]?.map (fun p => (p.2, p.1.now, p.1.win? p.2)))) =
    some ([⟨[1], .ofMillis 100, .done true⟩, ⟨[1], .ofMillis 100, .done true⟩],
      some (.acquire 0, 100, some ⟨[1], .ofMillis 100, 0⟩),
      some (.acquire 1, 100, some ⟨[1], .ofMillis 100, 100⟩)) := rfl

theorem winners_apart_lateCall :
    ∃ steps s, Run step? (System.start .empty 0) steps s ∧ firstTime ≤ 0 ∧
      s.acquires.map (·.phase) = [.done true, .done true] ∧
      ∃ r r' : System, steps[4]? = some (r, .acquire 0) ∧ steps[8]? = some (r', .acquire 1) ∧
        r.win? (.acquire 0) = some ⟨[1], .ofMillis 100, 0⟩ ∧ r.now = 100 ∧
        min (((Duration.ofMillis 100).millis : Nat) : Int) lastTime - (r.now - 0) ≤
          r'.now - r.now := by
  obtain ⟨⟨steps, s⟩, hrun, hfacts⟩ := Option.map_eq_some_iff.mp lateCall_facts
  simp only [Prod.mk.injEq, Option.map_eq_some_iff] at hfacts
  obtain ⟨hcalls, ⟨⟨r, a⟩, hfourth, rfl, hnow, hwin⟩, ⟨⟨r', b⟩, hlast, rfl, hnow', hwin'⟩⟩ := hfacts
  obtain ⟨-, hapart⟩ := winners_apart (Run.of_steps? hrun) (by decide)
  have hearly : r'.now < lastTime := by
    rw [hnow']
    decide
  exact ⟨steps, s, Run.of_steps? hrun, by decide, by rw [hcalls]; rfl, r, r', hfourth, hlast, hwin,
    hnow, (hapart 4 8 r r' _ _ _ _ (by decide) hfourth hlast hwin hwin' rfl).2 hearly⟩

/-- A lock may suppress nothing at all: of two calls for one key with the same 100 ms to live, both
    return that they have won, and they have won at the same instant. -/
theorem late_winner_excludes_nobody :
    ∃ steps s, Run step? (System.start .empty 0) steps s ∧
      s.acquires = [⟨[1], .ofMillis 100, .done true⟩, ⟨[1], .ofMillis 100, .done true⟩] ∧
      ∃ r r' : System, steps[4]? = some (r, .acquire 0) ∧ steps[8]? = some (r', .acquire 1) ∧
        r.win? (.acquire 0) = some ⟨[1], .ofMillis 100, 0⟩ ∧
        r'.win? (.acquire 1) = some ⟨[1], .ofMillis 100, 100⟩ ∧
        ¬ r.now + ((Duration.ofMillis 100).millis : Nat) ≤ r'.now := by
  obtain ⟨⟨steps, s⟩, hrun, hfacts⟩ := Option.map_eq_some_iff.mp lateCall_facts
  simp only [Prod.mk.injEq, Option.map_eq_some_iff] at hfacts
  obtain ⟨hcalls, ⟨⟨r, a⟩, hfourth, rfl, hnow, hwin⟩, ⟨⟨r', b⟩, hlast, rfl, hnow', hwin'⟩⟩ := hfacts
  refine ⟨steps, s, Run.of_steps? hrun, hcalls, r, r', hfourth, hlast, hwin, hwin', ?_⟩
  rw [hnow, hnow', Duration.millis_ofMillis]
  decide

end System

end LoraBridge.Lock
