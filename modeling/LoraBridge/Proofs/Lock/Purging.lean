import LoraBridge.Proofs.Lock.History

/-! # What purging changes

  A purge takes away what no longer holds anything. So it gives back room and nothing else: those
  who take locks are answered as if nobody had ever purged the store.

  - `entries_purge`: what is left is what is still live, byte for byte and in the same order.
  - `run_purge`: a purge that nobody interferes with comes to that, step by step.
  - `SameLive`: two trees differ in nothing but entries that have expired. Attempts answer alike in
    both, and they stay like this.
  - `purges_invisible`: no attempt in a history finds out whether the store was purged before.
-/

namespace LoraBridge.Lock

variable {t u : Tree} {now later : Int} {key : Bytes} {e : Bytes × Bytes}

/-! ### What a tree holds -/

namespace Tree

/-- Keys are different from each other, since they increase. -/
theorem keys_differ (t : Tree) : t.entries.Pairwise fun a b => a.1 ≠ b.1 := by
  refine t.ordered.imp ?_
  intro a b hlt heq
  rw [heq] at hlt
  exact List.lt_irrefl _ hlt

/-- What is found under a key is an entry, and every entry is found under its key. -/
theorem get?_eq_some_iff {value : Bytes} :
    t.get? key = some value ↔ (key, value) ∈ t.entries := by
  constructor
  · intro h
    obtain ⟨e, hfind, rfl⟩ := Option.map_eq_some_iff.mp h
    have hkey : e.1 = key := by simpa using List.find?_some hfind
    exact hkey ▸ List.mem_of_find?_eq_some hfind
  · have hdiffer := t.keys_differ
    unfold get?
    generalize t.entries = entries at hdiffer ⊢
    intro h
    induction entries with
    | nil => cases h
    | cons f rest ih =>
      obtain ⟨hfirst, hrest⟩ := List.pairwise_cons.mp hdiffer
      rcases List.mem_cons.mp h with rfl | h
      · simp
      · rw [List.find?_cons_of_neg (by simpa using hfirst _ h)]
        exact ih hrest h

/-- What is found under a key once only some of the entries are left. -/
theorem get?_of_filter {p : Bytes → Bool} (h : u.entries = t.entries.filter fun e => p e.2) :
    u.get? key = (t.get? key).filter p := by
  refine Option.ext fun value => ?_
  rw [get?_eq_some_iff, h, List.mem_filter, Option.filter_eq_some_iff, get?_eq_some_iff]

end Tree

/-! ### What a purge does -/

/-- Removes entries one by one unless they have changed, and counts those that are removed. -/
def sweepAll (found : List (Bytes × Bytes)) (removed : Nat) (tree : Tree) : Nat × Tree :=
  found.foldl (fun (removed, tree) e => sweep e removed tree) (removed, tree)

theorem sweepAll_cons (found : List (Bytes × Bytes)) (removed : Nat) (tree : Tree) :
    sweepAll (e :: found) removed tree =
      sweepAll found (sweep e removed tree).1 (sweep e removed tree).2 :=
  rfl

/-- Entries that have not changed are all removed. -/
theorem sweepAll_of_found (found : List (Bytes × Bytes)) (removed : Nat)
    (hfound : ∀ e ∈ found, e ∈ t.entries) (hdiffer : found.Pairwise fun a b => a.1 ≠ b.1) :
    (sweepAll found removed t).1 = removed + found.length ∧
      (sweepAll found removed t).2.entries =
        t.entries.filter fun e => found.all fun f => e.1 ≠ f.1 := by
  induction found generalizing t removed with
  | nil => exact ⟨rfl, (List.filter_eq_self.mpr fun _ _ => rfl).symm⟩
  | cons f found ih =>
    obtain ⟨hfirst, hrest⟩ := List.pairwise_cons.mp hdiffer
    have hsweep : sweep f removed t = (removed + 1, t.put f.1 none) := by
      simp [sweep, Tree.compareAndSwap?, Tree.get?_eq_some_iff.mpr (hfound f List.mem_cons_self)]
    have hleft : (t.put f.1 none).entries = t.entries.filter (·.1 ≠ f.1) := rfl
    -- the others are still there, since they have other keys
    have hothers : ∀ e ∈ found, e ∈ (t.put f.1 none).entries := by
      intro e he
      rw [hleft, List.mem_filter, decide_eq_true_eq]
      exact ⟨hfound e (List.mem_cons_of_mem f he), Ne.symm (hfirst e he)⟩
    obtain ⟨hcount, hentries⟩ := ih (removed + 1) hothers hrest
    rw [sweepAll_cons, hsweep]
    constructor
    · rw [hcount, List.length_cons]
      omega
    · rw [hentries, hleft, List.filter_filter]
      simp only [List.all_cons, Bool.and_comm]

theorem mem_expired : e ∈ expired now t ↔ e ∈ t.entries ∧ isLive now e.2 = false := by
  simp [expired]

theorem purge_cases (t : Tree) (now : Int) :
    (purge t now).1 = (expired now t).length ∧
      (purge t now).2.entries = t.entries.filter fun e => isLive now e.2 := by
  obtain ⟨hcount, hleft⟩ := sweepAll_of_found (expired now t) 0
    (fun e he => (mem_expired.mp he).1) (t.keys_differ.filter _)
  refine ⟨hcount.trans (Nat.zero_add _), hleft.trans ?_⟩
  refine List.filter_congr fun e he => ?_
  -- of the entries under one key, of which there is one, either all have expired or none
  cases hlive : isLive now e.2 with
  | true =>
    rw [List.all_eq_true]
    intro f hf
    obtain ⟨hf, hdead⟩ := mem_expired.mp hf
    rw [decide_eq_true_eq]
    intro hkey
    have hvalue : t.get? f.1 = some e.2 := hkey ▸ Tree.get?_eq_some_iff.mpr he
    rw [Tree.get?_eq_some_iff.mpr hf, Option.some.injEq] at hvalue
    rw [hvalue, hlive] at hdead
    cases hdead
  | false =>
    rw [List.all_eq_false]
    exact ⟨e, mem_expired.mpr ⟨he, hlive⟩, by simp⟩

/-- What is still live stays as it is. -/
theorem entries_purge (t : Tree) (now : Int) :
    (purge t now).2.entries = t.entries.filter fun e => isLive now e.2 :=
  (purge_cases t now).2

theorem get?_purge (t : Tree) (now : Int) (key : Bytes) :
    (purge t now).2.get? key = (t.get? key).filter (isLive now) :=
  Tree.get?_of_filter (entries_purge t now)

/-- Where nothing has expired, nothing is removed. -/
theorem purge_purge (t : Tree) (now : Int) :
    purge (purge t now).2 now = (0, (purge t now).2) := by
  have hnone : expired now (purge t now).2 = [] := by
    rw [expired, entries_purge, List.filter_filter]
    simp
  rw [purge, hnone]
  rfl

/-! ### The steps of a purge -/

/-- Takes `n` steps at one time. -/
def PurgePhase.run (now : Int) : Nat → PurgePhase × Tree → PurgePhase × Tree
  | 0, s => s
  | n + 1, (phase, tree) => run now n (phase.step now tree)

theorem PurgePhase.run_sweeping (found : List (Bytes × Bytes)) (removed : Nat) (t : Tree) :
    PurgePhase.run later (found.length + 1) (.sweeping now found removed, t) =
      (.done (sweepAll found removed t).1, (sweepAll found removed t).2) := by
  induction found generalizing removed t with
  | nil => rfl
  | cons e found ih =>
    rw [sweepAll_cons, ← ih]
    rfl

/-- A purge that nobody interferes with. -/
theorem run_purge (t : Tree) (now : Int) :
    PurgePhase.run now ((expired now t).length + 3) (.start, t) =
      (.done (purge t now).1, (purge t now).2) :=
  PurgePhase.run_sweeping (expired now t) 0 t

/-! ### Trees that differ in what has expired -/

/-- Two trees hold the same, save for entries that have expired. -/
def SameLive (now : Int) (t u : Tree) : Prop :=
  ∀ key, (t.get? key).filter (isLive now) = (u.get? key).filter (isLive now)

/-- What is live later is live now. -/
theorem isLive_mono {value : Bytes} (hle : now ≤ later) (h : isLive later value = true) :
    isLive now value = true := by
  simp only [isLive, decide_eq_true_eq] at h ⊢
  omega

theorem filter_isLive (hle : now ≤ later) (value? : Option Bytes) :
    (value?.filter (isLive now)).filter (isLive later) = value?.filter (isLive later) := by
  refine Option.ext fun value => ?_
  simp only [Option.filter_eq_some_iff]
  constructor
  · rintro ⟨⟨hvalue, -⟩, hlive⟩
    exact ⟨hvalue, hlive⟩
  · rintro ⟨hvalue, hlive⟩
    exact ⟨⟨hvalue, isLive_mono hle hlive⟩, hlive⟩

namespace SameLive

theorem refl (now : Int) (t : Tree) : SameLive now t t := fun _ => rfl

theorem mono (h : SameLive now t u) (hle : now ≤ later) : SameLive later t u := by
  intro key
  rw [← filter_isLive hle (t.get? key), h key, filter_isLive hle]

/-- A purge takes away nothing but what has expired. -/
theorem purge (h : SameLive now t u) : SameLive now (Lock.purge t now).2 u := by
  intro key
  rw [get?_purge, filter_isLive (Int.le_refl now), h key]

/-- Whether a key is locked shows in what is live. -/
theorem any_isLive (h : SameLive now t u) (key : Bytes) :
    (t.get? key).any (isLive now) = (u.get? key).any (isLive now) := by
  have hany : ∀ value? : Option Bytes,
      value?.any (isLive now) = (value?.filter (isLive now)).isSome := by
    intro value?
    cases value? with
    | none => rfl
    | some value => cases hlive : isLive now value <;> simp [hlive]
  rw [hany, h key, ← hany]

theorem put (h : SameLive now t u) (key : Bytes) (value? : Option Bytes) :
    SameLive now (t.put key value?) (u.put key value?) := by
  intro k
  by_cases hk : k = key
  · rw [hk, Tree.get?_put_self, Tree.get?_put_self]
  · rw [Tree.get?_put_of_ne _ _ hk, Tree.get?_put_of_ne _ _ hk, h k]

/-- An attempt is answered alike, and what it puts there it puts into both. -/
theorem attempt {a : Attempt} (h : SameLive a.now t u) :
    t.wins a = u.wins a ∧ SameLive a.now (t.attempt a) (u.attempt a) := by
  have hsame := h.any_isLive (Text.bytes a.key)
  rcases t.attempt_cases a with ⟨hlive, hwins, hafter⟩ | ⟨hdead, hwins, hafter⟩
  · rcases u.attempt_cases a with ⟨-, hwins', hafter'⟩ | ⟨hdead', -, -⟩
    · rw [hwins, hwins', hafter, hafter']
      exact ⟨rfl, h⟩
    · rw [hlive, hdead'] at hsame
      cases hsame
  · rcases u.attempt_cases a with ⟨hlive', -, -⟩ | ⟨-, hwins', hafter'⟩
    · rw [hdead, hlive'] at hsame
      cases hsame
    · rw [hwins, hwins', hafter, hafter']
      exact ⟨rfl, h.put _ _⟩

end SameLive

/-! ### Histories with purges -/

/-- A call of the store. -/
inductive Call where
  | attempt (a : Attempt)
  | purge (now : Int)
deriving DecidableEq, Repr

/-- When a call is made. -/
def Call.time : Call → Int
  | .attempt a => a.now
  | .purge now => now

/-- Whether a call takes a lock. -/
def Call.isAttempt : Call → Bool
  | .attempt _ => true
  | .purge _ => false

namespace Tree

/-- The tree after a call. -/
def call (t : Tree) : Call → Tree
  | .attempt a => t.attempt a
  | .purge now => (Lock.purge t now).2

/-- The tree after some calls. -/
def calls (t : Tree) (history : List Call) : Tree := history.foldl call t

/-- What those who take locks are answered. -/
def verdicts (t : Tree) : List Call → List Bool
  | [] => []
  | .attempt a :: history => t.wins a :: (t.attempt a).verdicts history
  | .purge now :: history => (Lock.purge t now).2.verdicts history

theorem calls_append (t : Tree) (history more : List Call) :
    t.calls (history ++ more) = (t.calls history).calls more :=
  List.foldl_append

/-- What a purge does to a tree. -/
structure Purged (t : Tree) (now : Int) : Prop where
  /-- Its steps, when nobody interferes, come to an end with this. -/
  steps : ∃ n,
    PurgePhase.run now n (.start, t) = (.done (Lock.purge t now).1, (Lock.purge t now).2)
  /-- The entries that have expired are gone, and the others are as they were. -/
  entries : (Lock.purge t now).2.entries = t.entries.filter fun e => !decide (expiryOf e.2 ≤ now)
  /-- It gives the number of those that are gone. -/
  count : (Lock.purge t now).1 = (t.entries.filter fun e => expiryOf e.2 ≤ now).length

theorem purged (t : Tree) (now : Int) : t.Purged now := by
  constructor
  case steps => exact ⟨_, run_purge t now⟩
  case entries =>
    rw [entries_purge]
    refine List.filter_congr fun e _ => ?_
    rw [isLive, ← decide_not, decide_eq_decide]
    omega
  case count =>
    rw [(purge_cases t now).1, expired]
    congr 1
    refine List.filter_congr fun e _ => ?_
    rw [isLive, ← decide_not, decide_eq_decide]
    omega

end Tree

/-- Trees that differ in what has expired give the same answers, with purges and without. -/
theorem SameLive.verdicts_eq {history : List Call} (h : SameLive now t u)
    (hstart : ∀ c ∈ history, now ≤ c.time)
    (hclock : history.Pairwise fun a b => a.time ≤ b.time) :
    t.verdicts history = u.verdicts (history.filter Call.isAttempt) := by
  induction history generalizing now t u with
  | nil => rfl
  | cons c history ih =>
    obtain ⟨hfirst, hrest⟩ := List.pairwise_cons.mp hclock
    have hnow : SameLive c.time t u := h.mono (hstart c List.mem_cons_self)
    cases c with
    | attempt a =>
      obtain ⟨hwins, hafter⟩ := hnow.attempt
      rw [List.filter_cons_of_pos rfl]
      simp only [Tree.verdicts]
      rw [hwins, ih hafter hfirst hrest]
    | purge now =>
      rw [List.filter_cons_of_neg Bool.false_ne_true]
      exact ih hnow.purge hfirst hrest

/-- Nothing changes while no attempt succeeds, once the store has been purged at this time. -/
theorem Tree.calls_of_refused {history : List Call} (hpurged : (Lock.purge t now).2 = t)
    (htimes : ∀ c ∈ history, c.time = now) (hrefused : ∀ won ∈ t.verdicts history, won = false) :
    t.calls history = t := by
  induction history with
  | nil => rfl
  | cons c history ih =>
    have hsame : t.call c = t := by
      cases c with
      | attempt a =>
        have hfirst : t.wins a = false := hrefused _ List.mem_cons_self
        rcases t.attempt_cases a with ⟨-, -, hafter⟩ | ⟨-, hwins, -⟩
        · exact hafter
        · rw [hfirst] at hwins
          cases hwins
      | purge later =>
        obtain rfl : later = now := htimes _ List.mem_cons_self
        exact hpurged
    have hlater : ∀ won ∈ t.verdicts history, won = false := by
      intro won hwon
      cases c with
      | attempt a =>
        have hafter : t.attempt a = t := hsame
        rw [verdicts, hafter] at hrefused
        exact hrefused won (List.mem_cons_of_mem _ hwon)
      | purge later =>
        have hafter : (Lock.purge t later).2 = t := hsame
        rw [verdicts, hafter] at hrefused
        exact hrefused won hwon
    show (t.call c).calls history = t
    rw [hsame]
    exact ih (fun c hc => htimes c (List.mem_cons_of_mem _ hc)) hlater

/-- In a history of calls at times that never go back, all attempts are answered as if there had
    been no purges. A purge removes what has expired and counts it, and leaves nothing for another one
    at the same time, unless an attempt in between succeeds. -/
theorem purges_invisible (t : Tree) {history : List Call}
    (hclock : history.Pairwise fun a b => a.time ≤ b.time) :
    t.verdicts history = t.verdicts (history.filter Call.isAttempt) ∧
      ∀ pre now post, history = pre ++ .purge now :: post →
        (t.calls pre).Purged now ∧
          ∀ mid rest, post = mid ++ .purge now :: rest →
            (∀ won ∈ (t.calls (pre ++ [.purge now])).verdicts mid, won = false) →
            (purge (t.calls (pre ++ .purge now :: mid)) now).1 = 0 := by
  constructor
  · cases history with
    | nil => rfl
    | cons c history =>
      have hstart : ∀ d ∈ c :: history, c.time ≤ d.time :=
        List.forall_mem_cons.mpr ⟨Int.le_refl _, (List.pairwise_cons.mp hclock).1⟩
      exact (SameLive.refl c.time t).verdicts_eq hstart hclock
  · rintro pre now post rfl
    refine ⟨(t.calls pre).purged now, ?_⟩
    rintro mid rest rfl hrefused
    -- the clock stands still between the two purges
    have hlater := (List.pairwise_append.mp hclock).2.1
    have htimes : ∀ c ∈ mid, c.time = now := by
      intro c hc
      obtain ⟨hfirst, hrest⟩ := List.pairwise_cons.mp hlater
      have hlow : now ≤ c.time := hfirst c (List.mem_append_left _ hc)
      have hhigh : c.time ≤ now :=
        (List.pairwise_append.mp hrest).2.2 c hc (.purge now) List.mem_cons_self
      exact Int.le_antisymm hhigh hlow
    rw [t.calls_append] at hrefused ⊢
    have hagain := purge_purge (t.calls pre) now
    have hsame : (purge (t.calls pre) now).2.calls mid = (purge (t.calls pre) now).2 :=
      Tree.calls_of_refused (by rw [hagain]) htimes hrefused
    show (purge ((purge (t.calls pre) now).2.calls mid) now).1 = 0
    rw [hsame, hagain]

/-- A lock is taken, expires while the store is purged, and is taken again. The store is purged
    twice more at that time, which removes nothing, since the lock in between is refused. -/
def purgedHistory : List Call :=
  [.attempt ⟨0, "k", .ofMillis 100⟩, .purge 99, .purge 100, .attempt ⟨100, "k", .ofMillis 100⟩,
    .purge 100, .attempt ⟨100, "k", .ofMillis 100⟩, .purge 100]

theorem purges_invisible_expiredBetween :
    (purgedHistory.Pairwise fun a b => a.time ≤ b.time) ∧
      unreadable.verdicts purgedHistory =
        unreadable.verdicts (purgedHistory.filter Call.isAttempt) ∧
      unreadable.verdicts purgedHistory = [true, true, false] ∧
      (purge (unreadable.calls (purgedHistory.take 2)) 100).1 = 1 ∧
      (purge (unreadable.calls (purgedHistory.take 6)) 100).1 = 0 := by
  have hclock : purgedHistory.Pairwise fun a b => a.time ≤ b.time := by decide
  obtain ⟨hsame, hpurges⟩ := purges_invisible unreadable hclock
  have hcount := (hpurges (purgedHistory.take 2) 100 _ rfl).1.count
  have hagain := (hpurges (purgedHistory.take 4) 100 _ rfl).2 [_] [] rfl (by decide +kernel)
  exact ⟨hclock, hsame, by decide +kernel, hcount.trans (by decide +kernel), hagain⟩

end LoraBridge.Lock
