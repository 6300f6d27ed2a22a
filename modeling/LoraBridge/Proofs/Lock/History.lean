import LoraBridge.Proofs.Lock.Register

/-! # What a store answers over time

  Calls that take locks, one after the other, while the clock never goes back. A register has no
  bytes and no last time of its own; to follow the embedded store it is told how far the clock
  goes, and then the two answer alike whatever the tree held in the beginning.

  - `Register.after`, `Tree.after`: the two after some attempts.
  - `Tree.register_after`: they stay together.
  - `Tree.Answers`: what an attempt is answered, and what it changes.
  - `history_refines`: this holds of every attempt in a history. Whoever takes a lock for `n`
    milliseconds has it for that long, and the next one who asks gets it.
-/

namespace LoraBridge.Lock

/-- A call that takes the lock of a key, at the time of the clock. -/
structure Attempt where
  now : Int
  key : String
  ttl : Duration
deriving DecidableEq, Repr

variable {a b : Attempt} {pre mid : List Attempt} {deadline : Int}

/-! ### The register -/

namespace Register

variable (r : Register)

/-- What a register answers. A lock that would outlast the clock is taken until the last time. -/
def attempt (a : Attempt) : Bool × Register :=
  if r.isLive a.key a.now then (false, r) else (true, r.lock a.key (expiryAt a.now a.ttl))

/-- The register after some attempts. -/
def after (history : List Attempt) : Register :=
  history.foldl (fun r a => (r.attempt a).2) r

theorem attempt_of_live (h : r.isLive a.key a.now = true) : r.attempt a = (false, r) := by
  simp [attempt, h]

theorem attempt_of_not_live (h : r.isLive a.key a.now = false) :
    r.attempt a = (true, r.lock a.key (expiryAt a.now a.ttl)) := by
  simp [attempt, h]

/-- An attempt is nothing to other keys. -/
theorem deadline?_attempt_of_ne {key : String} (h : key ≠ a.key) :
    (r.attempt a).2.deadline? key = r.deadline? key := by
  unfold attempt
  split
  · rfl
  · exact r.deadline?_lock_of_ne _ h

/-- As long as a lock holds, attempts leave its deadline as it is. -/
theorem deadline?_attempt {key : String} (hkey : r.deadline? key = some deadline)
    (hbefore : a.key = key → a.now < deadline) :
    (r.attempt a).2.deadline? key = some deadline := by
  by_cases h : a.key = key
  · have hlive : r.isLive a.key a.now = true :=
      r.isLive_iff.mpr ⟨deadline, by rw [h, hkey], hbefore h⟩
    rw [r.attempt_of_live hlive]
    exact hkey
  · rw [r.deadline?_attempt_of_ne (Ne.symm h)]
    exact hkey

theorem deadline?_after {key : String} (hkey : r.deadline? key = some deadline)
    (hbefore : ∀ a ∈ mid, a.key = key → a.now < deadline) :
    (r.after mid).deadline? key = some deadline := by
  induction mid generalizing r with
  | nil => exact hkey
  | cons a mid ih =>
    have hfirst : (r.attempt a).2.deadline? key = some deadline :=
      r.deadline?_attempt hkey (hbefore a List.mem_cons_self)
    exact ih (r.attempt a).2 hfirst fun m hm => hbefore m (List.mem_cons_of_mem a hm)

/-- Whether a key is locked, where its deadline is known. -/
theorem isLive_of_deadline {key : String} {now : Int} (hkey : r.deadline? key = some deadline) :
    r.isLive key now = decide (now < deadline) := by
  simp [isLive, hkey]

end Register

/-! ### The tree -/

namespace Tree

variable (t : Tree)

/-- Whether an attempt takes the lock. -/
def wins (a : Attempt) : Bool := (setIfAbsent t a.now (Text.bytes a.key) a.ttl).1

/-- The tree after an attempt. -/
def attempt (a : Attempt) : Tree := (setIfAbsent t a.now (Text.bytes a.key) a.ttl).2

/-- The tree after some attempts. -/
def after (history : List Attempt) : Tree := history.foldl attempt t

theorem after_append (history more : List Attempt) :
    t.after (history ++ more) = (t.after history).after more :=
  List.foldl_append

/-- An attempt by its two cases. -/
theorem attempt_cases (a : Attempt) :
    ((t.get? (Text.bytes a.key)).any (isLive a.now) = true ∧ t.wins a = false ∧
        t.attempt a = t) ∨
      ((t.get? (Text.bytes a.key)).any (isLive a.now) = false ∧ t.wins a = true ∧
        t.attempt a = t.put (Text.bytes a.key) (some (entry (expiryAt a.now a.ttl)))) := by
  have heq := setIfAbsent_eq t a.now (Text.bytes a.key) a.ttl
  cases hlive : (t.get? (Text.bytes a.key)).any (isLive a.now) with
  | true =>
    rw [hlive, if_pos rfl] at heq
    exact .inl ⟨rfl, by rw [wins, heq], by rw [attempt, heq]⟩
  | false =>
    rw [hlive, if_neg Bool.false_ne_true] at heq
    exact .inr ⟨rfl, by rw [wins, heq], by rw [attempt, heq]⟩

/-- A key is live in a tree if it is in what callers know of it. -/
theorem any_isLive_eq (key : String) (now : Int) :
    (t.get? (Text.bytes key)).any (isLive now) = t.register.isLive key now := by
  rw [Register.isLive, register, Option.any_map]
  rfl

end Tree

/-- An expiry is a time, since no clock goes beyond the first and the last one. -/
theorem expiryAt_bounds {now : Int} (hfirst : firstTime ≤ now) (ttl : Duration) :
    firstTime ≤ expiryAt now ttl ∧ expiryAt now ttl ≤ lastTime := by
  have hlast : (0 : Int) ≤ lastTime := by decide
  have hbelow : firstTime ≤ lastTime := by decide
  unfold expiryAt
  omega

/-- Tree and register answer alike, and stay together. -/
theorem Tree.register_attempt (t : Tree) (hfirst : firstTime ≤ a.now) :
    (t.wins a, (t.attempt a).register) = t.register.attempt a := by
  rcases t.attempt_cases a with ⟨hlive, hwins, hafter⟩ | ⟨hdead, hwins, hafter⟩
  · rw [t.any_isLive_eq] at hlive
    rw [hwins, hafter, Register.attempt_of_live _ hlive]
  · obtain ⟨hlow, hhigh⟩ := expiryAt_bounds hfirst a.ttl
    rw [t.any_isLive_eq] at hdead
    rw [hwins, hafter, Register.attempt_of_not_live _ hdead, Tree.register_put hlow hhigh]

theorem Tree.register_after (t : Tree) {history : List Attempt}
    (htimes : ∀ a ∈ history, firstTime ≤ a.now) :
    (t.after history).register = t.register.after history := by
  induction history generalizing t with
  | nil => rfl
  | cons a history ih =>
    have hone := t.register_attempt (htimes a List.mem_cons_self)
    have hrest := ih (t.attempt a) fun b hb => htimes b (List.mem_cons_of_mem a hb)
    show ((t.attempt a).after history).register = (t.register.attempt a).2.after history
    rw [hrest, ← hone]

/-! ### Single attempts -/

/-- What a tree answers to an attempt after some others, and what the attempt changes. -/
structure Tree.Answers (t : Tree) (pre : List Attempt) (a : Attempt) : Prop where
  /-- The tree is one that a register knows, -/
  register : (t.after pre).register = t.register.after pre
  /-- and the register gives the same answer. -/
  answer : (t.after pre).wins a = ((t.register.after pre).attempt a).1
  /-- The lock is taken if there is no entry, or one that cannot be read, or one that has
      expired. -/
  wins_iff : (t.after pre).wins a = true ↔
    (t.after pre).get? (Text.bytes a.key) = none ∨
      ∃ value, (t.after pre).get? (Text.bytes a.key) = some value ∧
        (value.length ≠ 8 ∨ expiryOf value ≤ a.now)
  /-- Whoever takes it leaves an entry with this expiry. -/
  installed : (t.after pre).wins a = true →
    ((t.after (pre ++ [a])).get? (Text.bytes a.key)).map expiryOf =
      some (min (a.now + min (a.ttl.millis : Int) lastTime) lastTime)
  /-- Whoever does not changes nothing. -/
  refused : (t.after pre).wins a = false → t.after (pre ++ [a]) = t.after pre
  /-- Nobody changes the entries of other keys. -/
  others : ∀ key, key ≠ Text.bytes a.key → (t.after (pre ++ [a])).get? key = (t.after pre).get? key

/-- What cannot be read expired when time began. -/
theorem isLive_eq_false_iff {now : Int} {value : Bytes} (hfirst : firstTime ≤ now) :
    isLive now value = false ↔ value.length ≠ 8 ∨ expiryOf value ≤ now := by
  by_cases hlength : value.length = 8
  · simp [isLive, hlength]
  · have hbegan : expiryOf value = firstTime := by simp [expiryOf, hlength]
    simp [isLive, hlength, hbegan, hfirst]

theorem Tree.answers (t : Tree) (htimes : ∀ b ∈ pre ++ [a], firstTime ≤ b.now) :
    t.Answers pre a := by
  have hfirst : firstTime ≤ a.now := htimes a (by simp)
  have hregister : (t.after pre).register = t.register.after pre :=
    t.register_after fun b hb => htimes b (List.mem_append_left _ hb)
  have hone := (t.after pre).register_attempt hfirst
  have hnext : t.after (pre ++ [a]) = (t.after pre).attempt a := t.after_append pre [a]
  rw [hregister] at hone
  constructor
  case register => exact hregister
  case answer => rw [← hone]
  case wins_iff =>
    rcases (t.after pre).attempt_cases a with ⟨hlive, hwins, -⟩ | ⟨hdead, hwins, -⟩
    · obtain ⟨value, hvalue, hholds⟩ : ∃ value, (t.after pre).get? (Text.bytes a.key) =
          some value ∧ isLive a.now value = true := by
        simpa [Option.any_eq_true] using hlive
      constructor
      · intro h
        simp [hwins] at h
      · rintro (hnone | ⟨other, hother, hexpired⟩)
        · simp [hvalue] at hnone
        · obtain rfl := Option.some.inj (hvalue.symm.trans hother)
          simp [(isLive_eq_false_iff hfirst).mpr hexpired] at hholds
    · refine iff_of_true hwins ?_
      cases hget : (t.after pre).get? (Text.bytes a.key) with
      | none => exact .inl rfl
      | some value =>
        rw [hget] at hdead
        exact .inr ⟨value, rfl, (isLive_eq_false_iff hfirst).mp hdead⟩
  case installed =>
    intro h
    rcases (t.after pre).attempt_cases a with ⟨-, hwins, -⟩ | ⟨-, -, hafter⟩
    · simp [hwins] at h
    · obtain ⟨hlow, hhigh⟩ := expiryAt_bounds hfirst a.ttl
      rw [hnext, hafter, Tree.get?_put_self, Option.map_some, expiryOf_entry hlow hhigh]
      rfl
  case refused =>
    intro h
    rcases (t.after pre).attempt_cases a with ⟨-, -, hafter⟩ | ⟨-, hwins, -⟩
    · rw [hnext, hafter]
    · simp [hwins] at h
  case others =>
    intro key hkey
    rcases (t.after pre).attempt_cases a with ⟨-, -, hafter⟩ | ⟨-, -, hafter⟩
    · rw [hnext, hafter]
    · rw [hnext, hafter, Tree.get?_put_of_ne _ _ hkey]

/-! ### Histories -/

/-- Once a lock has been taken, whether the next attempt takes it depends on the deadline alone, as
    long as all attempts in between came before it. -/
theorem Tree.wins_after (t : Tree) (htimes : ∀ c ∈ a :: (mid ++ [b]), firstTime ≤ c.now)
    (hkey : b.key = a.key) (hwins : t.wins a = true)
    (hmid : ∀ m ∈ mid, m.key = a.key → m.now < expiryAt a.now a.ttl) :
    (t.after (a :: mid)).wins b = !decide (b.now < expiryAt a.now a.ttl) := by
  have hfirst : firstTime ≤ a.now := htimes a List.mem_cons_self
  have hlater : ∀ c ∈ mid, firstTime ≤ c.now := fun c hc => htimes c (by simp [hc])
  -- the register knows the deadline after the attempt, and still does at the end
  have hone := t.register_attempt hfirst
  have hdeadline : (t.attempt a).register.deadline? a.key = some (expiryAt a.now a.ttl) := by
    cases hlive : t.register.isLive a.key a.now with
    | true => simp [Register.attempt_of_live _ hlive, hwins] at hone
    | false =>
      rw [Register.attempt_of_not_live _ hlive] at hone
      rw [(Prod.mk.inj hone).2, Register.deadline?_lock_self]
  have hkept := Register.deadline?_after _ hdeadline hmid
  rw [← Tree.register_after _ hlater, ← hkey] at hkept
  have hanswer : ((t.attempt a).after mid).wins b =
      (((t.attempt a).after mid).register.attempt b).1 :=
    congrArg Prod.fst (((t.attempt a).after mid).register_attempt (htimes b (by simp)))
  have hlive : ((t.attempt a).after mid).register.isLive b.key b.now =
      decide (b.now < expiryAt a.now a.ttl) := Register.isLive_of_deadline _ hkept
  show ((t.attempt a).after mid).wins b = _
  by_cases hbefore : b.now < expiryAt a.now a.ttl
  · simp only [hbefore, decide_true, Bool.not_true] at hlive ⊢
    rw [hanswer, Register.attempt_of_live _ hlive]
  · simp only [hbefore, decide_false, Bool.not_false] at hlive ⊢
    rw [hanswer, Register.attempt_of_not_live _ hlive]

/-- In a history of attempts at times that never go back, every one is answered as by a register. If
    one takes a lock for `n` milliseconds, and that is not beyond the last time, then all attempts at
    the key fail for so long, and the first one after that succeeds. -/
theorem history_refines (t : Tree) {history : List Attempt}
    (htimes : ∀ a ∈ history, firstTime ≤ a.now)
    (hclock : history.Pairwise fun a b => a.now ≤ b.now) :
    (∀ pre a post, history = pre ++ a :: post → t.Answers pre a) ∧
      ∀ pre a mid b post n, history = pre ++ a :: (mid ++ b :: post) → b.key = a.key →
        n = min (a.ttl.millis : Int) lastTime → a.now + n ≤ lastTime →
        (t.after pre).wins a = true →
        (b.now < a.now + n → (t.after (pre ++ a :: mid)).wins b = false) ∧
          (a.now + n ≤ b.now → (∀ m ∈ mid, m.key = a.key → m.now < a.now + n) →
            (t.after (pre ++ a :: mid)).wins b = true) := by
  refine ⟨?_, ?_⟩
  · rintro pre a post rfl
    refine t.answers fun b hb => htimes b ?_
    rcases List.mem_append.mp hb with hb | hb
    · exact List.mem_append_left _ hb
    · obtain rfl := List.mem_singleton.mp hb
      simp
  · rintro pre a mid b post n rfl hkey rfl hfits hwins
    have hdeadline : expiryAt a.now a.ttl = a.now + min (a.ttl.millis : Int) lastTime := by
      rw [expiryAt, Int.min_eq_left hfits]
    have hrest : ∀ c ∈ a :: (mid ++ [b]), firstTime ≤ c.now := by
      intro c hc
      refine htimes c (List.mem_append_right pre ?_)
      rw [← List.cons_append] at hc ⊢
      rcases List.mem_append.mp hc with hc | hc
      · exact List.mem_append_left _ hc
      · obtain rfl := List.mem_singleton.mp hc
        simp
    rw [t.after_append, ← hdeadline]
    constructor
    · intro hbefore
      -- the clock has not gone back, so what came in between was before the deadline, too
      have hmid : ∀ m ∈ mid, m.now ≤ b.now := by
        have hlater := (List.pairwise_cons.mp (List.pairwise_append.mp hclock).2.1).2
        intro m hm
        exact (List.pairwise_append.mp hlater).2.2 m hm b List.mem_cons_self
      have hanswer := (t.after pre).wins_after hrest hkey hwins
        fun m hm _ => Int.lt_of_le_of_lt (hmid m hm) hbefore
      simpa [hbefore] using hanswer
    · intro hexpired hmid
      rw [(t.after pre).wins_after hrest hkey hwins hmid]
      simpa using hexpired

/-- A tree with an entry that cannot be read. -/
def unreadable : Tree := ⟨[(Text.bytes "k", [0])], List.pairwise_singleton _ _⟩

/-- Three attempts at one key, the second one in the last millisecond of the lock of the first one,
    and the third one right after that. -/
def takeover : List Attempt :=
  [⟨0, "k", .ofMillis 100⟩, ⟨99, "k", .ofMillis 100⟩, ⟨100, "k", .ofMillis 100⟩]

theorem history_refines_takeover :
    (∀ a ∈ takeover, firstTime ≤ a.now) ∧ (takeover.Pairwise fun a b => a.now ≤ b.now) ∧
      unreadable.wins ⟨0, "k", .ofMillis 100⟩ = true ∧
      (unreadable.after (takeover.take 1)).wins ⟨99, "k", .ofMillis 100⟩ = false ∧
      (unreadable.after (takeover.take 2)).wins ⟨100, "k", .ofMillis 100⟩ = true := by
  have htimes : ∀ a ∈ takeover, firstTime ≤ a.now := by decide
  have hclock : takeover.Pairwise fun a b => a.now ≤ b.now := by decide
  obtain ⟨hanswers, hheld⟩ := history_refines unreadable htimes hclock
  have hentry : unreadable.get? (Text.bytes "k") = some [0] := by simp [Tree.get?, unreadable]
  -- the entry that cannot be read does not stand in the way of the first one
  have hfirst : unreadable.wins ⟨0, "k", .ofMillis 100⟩ = true :=
    (hanswers [] _ _ rfl).wins_iff.mpr (.inr ⟨[0], hentry, .inl (by decide)⟩)
  have hsecond := hheld [] _ [] _ [⟨100, "k", .ofMillis 100⟩] 100 rfl rfl
    (by decide) (by decide) hfirst
  have hthird := hheld [] _ [⟨99, "k", .ofMillis 100⟩] _ [] 100 rfl rfl
    (by decide) (by decide) hfirst
  exact ⟨htimes, hclock, hfirst, hsecond.1 (by decide), hthird.2 (by decide) (by decide)⟩

end LoraBridge.Lock
