import LoraBridge.Proofs.Lock.Agreement

/-! # Locks that hold when they are granted

  Whoever is granted a lock relies on it from that instant on. Both stores turn the time to live
  into whole milliseconds. The remote one never asks for less than one. The embedded one does, and
  then the entry has expired when it is written: whoever asks next at the same instant is granted
  the lock as well.

  - `setIfAbsent_of_granted`: the embedded store refuses a lock that it has just granted, provided
    that the lock has at least a millisecond to live.
  - `Keeper.setIfAbsent_of_granted`: the remote store always does.
  - `granted_refused`: both together.
  - `sliver_granted_twice`: a lock of half a millisecond.
-/

namespace LoraBridge.Lock

open Remote (Request Reply)

variable {σ : Type} {now : Int}

/-! ### The embedded store -/

/-- An expiry is ahead of the clock if there is at least a whole millisecond to live. -/
theorem lt_expiryAt_iff (hlast : now < lastTime) (ttl : Duration) :
    now < expiryAt now ttl ↔ 0 < ttl.millis := by
  have hend : (0 : Int) < lastTime := by decide
  unfold expiryAt
  omega

theorem millis_pos_iff (ttl : Duration) :
    0 < ttl.millis ↔ (Duration.ofMillis 1).nanos ≤ ttl.nanos :=
  Nat.div_pos_iff.trans (and_iff_right (by decide))

/-- What the embedded store answers at the instant at which it has granted a lock. -/
theorem setIfAbsent_of_granted (t : Tree) (hfirst : firstTime ≤ now) (hlast : now < lastTime)
    (key : Bytes) (ttl again : Duration) (hgranted : (setIfAbsent t now key ttl).1 = true) :
    (setIfAbsent (setIfAbsent t now key ttl).2 now key again).1 = decide (ttl.millis = 0) := by
  rw [setIfAbsent_eq t] at hgranted ⊢
  split at hgranted
  · cases hgranted
  · next hdead =>
    obtain ⟨hlow, hhigh⟩ := expiryAt_bounds hfirst ttl
    -- the entry is live if its expiry is ahead of the clock
    have hlive : isLive now (entry (expiryAt now ttl)) = decide (0 < ttl.millis) := by
      rw [isLive, expiryOf_entry hlow hhigh, decide_eq_decide]
      exact lt_expiryAt_iff hlast ttl
    rw [if_neg hdead, setIfAbsent_eq, Tree.get?_put_self, Option.any_some, hlive]
    by_cases hzero : ttl.millis = 0
    · simp [hzero]
    · simp [hzero, Nat.pos_of_ne_zero hzero]

/-! ### The remote store -/

/-- A server of the remote store that takes every length of at least a millisecond, however long it
    is. A key that was set is there for so long, and as long as it is there, it is not set again. -/
structure Keeper (σ : Type) where
  /-- What it replies to a command that arrives at some time. -/
  answer : σ → Int → Request → Reply × σ
  /-- Whether a key is there at some time, if no more commands arrive until then. -/
  has : σ → String → Int → Bool
  answer_of_has : ∀ s key value {now n}, 0 < n → has s key now = true →
    (answer s now (setCommand key value n)).1 = .empty
  has_of_value : ∀ s key value {now n}, 0 < n →
    (answer s now (setCommand key value n)).1 = .value →
    ∀ later, now ≤ later → later < now + n →
      has (answer s now (setCommand key value n)).2 key later = true

/-- Whatever the time to live is, the server is asked for a millisecond at least. -/
theorem ttlArgument_pos (ttl : Duration) : 0 < Remote.ttlArgument ttl :=
  Nat.le_max_right _ _

theorem reply_of_setResult {reply : Reply} (h : Remote.setResult reply = .ok true) :
    reply = .value := by
  cases reply with
  | value => rfl
  | _ => cases h

/-- What the remote store answers at the instant at which it has granted a lock. -/
theorem Keeper.setIfAbsent_of_granted (server : Keeper σ) (s : σ) (key : String)
    (ttl again : Duration)
    (hgranted : (Remote.setIfAbsent (server.answer s now) key ttl).1 = .ok true) :
    (Remote.setIfAbsent
      (server.answer (Remote.setIfAbsent (server.answer s now) key ttl).2 now) key again).1 =
        .ok false := by
  have hvalue := reply_of_setResult hgranted
  have hpos := ttlArgument_pos ttl
  have hkept := server.has_of_value s key "lock" hpos hvalue now (Int.le_refl _) (by omega)
  exact congrArg Remote.setResult
    (server.answer_of_has _ key "lock" (ttlArgument_pos again) hkept)

/-! ### Both stores -/

/-- Whoever is granted a lock by the remote store holds it: at the same instant nobody else is
    granted it. With the embedded store that is so exactly if the lock has at least a millisecond to
    live. -/
theorem granted_refused (t : Tree) (server : Keeper σ) (s : σ) (hfirst : firstTime ≤ now)
    (hlast : now < lastTime) (key : String) (ttl again : Duration) :
    (((Store.embedded t).setIfAbsent now key ttl).1 = .ok true →
      ((((Store.embedded t).setIfAbsent now key ttl).2.setIfAbsent now key again).1 = .ok false ↔
        (Duration.ofMillis 1).nanos ≤ ttl.nanos)) ∧
    ((Remote.setIfAbsent (server.answer s now) key ttl).1 = .ok true →
      (Remote.setIfAbsent
        (server.answer (Remote.setIfAbsent (server.answer s now) key ttl).2 now) key again).1 =
          .ok false) := by
  refine ⟨?_, server.setIfAbsent_of_granted s key ttl again⟩
  intro hgranted
  have hwon : (setIfAbsent t now (Text.bytes key) ttl).1 = true := Except.ok.inj hgranted
  have hnext := setIfAbsent_of_granted t hfirst hlast (Text.bytes key) ttl again hwon
  rw [← millis_pos_iff, Nat.pos_iff_ne_zero]
  show Except.ok (setIfAbsent (setIfAbsent t now (Text.bytes key) ttl).2 now (Text.bytes key)
    again).1 = Except.ok false ↔ _
  rw [hnext, Except.ok.injEq, decide_eq_false_iff_not]

/-- A server that keeps until when each key is there, and takes every length. -/
def boundlessAnswer (r : Register) (now : Int) : Request → Reply × Register
  | ["SET", key, _, "PX", n, "NX"] =>
    if r.isLive key now then (.empty, r)
    else (.value, r.lock key (now + Nat.ofDigitChars 10 n.toList 0))
  | _ => (.error, r)

theorem boundlessAnswer_setCommand (r : Register) (now : Int) (key value : String) (n : Nat) :
    boundlessAnswer r now (setCommand key value n) =
      if r.isLive key now then (.empty, r) else (.value, r.lock key (now + n)) := by
  have htext : (toString n).toList = Nat.toDigits 10 n := String.toList_ofList
  rw [setCommand, boundlessAnswer, htext, Nat.ofDigitChars_ten_toDigits]

/-- Such a server keeps the promises. -/
def boundless : Keeper Register where
  answer := boundlessAnswer
  has r key now := r.isLive key now
  answer_of_has r key value now n _ hlive := by
    rw [boundlessAnswer_setCommand, if_pos hlive]
  has_of_value r key value now n _ hvalue later _ hlater := by
    rw [boundlessAnswer_setCommand] at hvalue ⊢
    split at hvalue
    · cases hvalue
    · next hfree =>
      rw [if_neg hfree, Register.isLive_lock, if_pos rfl, decide_eq_true_eq]
      exact hlater

/-- Half a millisecond. -/
def sliver : Duration := .ofMicros 500

/-- For a lock of a millisecond both stores refuse the second caller, and for one of half a
    millisecond the remote one does. -/
theorem granted_refused_milli :
    firstTime ≤ 0 ∧ 0 < lastTime ∧
      ((Store.embedded .empty).setIfAbsent 0 "k" (.ofMillis 1)).1 = .ok true ∧
      (((Store.embedded .empty).setIfAbsent 0 "k" (.ofMillis 1)).2.setIfAbsent 0 "k" sliver).1 =
        .ok false ∧
      (Remote.setIfAbsent (boundless.answer ⟨fun _ => none⟩ 0) "k" sliver).1 = .ok true ∧
      (Remote.setIfAbsent (boundless.answer
        (Remote.setIfAbsent (boundless.answer ⟨fun _ => none⟩ 0) "k" sliver).2 0) "k" sliver).1 =
          .ok false := by
  have hfirst : firstTime ≤ 0 := by decide
  have hlast : (0 : Int) < lastTime := by decide
  have hembedded : ((Store.embedded .empty).setIfAbsent 0 "k" (.ofMillis 1)).1 = .ok true := rfl
  have hremote : (Remote.setIfAbsent (boundless.answer ⟨fun _ => none⟩ 0) "k" sliver).1 =
      .ok true := rfl
  have hmilli := granted_refused .empty boundless ⟨fun _ => none⟩ hfirst hlast "k" (.ofMillis 1)
    sliver
  have hsliver := granted_refused .empty boundless ⟨fun _ => none⟩ hfirst hlast "k" sliver sliver
  exact ⟨hfirst, hlast, hembedded, (hmilli.1 hembedded).mpr (Nat.le_refl _), hremote,
    hsliver.2 hremote⟩

/-- The embedded store grants a lock of half a millisecond twice at the same instant. -/
theorem sliver_granted_twice :
    0 < sliver.nanos ∧ (0 : Int) < lastTime ∧
      ((Store.embedded .empty).setIfAbsent 0 "k" sliver).1 = .ok true ∧
      (((Store.embedded .empty).setIfAbsent 0 "k" sliver).2.setIfAbsent 0 "k" sliver).1 =
        .ok true :=
  ⟨by decide, by decide, rfl, rfl⟩

end LoraBridge.Lock
