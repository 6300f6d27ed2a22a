import LoraBridge.Lock.Embedded
import LoraBridge.Proofs.Lock.Tree
import LoraBridge.Proofs.Utf8

/-! # What callers know of a store

  To those who share it, a store of locks is a register: until when each key is locked. A lock is
  taken at one instant, and it is taken exactly when no live entry holds it.

  - `Register.setIfAbsent` is how such a store answers.
  - `setIfAbsent_register`: a call of the embedded store that nobody interferes with answers like
    that, as long as no time goes beyond what an entry can hold.
-/

namespace LoraBridge.Lock

/-- Until when each key is locked, if it ever was. -/
structure Register where
  deadline? : String → Option Int

namespace Register

variable (r : Register) {key k : String} {now later : Int} {ttl : Duration}

/-- Whether a key is locked at the time `now`. -/
def isLive (key : String) (now : Int) : Bool := (r.deadline? key).any (now < ·)

/-- The register with a key locked until some time. -/
def lock (key : String) (deadline : Int) : Register :=
  ⟨fun k => if k = key then some deadline else r.deadline? k⟩

/-- Takes the lock of a key, unless somebody holds it; says whether it was taken. -/
def setIfAbsent (now : Int) (key : String) (ttl : Duration) : Bool × Register :=
  if r.isLive key now then (false, r) else (true, r.lock key (now + ttl.millis))

@[simp] theorem deadline?_lock_self (deadline : Int) :
    (r.lock key deadline).deadline? key = some deadline := by
  simp [lock]

theorem deadline?_lock_of_ne (deadline : Int) (h : k ≠ key) :
    (r.lock key deadline).deadline? k = r.deadline? k := by
  simp [lock, h]

theorem isLive_iff : r.isLive key now = true ↔
    ∃ deadline, r.deadline? key = some deadline ∧ now < deadline := by
  simp [isLive, Option.any_eq_true]

theorem setIfAbsent_of_live (h : r.isLive key now = true) :
    r.setIfAbsent now key ttl = (false, r) := by
  simp [setIfAbsent, h]

theorem setIfAbsent_of_not_live (h : r.isLive key now = false) :
    r.setIfAbsent now key ttl = (true, r.lock key (now + ttl.millis)) := by
  simp [setIfAbsent, h]

end Register

/-! ### Entries -/

theorem length_bigEndian (k n : Nat) : (bigEndian k n).length = k := by
  induction k with
  | zero => rfl
  | succ k ih => rw [bigEndian, List.length_cons, ih]

theorem foldl_bigEndian (k n acc : Nat) :
    (bigEndian k n).foldl (fun m b => m * 256 + b.toNat) acc =
      acc * Nat.pow 256 k + n % Nat.pow 256 k := by
  induction k generalizing acc with
  | zero => simp [bigEndian, Nat.mod_one]
  | succ k ih =>
    have hdigit : (n / Nat.pow 256 k % 256).toUInt8.toNat = n / Nat.pow 256 k % 256 := by
      rw [Nat.toUInt8_eq, UInt8.toNat_ofNat']
      exact Nat.mod_mod _ _
    have hpow : Nat.pow 256 (k + 1) = Nat.pow 256 k * 256 := rfl
    -- the first digit stands before the number that the others write
    have hsplit : n % Nat.pow 256 (k + 1) =
        n % Nat.pow 256 k + Nat.pow 256 k * (n / Nat.pow 256 k % 256) := by
      rw [hpow, Nat.mod_mul]
    rw [bigEndian, List.foldl_cons, ih, hdigit, hsplit, hpow]
    grind

theorem ofBigEndian_bigEndian (k n : Nat) : ofBigEndian (bigEndian k n) = n % Nat.pow 256 k := by
  rw [ofBigEndian, foldl_bigEndian, Nat.zero_mul, Nat.zero_add]

/-- An entry holds its expiry, if that is a time at all. -/
theorem expiryOf_entry {expiry : Int} (hfirst : firstTime ≤ expiry) (hlast : expiry ≤ lastTime) :
    expiryOf (entry expiry) = expiry := by
  have hlow : -9223372036854775808 ≤ expiry := hfirst
  have hhigh : expiry ≤ 9223372036854775807 := hlast
  have hnumber : ofBigEndian (entry expiry) = (expiry % 18446744073709551616).toNat := by
    rw [entry, ofBigEndian_bigEndian]
    show (expiry % 18446744073709551616).toNat % 18446744073709551616 = _
    omega
  have hlength : (entry expiry).length = 8 := length_bigEndian 8 _
  simp only [expiryOf, hlength, hnumber, if_true]
  show (if (expiry % 18446744073709551616).toNat < 9223372036854775808
    then ((expiry % 18446744073709551616).toNat : Int)
    else ((expiry % 18446744073709551616).toNat : Int) - 18446744073709551616) = expiry
  split <;> omega

/-! ### The embedded store as a register -/

/-- What callers know of the embedded store. -/
def Tree.register (t : Tree) : Register := ⟨fun key => (t.get? (Text.bytes key)).map expiryOf⟩

theorem Tree.register_put {t : Tree} {key : String} {expiry : Int} (hfirst : firstTime ≤ expiry)
    (hlast : expiry ≤ lastTime) :
    (t.put (Text.bytes key) (some (entry expiry))).register = t.register.lock key expiry := by
  simp only [Tree.register, Register.lock, Register.mk.injEq]
  funext k
  by_cases hk : k = key
  · subst hk
    simp [expiryOf_entry hfirst hlast]
  · rw [if_neg hk, Tree.get?_put_of_ne _ _ fun heq => hk (Text.bytes_inj.mp heq)]

/-- A call that nobody interferes with is a single swap: of an entry that no longer holds. -/
theorem setIfAbsent_eq (t : Tree) (now : Int) (key : Bytes) (ttl : Duration) :
    setIfAbsent t now key ttl =
      if (t.get? key).any (isLive now) then (false, t)
      else (true, t.put key (some (entry (expiryAt now ttl)))) := by
  cases hget : t.get? key with
  | none =>
    simp [setIfAbsent, Acquire.run, Acquire.step, Tree.compareAndSwap?, hget]
  | some value =>
    cases hlive : isLive now value with
    | true => simp [setIfAbsent, Acquire.run, Acquire.step, hget, hlive]
    | false => simp [setIfAbsent, Acquire.run, Acquire.step, Tree.compareAndSwap?, hget, hlive]

/-- A call of the embedded store that nobody interferes with answers as a register does. -/
theorem setIfAbsent_register (t : Tree) {now : Int} (key : String) {ttl : Duration}
    (hfirst : firstTime ≤ now) (httl : ttl.millis ≤ lastTime)
    (hlast : now + ttl.millis ≤ lastTime) :
    ((setIfAbsent t now (Text.bytes key) ttl).1,
      (setIfAbsent t now (Text.bytes key) ttl).2.register) =
      t.register.setIfAbsent now key ttl := by
  have hexpiry : expiryAt now ttl = now + ttl.millis := by
    rw [expiryAt, Int.min_eq_left httl, Int.min_eq_left hlast]
  have hlive : (t.get? (Text.bytes key)).any (isLive now) = t.register.isLive key now := by
    rw [Register.isLive, Tree.register, Option.any_map]
    rfl
  -- both look at the same expiry, and put the same one there
  rw [setIfAbsent_eq, hlive, hexpiry, Register.setIfAbsent]
  split
  · rfl
  · rw [Tree.register_put (by omega) hlast]

end LoraBridge.Lock
