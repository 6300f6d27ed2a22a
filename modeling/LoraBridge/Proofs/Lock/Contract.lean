import LoraBridge.Proofs.Lock.Purging

/-! # What a store of locks promises

  Whoever asks a store for a lock only relies on its `Contract`: the lock is given exactly when
  nobody holds it, and asking for one lock is nothing to the others.

  - `embedded`: the embedded store keeps the contract.
-/

namespace LoraBridge.Lock

/-- A store of locks, as those who ask it see it. -/
structure Contract (σ : Type) where
  /-- Whether somebody holds the lock of a key at a time. -/
  isLive : σ → String → Int → Bool
  /-- Takes the lock of a key, unless somebody holds it; says whether it was taken. -/
  setIfAbsent : σ → Int → String → Duration → Bool × σ
  /-- Removes what has expired. -/
  purge : σ → Int → σ
  answer_eq : ∀ store now key ttl,
    (setIfAbsent store now key ttl).1 = !isLive store key now
  isLive_of_ne : ∀ store now ttl {k key}, k ≠ key →
    isLive (setIfAbsent store now key ttl).2 k now = isLive store k now
  isLive_mono : ∀ store key {now later}, now ≤ later →
    isLive store key later = true → isLive store key now = true
  isLive_purge : ∀ store key now, isLive (purge store now) key now = isLive store key now

/-- The embedded store keeps the contract. -/
def embedded : Contract Tree where
  isLive tree key now := (tree.get? (Text.bytes key)).any (Lock.isLive now)
  setIfAbsent tree now key ttl := Lock.setIfAbsent tree now (Text.bytes key) ttl
  purge tree now := (Lock.purge tree now).2
  answer_eq tree now key ttl := by
    rw [setIfAbsent_eq]
    cases (tree.get? (Text.bytes key)).any (Lock.isLive now) <;> rfl
  isLive_of_ne tree now ttl k key hne := by
    rw [setIfAbsent_eq]
    split
    · rfl
    · rw [Tree.get?_put_of_ne _ _ fun heq => hne (Text.bytes_inj.mp heq)]
  isLive_mono tree key now later hle := by
    cases tree.get? (Text.bytes key) with
    | none => exact id
    | some value => exact Lock.isLive_mono hle
  isLive_purge tree key now := ((SameLive.refl now tree).purge).any_isLive (Text.bytes key)

end LoraBridge.Lock
