import LoraBridge.Duration
import LoraBridge.Text.Utf8

/-! # When locks expire

  Times are milliseconds since 1970 began, as signed numbers of 64 bits. An entry of the embedded
  store holds nothing but its expiry, as eight bytes with the highest first. Anything else counts
  as an entry that expired at the beginning of time.
-/

namespace LoraBridge.Lock

/-- The last time. -/
def lastTime : Int := Nat.pow 2 63 - 1

/-- The first time. -/
def firstTime : Int := -(Nat.pow 2 63 : Int)

/-- When a lock expires that is taken now. -/
def expiryAt (now : Int) (ttl : Duration) : Int :=
  min (now + min (ttl.millis : Int) lastTime) lastTime

/-- The lowest `k` bytes of a number, the highest of them first. -/
def bigEndian : Nat → Nat → Bytes
  | 0, _ => []
  | k + 1, n => (n / Nat.pow 256 k % 256).toUInt8 :: bigEndian k n

/-- The number that some bytes write, the highest first. -/
def ofBigEndian (b : Bytes) : Nat := b.foldl (fun n b => n * 256 + b.toNat) 0

/-- The entry with this expiry. -/
def entry (expiry : Int) : Bytes := bigEndian 8 (expiry % Nat.pow 2 64).toNat

/-- The expiry of an entry. -/
def expiryOf (value : Bytes) : Int :=
  if value.length = 8 then
    let n := ofBigEndian value
    if n < Nat.pow 2 63 then n else (n : Int) - Nat.pow 2 64
  else firstTime

/-- Whether an entry still holds. -/
def isLive (now : Int) (value : Bytes) : Bool := now < expiryOf value

end LoraBridge.Lock
