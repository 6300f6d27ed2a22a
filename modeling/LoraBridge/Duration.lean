/-! # Durations

  How long a lock lives or a pause lasts, in whole nanoseconds.
-/

namespace LoraBridge

/-- A length of time. -/
structure Duration where
  nanos : Nat
deriving DecidableEq, Inhabited, Repr

namespace Duration

/-- So many seconds. -/
def ofSeconds (n : Nat) : Duration := ⟨n * 1000000000⟩

/-- So many milliseconds. -/
def ofMillis (n : Nat) : Duration := ⟨n * 1000000⟩

/-- So many microseconds. -/
def ofMicros (n : Nat) : Duration := ⟨n * 1000⟩

/-- The number of whole milliseconds. -/
def millis (d : Duration) : Nat := d.nanos / 1000000

theorem millis_ofMillis (n : Nat) : (ofMillis n).millis = n := by
  simp [ofMillis, millis]

end Duration

end LoraBridge
