import LoraBridge.Lock.Expiry
import LoraBridge.Lock.Tree

/-! # The embedded store

  The store of a single process. Any number of calls work on one tree at the same time, and each
  of them only takes atomic steps: it reads the clock, looks at the tree, and changes one entry
  if that is still what it has seen.

  - An `Acquire` takes the lock of a key unless a live entry holds it. If the entry has changed
    since it looked, it starts again.
  - A `Purge` looks for entries that have expired and removes each of them unless it has changed
    since.
  - `System` lets calls take their steps in any order, while the clock goes on.
  - `setIfAbsent` and `purge` are calls that nobody interferes with.
-/

namespace LoraBridge.Lock

/-! ### Taking a lock -/

/-- How far a call has come. -/
inductive AcquirePhase where
  /-- It is about to read the clock. -/
  | start
  /-- It has read the clock and is about to look at the entry. -/
  | clocked (now : Int)
  /-- It has seen this entry, which no longer holds, and is about to replace it. -/
  | seen (now : Int) (found? : Option Bytes)
  /-- It has returned. -/
  | done (won : Bool)
deriving DecidableEq, Repr

/-- A call that takes the lock of a key. -/
structure Acquire where
  key : Bytes
  ttl : Duration
  phase : AcquirePhase := .start
deriving DecidableEq, Repr

/-- One step of a call at the time `now`. -/
def Acquire.step (call : Acquire) (now : Int) (tree : Tree) : Acquire × Tree :=
  match call.phase with
  | .start => ({ call with phase := .clocked now }, tree)
  | .clocked t =>
    match tree.get? call.key with
    | some value =>
      if isLive t value then ({ call with phase := .done false }, tree)
      else ({ call with phase := .seen t (some value) }, tree)
    | none => ({ call with phase := .seen t none }, tree)
  | .seen t old? =>
    match tree.compareAndSwap? call.key old? (some (entry (expiryAt t call.ttl))) with
    | some tree => ({ call with phase := .done true }, tree)
    | none => ({ call with phase := .start }, tree)
  | .done _ => (call, tree)

/-! ### Removing what has expired -/

/-- How far a call has come. -/
inductive PurgePhase where
  /-- It is about to read the clock. -/
  | start
  /-- It has read the clock and is about to look at the tree. -/
  | clocked (now : Int)
  /-- It is about to remove these entries, one by one, and has removed so many. -/
  | sweeping (now : Int) (left : List (Bytes × Bytes)) (removed : Nat)
  /-- It has returned. -/
  | done (removed : Nat)
deriving DecidableEq, Repr

/-- The entries that have expired. -/
def expired (now : Int) (tree : Tree) : List (Bytes × Bytes) :=
  tree.entries.filter fun e => !isLive now e.2

/-- Removes an entry unless it has changed, and counts it if it is removed. -/
def sweep (e : Bytes × Bytes) (removed : Nat) (tree : Tree) : Nat × Tree :=
  match tree.compareAndSwap? e.1 (some e.2) none with
  | some tree => (removed + 1, tree)
  | none => (removed, tree)

/-- One step of a call at the time `now`. -/
def PurgePhase.step (phase : PurgePhase) (now : Int) (tree : Tree) : PurgePhase × Tree :=
  match phase with
  | .start => (.clocked now, tree)
  | .clocked t => (.sweeping t (expired t tree) 0, tree)
  | .sweeping _ [] removed => (.done removed, tree)
  | .sweeping t (e :: left) removed =>
    let (removed, tree) := sweep e removed tree
    (.sweeping t left removed, tree)
  | .done removed => (.done removed, tree)

/-! ### Calls side by side -/

/-- A store and the calls that work on it. -/
structure System where
  tree : Tree
  now : Int
  acquires : List Acquire := []
  purges : List PurgePhase := []

/-- What happens next. -/
inductive System.Action where
  /-- Time passes. -/
  | tick (ms : Nat)
  | beginAcquire (key : Bytes) (ttl : Duration)
  | beginPurge
  /-- The call with this number takes a step. -/
  | acquire (i : Nat)
  /-- The purge with this number takes a step. -/
  | purge (i : Nat)
deriving Repr

/-- The system after an action, if that is possible. -/
def System.step? (s : System) : System.Action → Option System
  | .tick ms => some { s with now := s.now + ms }
  | .beginAcquire key ttl => some { s with acquires := s.acquires ++ [{ key, ttl }] }
  | .beginPurge => some { s with purges := s.purges ++ [.start] }
  | .acquire i => do
    let call ← s.acquires[i]?
    let (call, tree) := call.step s.now s.tree
    some { s with acquires := s.acquires.set i call, tree }
  | .purge i => do
    let phase ← s.purges[i]?
    let (phase, tree) := phase.step s.now s.tree
    some { s with purges := s.purges.set i phase, tree }

/-! ### Calls by themselves -/

/-- Takes `n` steps at one time. -/
def Acquire.run (now : Int) : Nat → Acquire × Tree → Acquire × Tree
  | 0, s => s
  | n + 1, (call, tree) => run now n (call.step now tree)

/-- Takes the lock of a key, unless somebody holds it; says whether it was taken. Alone, a call
    returns after three steps. -/
def setIfAbsent (tree : Tree) (now : Int) (key : Bytes) (ttl : Duration) : Bool × Tree :=
  let (call, tree) := Acquire.run now 3 ({ key, ttl }, tree)
  (call.phase = .done true, tree)

/-- Removes all entries that have expired; gives their number. -/
def purge (tree : Tree) (now : Int) : Nat × Tree :=
  (expired now tree).foldl (fun (removed, tree) e => sweep e removed tree) (0, tree)

/-- The store in a debug line. -/
def debugText : String := "SledLockStore \x7b db: \"sled::Db\" \x7d"

end LoraBridge.Lock
