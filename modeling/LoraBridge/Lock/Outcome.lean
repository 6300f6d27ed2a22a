import LoraBridge.Duration
import LoraBridge.Lock.Key

/-! # Asking for the lock of a command

  A command is forwarded if its lock was acquired. A store that fails leaves the state of the
  lock unknown, which is a reason not to forward the command either.
-/

namespace LoraBridge.Lock

/-- How long the lock of a command lives: long enough for all instances to receive the command,
    short enough not to suppress a later repetition. -/
def commandTtl : Duration := Duration.ofMillis 100

/-- Why a store could not answer. -/
inductive StoreError where
  /-- The embedded store failed. -/
  | embedded (reason : String)
  /-- The remote store answered with an error, or its connection broke. -/
  | remote (reason : String)
  /-- No connection to the remote store could be made. -/
  | pool (reason : String)
  /-- The address of the remote store is none. -/
  | createPool (reason : String)
deriving DecidableEq, Repr

/-- What is reported of an error. -/
def StoreError.message : StoreError → String
  | .embedded reason => s!"lock store error: {reason}"
  | .remote reason => s!"redis error: {reason}"
  | .pool reason => s!"redis pool error: {reason}"
  | .createPool reason => s!"redis pool config error: {reason}"

/-- What came of asking for a lock. -/
inductive Outcome where
  | acquired
  | alreadyHeld
  | storeError (error : StoreError)
deriving DecidableEq, Repr

/-- The outcome of a store's answer. -/
def Outcome.ofAnswer : Except StoreError Bool → Outcome
  | .ok true => .acquired
  | .ok false => .alreadyHeld
  | .error e => .storeError e

end LoraBridge.Lock
