import LoraBridge.Handler.Station
import LoraBridge.Handler.Turn
import LoraBridge.Lock.Embedded

/-! # Several handlers that share a lock store

  A `Fleet` is a number of stations with one embedded lock store. `settle` lets all of them take
  their steps until none is left. Time passes only as it is told to, and timers go off in order.

  There are two clocks. One is that of the timers, which are pauses of loops and delays of the
  transport. The other is that of the lock store.
-/

namespace LoraBridge.Handler

/-- A station and its timers. -/
structure Instance where
  station : Station := {}
  /-- When the pause of each loop is over. -/
  pauses : List (Nat × Nat) := []
  /-- When the transport answers that it has unsubscribed. -/
  answerAt : Nat := 0

/-- A call to the lock store and its answer, if the store did not fail. -/
structure LockCall where
  key : String
  ttl : Duration
  answer? : Option Bool
deriving Repr

/-- Stations that share a lock store. -/
structure Fleet where
  instances : List Instance
  store : Lock.Tree := .empty
  /-- Whether the lock store fails. -/
  storeFails : Bool := false
  /-- The clock of the timers, in milliseconds. -/
  now : Nat := 0
  /-- The clock of the lock store. -/
  lockNow : Int := 0
  /-- The calls to the lock store that have not been looked at, in order. -/
  calls : List LockCall := []
  /-- The log lines that have not been looked at, in order. -/
  log : List Log.Line := []

namespace Instance

variable (inst : Instance) (now : Nat)

/-- When the pause of a loop is over. -/
def pauseEnd (loop : Nat) : Nat := ((inst.pauses.find? (·.1 = loop)).map (·.2)).getD 0

/-- What the handler can see. -/
def outlook : Outlook :=
  { hasEvent := !inst.station.transport.events.isEmpty, hasReply := fun _ => true,
    hasRested := fun loop => inst.pauseEnd loop ≤ now, hasUnsubscribed := inst.answerAt ≤ now }

/-- What the handler does next, unless it has to wait. -/
def turn? : Option Turn := inst.station.handler.turn? (inst.outlook now)

/-- No fewer than the steps that are left until nothing can be done. -/
def work : Nat := inst.station.handler.work inst.station.transport.events.length

/-- Sets the timers that an action starts. -/
def startTimers (action : Station.Action) : Instance :=
  match action with
  | .subscribeReply loop =>
    { inst with pauses :=
        (loop, now + resubscribePause.millis) :: inst.pauses.filter (·.1 ≠ loop) }
  | .own .enter => { inst with answerAt := now + inst.station.transport.unsubscribeDelay }
  | _ => inst

/-- When the timers that are running go off. -/
def timers : List Nat :=
  let pauses := (inst.station.handler.loops.filter (·.phase = .pausing)).map fun loop =>
    inst.pauseEnd loop.number
  match inst.station.handler.closing? with
  | some (_, .unsubscribing) => inst.answerAt :: pauses
  | _ => pauses

/-- No fewer than the timers that can go off within some milliseconds: a loop begins the next
    pause when one is over, and each call that closes the handler waits once. -/
def alarms (ms : Nat) : Nat :=
  inst.station.handler.loops.length * (ms / resubscribePause.millis + 1) +
    inst.station.handler.turns.length + 1

end Instance

/-! ### Everything that can be done -/

namespace Fleet

variable (f : Fleet)

/-- The fleet after an action of an instance. An action that is not possible does nothing. -/
def act (i : Nat) (action : Station.Action) : Fleet :=
  match f.instances[i]? with
  | none => f
  | some inst =>
    match inst.station.step? action with
    | none => f
    | some station =>
      let log := f.log ++ inst.station.lines action
      let inst := { inst with station }.startTimers f.now action
      { f with instances := f.instances.set i inst, log }

/-- Lets the lock store answer a task. -/
def answerLock (i ticket : Nat) (command : Command) : Fleet :=
  let key := Lock.key command.device command.reference
  let reply answer := Station.Action.own (.lockReply ticket answer)
  let called (answer? : Option Bool) : List LockCall :=
    f.calls ++ [{ key, ttl := Lock.commandTtl, answer? }]
  if f.storeFails then
    Fleet.act { f with calls := called none } i
      (reply (.error (.embedded "Unsupported: store unreachable")))
  else
    let (won, store) := Lock.setIfAbsent f.store f.lockNow (Text.bytes key) Lock.commandTtl
    Fleet.act { f with store, calls := called (some won) } i (reply (.ok won))

/-- The next step of the fleet: that of the first instance that has one. -/
def step? : Option Fleet :=
  (List.range f.instances.length).findSome? fun i => do
    let inst ← f.instances[i]?
    match ← inst.turn? f.now with
    | .dispatch => some (f.act i .dispatch)
    | .lock ticket command => some (f.answerLock i ticket command)
    | .subscribeReply loop => some (f.act i (.subscribeReply loop))
    | .unsubscribeReply => some (f.act i .unsubscribeReply)
    | .disconnectReply => some (f.act i .disconnectReply)
    | .own action => some (f.act i (.own action))

/-- The sum of some numbers. -/
def total (numbers : List Nat) : Nat := numbers.foldr (· + ·) 0

/-- Takes steps until none is left, but at most so many. -/
def settleWithin : Nat → Fleet → Fleet
  | 0, f => f
  | n + 1, f =>
    match f.step? with
    | none => f
    | some f => settleWithin n f

/-- Does everything that can be done at this time. -/
def settle : Fleet := settleWithin (total (f.instances.map Instance.work)) f

/-! ### Time -/

/-- The first timer that goes off before a given time. -/
def nextTimer? (limit : Nat) : Option Nat :=
  ((f.instances.flatMap Instance.timers).filter (· < limit)).min?

/-- Lets timers go off before a given time, but at most so many. -/
def passWithin (limit : Nat) : Nat → Fleet → Fleet
  | 0, f => { f with now := limit }
  | n + 1, f =>
    match f.nextTimer? limit with
    | none => { f with now := limit }
    | some t => passWithin limit n { f with now := max f.now t }.settle

/-- No fewer than the timers that can go off within some milliseconds. -/
def alarms (ms : Nat) : Nat := total (f.instances.map fun inst => inst.alarms ms)

/-- Lets time pass for the timers. Those that go off at its very end find their chance when the
    fleet settles next. -/
def pass (ms : Nat) : Fleet := passWithin (f.now + ms) (f.alarms ms) f

/-- Lets time pass for the timers and the lock store. -/
def advance (ms : Nat) : Fleet := { f.pass ms with lockNow := f.lockNow + ms }

end Fleet

end LoraBridge.Handler
