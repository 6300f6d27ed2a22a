import LoraBridge.Topic.Filter
import LoraBridge.Transport.Basic

/-! # A transport within the process

  A transport without a broker, for tests. The other side of the session is scripted: it brings
  the session up, drops it, delivers messages and makes operations fail.

  Subscriptions are a list without repetitions, in the order in which they were made. They do not
  survive the loss of the session.
-/

namespace LoraBridge.Transport

/-- The state of a local transport. -/
structure Local where
  /-- What was published, in order. -/
  published : List Publication := []
  /-- The filters that are subscribed to, in order. -/
  subscriptions : List (String × QoS) := []
  /-- How often a subscription was asked for. -/
  attempts : Nat := 0
  /-- How many of the next attempts fail. -/
  failingSubscribes : Nat := 0
  /-- Why publishing fails, if it does. -/
  publishFailure? : Option String := none
  /-- Why unsubscribing fails, if it does. -/
  unsubscribeFailure? : Option String := none
  /-- How many milliseconds unsubscribing takes. -/
  unsubscribeDelay : Nat := 0
  /-- Whether the session has not been ended. -/
  connected : Bool := true
  /-- Whether there is somebody to take events. -/
  receiver : Bool := true
  /-- Events that have not been taken. -/
  events : List Event := []
deriving DecidableEq, Inhabited, Repr

namespace Local

variable (t : Local)

/-! ### The other side of the session -/

/-- Whether an event would be taken. -/
def takesEvents : Bool := t.connected && t.receiver

/-- Reports an event, if somebody takes it. -/
def inject (event : Event) : Local :=
  if t.takesEvents then { t with events := t.events ++ [event] } else t

/-- Brings the session up. -/
def connect : Local := t.inject .connected

/-- Loses the session and with it all subscriptions. -/
def dropConnection (reason : String) : Local :=
  { t with subscriptions := [] }.inject (.lost reason)

/-- Whether a subscription accepts this topic. -/
def subscribesTo (topic : String) : Bool :=
  t.subscriptions.any fun s => Filter.accepts s.1 topic

/-- Whether a message on this topic would be delivered. -/
def delivers (topic : String) : Bool := t.subscribesTo topic && t.takesEvents

/-- Delivers a message, if a subscription accepts its topic. -/
def deliver (topic : String) (payload : Bytes) : Local :=
  if t.subscribesTo topic then t.inject (.message topic payload) else t

/-- Makes the next `n` subscriptions fail. -/
def failNextSubscribes (n : Nat) : Local := { t with failingSubscribes := n }

/-- Makes publishing fail for a reason, or succeed again. -/
def failPublishes (reason? : Option String) : Local := { t with publishFailure? := reason? }

/-- Makes unsubscribing fail for a reason, or succeed again. -/
def failUnsubscribes (reason? : Option String) : Local :=
  { t with unsubscribeFailure? := reason? }

/-- Makes unsubscribing take so many milliseconds. -/
def delayUnsubscribes (ms : Nat) : Local := { t with unsubscribeDelay := ms }

/-- Takes the events that are waiting. -/
def takeEvents : List Event × Local := (t.events, { t with events := [] })

/-- Drops the receiver of events. -/
def dropReceiver : Local := { t with receiver := false, events := [] }

/-! ### Operations -/

/-- Publishes a message. -/
def publish (publication : Publication) : Except Error Unit × Local :=
  match t.publishFailure? with
  | some reason => (.error (.injected reason), t)
  | none => (.ok (), { t with published := t.published ++ [publication] })

/-- Subscribes to a filter. Subscribing once more changes nothing. -/
def subscribe (filter : String) (qos : QoS) : Except Error Unit × Local :=
  let t := { t with attempts := t.attempts + 1 }
  match t.failingSubscribes with
  | n + 1 => (.error (.subscribeRefused filter), { t with failingSubscribes := n })
  | 0 =>
    if t.subscriptions.any (·.1 = filter) then (.ok (), t)
    else (.ok (), { t with subscriptions := t.subscriptions ++ [(filter, qos)] })

/-- Ends a subscription; this is what happens once the delay has passed. -/
def unsubscribe (filter : String) : Except Error Unit × Local :=
  match t.unsubscribeFailure? with
  | some reason => (.error (.injected reason), t)
  | none => (.ok (), { t with subscriptions := t.subscriptions.filter (·.1 ≠ filter) })

/-- Ends the session. Nothing is reported after that. -/
def disconnect : Local := { t with connected := false }

/-! ### All of it -/

/-- Everything that can be done with a local transport. -/
inductive Call where
  | connect
  | dropConnection (reason : String)
  | deliver (topic : String) (payload : Bytes)
  | inject (event : Event)
  | failNextSubscribes (n : Nat)
  | failPublishes (reason? : Option String)
  | failUnsubscribes (reason? : Option String)
  | delayUnsubscribes (ms : Nat)
  | publish (publication : Publication)
  | subscribe (filter : String) (qos : QoS)
  | unsubscribe (filter : String)
  | disconnect
  | takeEvents
  | dropReceiver
deriving Repr

/-- The transport after a call. -/
def apply : Call → Local
  | .connect => t.connect
  | .dropConnection reason => t.dropConnection reason
  | .deliver topic payload => t.deliver topic payload
  | .inject event => t.inject event
  | .failNextSubscribes n => t.failNextSubscribes n
  | .failPublishes reason? => t.failPublishes reason?
  | .failUnsubscribes reason? => t.failUnsubscribes reason?
  | .delayUnsubscribes ms => t.delayUnsubscribes ms
  | .publish publication => (t.publish publication).2
  | .subscribe filter qos => (t.subscribe filter qos).2
  | .unsubscribe filter => (t.unsubscribe filter).2
  | .disconnect => t.disconnect
  | .takeEvents => t.takeEvents.2
  | .dropReceiver => t.dropReceiver

end Local

end LoraBridge.Transport
