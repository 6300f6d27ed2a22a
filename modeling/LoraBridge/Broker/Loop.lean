import LoraBridge.Duration
import LoraBridge.Transport.Basic

/-! # The loop of a session

  A client has a loop that drives its connection. Whatever comes of that is an `Outcome`, and
  `react` is how the loop goes on: it reports events, it tells the one who asked for the session
  whether there is one, and it ends if it has to.

  A lost session does not end the loop, which connects again after a pause. It ends when the first
  session does not come about, when the client has left the broker, when the session is lost while
  the client is leaving, and when nobody takes its events any more.
-/

namespace LoraBridge.Broker

open Transport (ConnectFault Error Event)

/-- How long a loop pauses before it connects again. -/
def reconnectPause : Duration := Duration.ofSeconds 1

/-- What comes of driving the connection. A broker that refuses a session does so while the
    connection is being made, so this is one of the faults for which there is no session; a
    connection that has been made never brings a refusal. -/
inductive Outcome where
  /-- The broker has accepted the session. -/
  | connected
  /-- A message has arrived. -/
  | message (topic : String) (payload : Bytes)
  /-- The broker has answered the subscription with this number. -/
  | suback (number : Nat) (refused : Bool)
  /-- The broker has answered the unsubscription with this number. -/
  | unsuback (number : Nat)
  /-- Something that does not matter here. -/
  | other
  /-- The client has taken its leave of the broker. -/
  | left
  /-- Nobody can make requests any more. -/
  | abandoned
  /-- The session was lost or did not come about. The fault says whether the broker refused it. -/
  | failed (fault : ConnectFault)
deriving DecidableEq, Repr

/-- How far a loop has come. -/
inductive Loop.Phase where
  /-- There has not been a session. -/
  | connecting
  /-- There has been a session. -/
  | running
  /-- The loop has ended. -/
  | stopped
deriving DecidableEq, Repr

/-- The loop of a session. -/
structure Loop where
  phase : Loop.Phase := .connecting
  /-- What the one who asked for the session was told, if that has happened. -/
  result? : Option (Except Error Unit) := none
  /-- Whether the client wants to leave the broker. -/
  leaving : Bool := false
  /-- Whether somebody takes events. -/
  receiver : Bool := true
  /-- The events that have not been taken. -/
  events : List Event := []
deriving Repr

namespace Loop

variable (l : Loop)

/-- Tells the one who asked for the session, unless that has happened. -/
def tell (result : Except Error Unit) : Loop := { l with result? := l.result?.or (some result) }

/-- Ends the loop. Whoever still waits for the session waits in vain. -/
def stop : Loop := { l.tell (.error .closed) with phase := .stopped }

/-- Reports an event. If nobody takes it, the loop ends. -/
def report (event : Event) : Loop :=
  if l.receiver then { l with events := l.events ++ [event] } else l.stop

/-- Whether the loop would report the loss of the session. -/
def reportsLoss : Bool := l.phase = .running && !l.leaving

/-- The loop after an outcome. -/
def react (outcome : Outcome) : Loop :=
  if l.phase = .stopped then l
  else match outcome with
  | .connected => { l.tell (.ok ()) with phase := .running }.report .connected
  | .message topic payload => l.report (.message topic payload)
  | .suback .. | .unsuback _ | .other => l
  | .left | .abandoned => l.stop
  | .failed fault =>
    if l.phase = .connecting then (l.tell (.error (.connect fault))).stop
    else if l.leaving then l.stop
    else l.report (.lost fault.message)

/-- The loop after the client has said that it wants to leave. -/
def leave : Loop := { l with leaving := true }

/-- The loop after nobody takes its events any more. -/
def dropReceiver : Loop := { l with receiver := false, events := [] }

/-- The first event and the loop without it. -/
def takeEvent? : Option (Event × Loop) :=
  match l.events with
  | [] => none
  | event :: events => some (event, { l with events })

/-- Whether there will be no more events than those that have not been taken. -/
def ended : Bool := !l.receiver || l.phase = .stopped

end Loop

end LoraBridge.Broker
