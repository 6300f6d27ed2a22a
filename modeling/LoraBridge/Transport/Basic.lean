import LoraBridge.Text.Utf8

/-! # Sessions with a broker

  A transport publishes messages, subscribes to filters and reports what happens on its session.
  This module holds what all transports share: the events of a session and the errors of its
  operations.
-/

namespace LoraBridge.Transport

/-- How often a message may arrive. -/
inductive QoS where
  | atMostOnce
  | atLeastOnce
  | exactlyOnce
deriving DecidableEq, Inhabited, Repr

/-- The level of a quality of service. -/
def QoS.level : QoS → Nat
  | .atMostOnce => 0
  | .atLeastOnce => 1
  | .exactlyOnce => 2

/-- The quality of service of a level. -/
def QoS.ofLevel? : Nat → Option QoS
  | 0 => some .atMostOnce
  | 1 => some .atLeastOnce
  | 2 => some .exactlyOnce
  | _ => none

/-- Something that happened on a session. -/
inductive Event where
  /-- The session is up, for the first time or again. -/
  | connected
  /-- The session is lost. -/
  | lost (reason : String)
  /-- A message has arrived. -/
  | message (topic : String) (payload : Bytes)
deriving DecidableEq, Repr

/-- What is published. -/
structure Publication where
  topic : String
  qos : QoS
  payload : Bytes
deriving DecidableEq, Repr

/-- What a broker that refuses a session gives as its reason. -/
inductive ReturnCode where
  | refusedProtocolVersion
  | badClientId
  | serviceUnavailable
  | badUserNamePassword
  | notAuthorized
deriving DecidableEq, Repr

/-- The name of a return code in reports. -/
def ReturnCode.name : ReturnCode → String
  | .refusedProtocolVersion => "RefusedProtocolVersion"
  | .badClientId => "BadClientId"
  | .serviceUnavailable => "ServiceUnavailable"
  | .badUserNamePassword => "BadUserNamePassword"
  | .notAuthorized => "NotAuthorized"

/-- Why there is no session. -/
inductive ConnectFault where
  /-- The broker refused it. -/
  | refused (code : ReturnCode)
  /-- There is no broker, or the connection to it broke. -/
  | unreachable
  /-- Anything else that may be wrong with a connection, as it is reported. -/
  | other (report : String)
deriving DecidableEq, Repr

/-- What is reported of a missing session. -/
def ConnectFault.message : ConnectFault → String
  | .refused code => s!"Connection refused, return code: `{code.name}`"
  | .unreachable => "I/O: Connection refused (os error 111)"
  | .other report => report

/-- Why an operation of a transport failed. -/
inductive Error where
  | invalidAddress (server : String)
  | connect (fault : ConnectFault)
  /-- Nothing takes requests any more. -/
  | client
  /-- The broker did not grant the subscription. -/
  | subscribeRefused (filter : String)
  /-- The broker did not answer in time with the packet of this name. -/
  | timeout (packet : String)
  /-- A failure that was asked for. -/
  | injected (reason : String)
  /-- The session ended before the broker answered. -/
  | closed
deriving DecidableEq, Repr

/-- What is reported of an error. -/
def Error.message : Error → String
  | .invalidAddress server => s!"invalid broker address '{server}'"
  | .connect fault => s!"connecting to broker error: {fault.message}"
  | .client => "mqtt client error: Failed to send mqtt requests to eventloop"
  | .subscribeRefused filter => s!"subscription to {filter} refused by broker"
  | .timeout packet => s!"timed out waiting for {packet}"
  | .injected reason => reason
  | .closed => "transport session closed"

end LoraBridge.Transport
