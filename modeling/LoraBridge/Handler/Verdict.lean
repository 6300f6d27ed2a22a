import LoraBridge.Document.Codec
import LoraBridge.Log
import LoraBridge.Topic.Address

/-! # Judging messages

  A message on the command topic is taken as a command if its topic is one of a device, its
  payload is a command, and both name the same device. What a topic allows is only worth
  something if the payload cannot name another device.
-/

namespace LoraBridge.Handler

/-- What a message is. -/
inductive Verdict where
  | badTopic
  | undecodable (error : CodecError)
  /-- The topic is one of another device than the payload's. -/
  | wrongDevice (ofTopic ofPayload : String)
  | command (command : Command)
deriving Repr

/-- Judges a message. -/
def judge (topic : String) (payload : Bytes) : Verdict :=
  match TopicAddress.ofCommandTopic? topic with
  | none => .badTopic
  | some address =>
    match Command.decode payload with
    | .error e => .undecodable e
    | .ok command =>
      if address.device = command.device then .command command
      else .wrongDevice address.device command.device

/-- What is logged of a message that is no command. -/
def Verdict.lines (topic : String) (payload : Bytes) : Verdict → List Log.Line
  | .badTopic =>
    [{ level := .error, message := "topic does not match tx topic pattern",
       fields := [("topic", topic)] }]
  | .undecodable e =>
    [{ level := .error, message := "tx payload unmarshal error",
       fields := [("topic", topic), ("data_base64", rawForLog payload), ("error", e.message)] }]
  | .wrongDevice ofTopic ofPayload =>
    [{ level := .warn, message := "topic DevEUI must match payload DevEUI",
       fields := [("topic_dev_eui", ofTopic), ("payload_dev_eui", ofPayload)] }]
  | .command _ => []

end LoraBridge.Handler
