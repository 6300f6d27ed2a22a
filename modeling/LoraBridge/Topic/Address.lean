import LoraBridge.Document.Basic
import LoraBridge.Topic.Filter

/-! # Topics of devices

  Every device has its own topics under `application/{application}/node/{device}`, one for each
  kind of document. Commands arrive on `tx`; the two identities of a command topic are words, so
  that no text from outside can reach further into a topic or a lock key.
-/

namespace LoraBridge

/-- The filter that all commands come under. -/
def commandFilter : String := "application/+/node/+/tx"

/-- The last level of the topic for a kind of document. -/
def Kind.suffix : Kind → String
  | .data => "rx"
  | .join => "join"
  | .ack => "ack"
  | .error => "error"

/-- The pair of identities that a topic carries. -/
structure TopicAddress where
  application : String
  device : String
deriving DecidableEq, Repr

namespace TopicAddress

/-- The topic with this last level. Identities are taken as they are. -/
def topicFor (address : TopicAddress) (suffix : String) : String :=
  "application/" ++ address.application ++ "/node/" ++ address.device ++ "/" ++ suffix

/-- The topic on which documents of a kind go out. -/
def topic (address : TopicAddress) (kind : Kind) : String := address.topicFor kind.suffix

/-- A character of a word. -/
def isWordChar (c : Char) : Bool := c.isAlphanum || c = '_'

/-- A word: at least one letter, digit or underscore of ASCII. -/
def isWord (s : List Char) : Bool := !s.isEmpty && s.all isWordChar

/-- The identities of a command topic; any other topic has none. -/
def ofCommandTopic? (topic : String) : Option TopicAddress :=
  match Topic.levels topic with
  | [top, application, node, device, last] =>
    if top = "application".toList ∧ node = "node".toList ∧ last = "tx".toList ∧
        isWord application ∧ isWord device then
      some ⟨String.ofList application, String.ofList device⟩
    else none
  | _ => none

end TopicAddress

end LoraBridge
