import LoraBridge.Base64
import LoraBridge.Broker.Address
import LoraBridge.Broker.Arrival
import LoraBridge.Broker.Client
import LoraBridge.Broker.Link
import LoraBridge.Broker.Loop
import LoraBridge.Broker.Outbox
import LoraBridge.Broker.Packet
import LoraBridge.Broker.Rehearsal
import LoraBridge.Broker.Script
import LoraBridge.Decimal.Layout
import LoraBridge.Decimal.Shortest
import LoraBridge.Decimal.Unsigned
import LoraBridge.Directory
import LoraBridge.Document.Basic
import LoraBridge.Document.Codec
import LoraBridge.Document.Form
import LoraBridge.Duration
import LoraBridge.Handler.Basic
import LoraBridge.Handler.Desk
import LoraBridge.Handler.Fleet
import LoraBridge.Handler.Outpost
import LoraBridge.Handler.Station
import LoraBridge.Handler.Step
import LoraBridge.Handler.Turn
import LoraBridge.Handler.Verdict
import LoraBridge.Instant.Basic
import LoraBridge.Instant.Parser
import LoraBridge.Instant.Printer
import LoraBridge.Instant.Unix
import LoraBridge.Json.Fault
import LoraBridge.Json.Number
import LoraBridge.Json.Record
import LoraBridge.Json.Skip
import LoraBridge.Json.Text
import LoraBridge.Json.Tree
import LoraBridge.Json.Value
import LoraBridge.Lock.Embedded
import LoraBridge.Lock.Expiry
import LoraBridge.Lock.Key
import LoraBridge.Lock.Outcome
import LoraBridge.Lock.Remote
import LoraBridge.Lock.RemoteAddress
import LoraBridge.Lock.Scripted
import LoraBridge.Lock.Store
import LoraBridge.Lock.Tree
import LoraBridge.Log
import LoraBridge.Main
import LoraBridge.Proofs.Base64
import LoraBridge.Proofs.Broker.Address
import LoraBridge.Proofs.Broker.Answers
import LoraBridge.Proofs.Broker.Carries
import LoraBridge.Proofs.Broker.Custody
import LoraBridge.Proofs.Broker.Relay
import LoraBridge.Proofs.Broker.Senders
import LoraBridge.Proofs.Broker.Session
import LoraBridge.Proofs.Broker.Steps
import LoraBridge.Proofs.Broker.Translation
import LoraBridge.Proofs.Broker.Turns
import LoraBridge.Proofs.Broker.Unanswered
import LoraBridge.Proofs.Decimal
import LoraBridge.Proofs.Decimal.Rounding
import LoraBridge.Proofs.Decimal.Shortest
import LoraBridge.Proofs.Document.FrameData
import LoraBridge.Proofs.Document.Lookup
import LoraBridge.Proofs.Document.Position
import LoraBridge.Proofs.Document.Readable
import LoraBridge.Proofs.Document.RoundTrip
import LoraBridge.Proofs.Handler.Arrival
import LoraBridge.Proofs.Handler.Attempts
import LoraBridge.Proofs.Handler.Attended
import LoraBridge.Proofs.Handler.Calls
import LoraBridge.Proofs.Handler.ClosedOnce
import LoraBridge.Proofs.Handler.Custody
import LoraBridge.Proofs.Handler.Delivery
import LoraBridge.Proofs.Handler.Distinct
import LoraBridge.Proofs.Handler.Draining
import LoraBridge.Proofs.Handler.Erasure
import LoraBridge.Proofs.Handler.Errands
import LoraBridge.Proofs.Handler.Gate
import LoraBridge.Proofs.Handler.Interference
import LoraBridge.Proofs.Handler.Loops
import LoraBridge.Proofs.Handler.Peers
import LoraBridge.Proofs.Handler.Place
import LoraBridge.Proofs.Handler.Post
import LoraBridge.Proofs.Handler.Progress
import LoraBridge.Proofs.Handler.Publishing
import LoraBridge.Proofs.Handler.Record
import LoraBridge.Proofs.Handler.Resubscription
import LoraBridge.Proofs.Handler.Serial
import LoraBridge.Proofs.Handler.Sharing
import LoraBridge.Proofs.Handler.Shutdown
import LoraBridge.Proofs.Handler.Sibling
import LoraBridge.Proofs.Handler.Story
import LoraBridge.Proofs.Handler.Unsubscribed
import LoraBridge.Proofs.Instant
import LoraBridge.Proofs.Json.Number
import LoraBridge.Proofs.Json.Numeral
import LoraBridge.Proofs.Json.Reading
import LoraBridge.Proofs.Json.Real
import LoraBridge.Proofs.Json.Record
import LoraBridge.Proofs.Json.Skip
import LoraBridge.Proofs.Json.Source
import LoraBridge.Proofs.Json.Text
import LoraBridge.Proofs.Json.Value
import LoraBridge.Proofs.Lock.Agreement
import LoraBridge.Proofs.Lock.Contract
import LoraBridge.Proofs.Lock.Granted
import LoraBridge.Proofs.Lock.History
import LoraBridge.Proofs.Lock.Live
import LoraBridge.Proofs.Lock.Purging
import LoraBridge.Proofs.Lock.Register
import LoraBridge.Proofs.Lock.Retries
import LoraBridge.Proofs.Lock.Separation
import LoraBridge.Proofs.Lock.Tree
import LoraBridge.Proofs.Run
import LoraBridge.Proofs.Server.Shutdown
import LoraBridge.Proofs.Settings.Keys
import LoraBridge.Proofs.Settings.Layers
import LoraBridge.Proofs.Settings.Tree
import LoraBridge.Proofs.Topic
import LoraBridge.Proofs.Topic.Commands
import LoraBridge.Proofs.Topic.Documents
import LoraBridge.Proofs.Topic.Matching
import LoraBridge.Proofs.Transport.Local
import LoraBridge.Proofs.Utf8
import LoraBridge.Server.Basic
import LoraBridge.Server.Invocation
import LoraBridge.Server.Program
import LoraBridge.Server.Service
import LoraBridge.Settings.Basic
import LoraBridge.Settings.Load
import LoraBridge.Settings.Path
import LoraBridge.Settings.Source
import LoraBridge.Settings.Value
import LoraBridge.Settings.Variables
import LoraBridge.Text.Alphanumeric
import LoraBridge.Text.Blank
import LoraBridge.Text.Case
import LoraBridge.Text.Printable
import LoraBridge.Text.Quoted
import LoraBridge.Text.Utf8
import LoraBridge.Toml.Reader
import LoraBridge.Toml.Scalar
import LoraBridge.Toml.Table
import LoraBridge.Toml.Text
import LoraBridge.Toml.Value
import LoraBridge.Topic.Address
import LoraBridge.Topic.Filter
import LoraBridge.Transport.Basic
import LoraBridge.Transport.Local
