import Sluice.Arguments
import Sluice.Binary64
import Sluice.Books
import Sluice.Broker
import Sluice.Calendar
import Sluice.Claim
import Sluice.ClientProperties
import Sluice.Duration
import Sluice.Error
import Sluice.Gate
import Sluice.Json.Printer
import Sluice.Json.Reader
import Sluice.Json.Skip
import Sluice.Json.Value
import Sluice.Keyed
import Sluice.Main
import Sluice.Message
import Sluice.Metrics
import Sluice.OffsetStore
import Sluice.Output
import Sluice.Output.Service
import Sluice.Pattern
import Sluice.Pattern.CharSet
import Sluice.Pattern.ClassName
import Sluice.Pattern.Node
import Sluice.Pattern.Reader
import Sluice.Pause
import Sluice.Payload
import Sluice.Pending
import Sluice.Power
import Sluice.Proofs.Broker
import Sluice.Proofs.ClientProperties
import Sluice.Proofs.Consume.Life
import Sluice.Proofs.Durations
import Sluice.Proofs.Gate.Fairness
import Sluice.Proofs.Ledger.Entries
import Sluice.Proofs.Ledger.Orders
import Sluice.Proofs.Ledger.Slots
import Sluice.Proofs.Lists
import Sluice.Proofs.OffsetStore
import Sluice.Proofs.Outlet.Deeds
import Sluice.Proofs.Outlet.Moves
import Sluice.Proofs.Outlet.Woken
import Sluice.Proofs.Output.ReadBack
import Sluice.Proofs.Output.Service
import Sluice.Proofs.Pending
import Sluice.Proofs.Queue
import Sluice.Proofs.Relay.Coverage
import Sluice.Proofs.Relay.Feeding
import Sluice.Proofs.Relay.Flow
import Sluice.Proofs.Relay.Lanes
import Sluice.Proofs.Relay.Overtaking
import Sluice.Proofs.Relay.Positions
import Sluice.Proofs.Relay.Runs
import Sluice.Proofs.Relay.Wakes
import Sluice.Proofs.Session.Cleanup
import Sluice.Proofs.Session.Fidelity
import Sluice.Proofs.Session.Marks
import Sluice.Proofs.Session.Moves
import Sluice.Proofs.Session.Outcomes
import Sluice.Proofs.Session.Runs
import Sluice.Proofs.Session.Slots
import Sluice.Proofs.Session.Starvation
import Sluice.Proofs.Supervision.Callers
import Sluice.Proofs.Supervision.Capacity
import Sluice.Proofs.Supervision.Ending
import Sluice.Proofs.Supervision.Errors
import Sluice.Proofs.Supervision.Membership
import Sluice.Proofs.Supervision.Recovery
import Sluice.Proofs.Supervision.Reselecting
import Sluice.Proofs.Supervision.Sessions
import Sluice.Proofs.Supervision.Setbacks
import Sluice.Proofs.Timestamps
import Sluice.Proofs.Validation
import Sluice.Proofs.Window
import Sluice.Queue
import Sluice.Record
import Sluice.Record.Reader
import Sluice.Relay
import Sluice.Relay.Consume
import Sluice.Relay.State
import Sluice.Relay.Supervise
import Sluice.Schedule
import Sluice.Session
import Sluice.Session.Run
import Sluice.Settings
import Sluice.Settings.Document
import Sluice.Settings.Draft
import Sluice.Settings.Policy
import Sluice.Sink
import Sluice.Text.Blank
import Sluice.Text.Quoted
import Sluice.Text.Utf8
import Sluice.TopicSelection
import Sluice.Tracker
import Sluice.Unicode.Age
import Sluice.Unicode.Break
import Sluice.Unicode.Category
import Sluice.Unicode.Folding
import Sluice.Unicode.Property
import Sluice.Unicode.Runs
import Sluice.Unicode.Script
import Sluice.Unicode.ScriptExtension
import Sluice.Window
import Sluice.Yaml.Cursor
import Sluice.Yaml.Node
import Sluice.Yaml.Scalar
import Sluice.Yaml.Token
