import ClickGrant.Assoc
import ClickGrant.Click.Event
import ClickGrant.Click.Verify
import ClickGrant.Color
import ClickGrant.Component.Basic
import ClickGrant.Component.Document
import ClickGrant.Component.Kind
import ClickGrant.Component.Labels
import ClickGrant.Config.Basic
import ClickGrant.Config.Document
import ClickGrant.Consent.Gate
import ClickGrant.Consent.Store
import ClickGrant.Datum.Basic
import ClickGrant.Datum.Fields
import ClickGrant.Decimal.Binary
import ClickGrant.Decimal.Reading
import ClickGrant.Decimal.Shortest
import ClickGrant.Decimal.Text
import ClickGrant.Dialogue
import ClickGrant.Geometry.Angle
import ClickGrant.Geometry.Length
import ClickGrant.Geometry.Rect
import ClickGrant.Grant.Capability
import ClickGrant.Grant.Ledger
import ClickGrant.Grant.Save
import ClickGrant.Json.Printer
import ClickGrant.Json.Reader
import ClickGrant.Main
import ClickGrant.Metrics.Basic
import ClickGrant.Metrics.Exposition
import ClickGrant.Occlusion
import ClickGrant.Path
import ClickGrant.Program.CommandLine
import ClickGrant.Program.Log
import ClickGrant.Program.LogFilter
import ClickGrant.Program.LogRule
import ClickGrant.Program.Plan
import ClickGrant.Program.Session
import ClickGrant.Program.Transcript
import ClickGrant.Proofs.Chronicle
import ClickGrant.Proofs.Click.Verdict
import ClickGrant.Proofs.Color
import ClickGrant.Proofs.Config.Members
import ClickGrant.Proofs.Config.Printed
import ClickGrant.Proofs.Config.RoundTrip
import ClickGrant.Proofs.Consent.File
import ClickGrant.Proofs.Consent.Masks
import ClickGrant.Proofs.Consent.Writes
import ClickGrant.Proofs.Datum
import ClickGrant.Proofs.Debts
import ClickGrant.Proofs.Dialogue
import ClickGrant.Proofs.Digits
import ClickGrant.Proofs.Disturbance
import ClickGrant.Proofs.Double.Arithmetic
import ClickGrant.Proofs.Double.Bounded
import ClickGrant.Proofs.Double.Grid
import ClickGrant.Proofs.Double.Nearest
import ClickGrant.Proofs.Double.Order
import ClickGrant.Proofs.Double.Place
import ClickGrant.Proofs.Double.Rounding
import ClickGrant.Proofs.Geometry.Angle
import ClickGrant.Proofs.Geometry.Length
import ClickGrant.Proofs.Grant.Balance
import ClickGrant.Proofs.Grant.Bystanders
import ClickGrant.Proofs.Grant.Custody
import ClickGrant.Proofs.Grant.Ends
import ClickGrant.Proofs.Grant.Expiry
import ClickGrant.Proofs.Grant.Ledger
import ClickGrant.Proofs.Grant.Permissions
import ClickGrant.Proofs.Grant.Permits
import ClickGrant.Proofs.Grant.Refused
import ClickGrant.Proofs.Grant.Run
import ClickGrant.Proofs.Grant.Undo
import ClickGrant.Proofs.Json
import ClickGrant.Proofs.Label
import ClickGrant.Proofs.Metrics
import ClickGrant.Proofs.Occlusion
import ClickGrant.Proofs.Registry.Accounts
import ClickGrant.Proofs.Registry.Admission
import ClickGrant.Proofs.Registry.Allocation
import ClickGrant.Proofs.Registry.Background
import ClickGrant.Proofs.Registry.Changes
import ClickGrant.Proofs.Registry.Click
import ClickGrant.Proofs.Registry.Components
import ClickGrant.Proofs.Registry.ConsentGate
import ClickGrant.Proofs.Registry.Conviction
import ClickGrant.Proofs.Registry.Counting
import ClickGrant.Proofs.Registry.Death
import ClickGrant.Proofs.Registry.Disturbed
import ClickGrant.Proofs.Registry.Edits
import ClickGrant.Proofs.Registry.Flagged
import ClickGrant.Proofs.Registry.Gains
import ClickGrant.Proofs.Registry.Grants
import ClickGrant.Proofs.Registry.Identifiers
import ClickGrant.Proofs.Registry.InFlight
import ClickGrant.Proofs.Registry.Isolation
import ClickGrant.Proofs.Registry.Lifecycle
import ClickGrant.Proofs.Registry.Marks
import ClickGrant.Proofs.Registry.Occupancy
import ClickGrant.Proofs.Registry.Orderly
import ClickGrant.Proofs.Registry.Overdue
import ClickGrant.Proofs.Registry.Overlap
import ClickGrant.Proofs.Registry.Paired
import ClickGrant.Proofs.Registry.Parts
import ClickGrant.Proofs.Registry.Population
import ClickGrant.Proofs.Registry.Posture
import ClickGrant.Proofs.Registry.Processes
import ClickGrant.Proofs.Registry.Provenance
import ClickGrant.Proofs.Registry.Rejected
import ClickGrant.Proofs.Registry.Run
import ClickGrant.Proofs.Registry.SaveHistory
import ClickGrant.Proofs.Registry.Shutdown
import ClickGrant.Proofs.Registry.Standalone
import ClickGrant.Proofs.Registry.Table
import ClickGrant.Proofs.Registry.VerifiedClick
import ClickGrant.Proofs.Registry.Vetting
import ClickGrant.Proofs.Registry.Waning
import ClickGrant.Proofs.Registry.Withdrawal
import ClickGrant.Proofs.Reliance
import ClickGrant.Proofs.Service
import ClickGrant.Proofs.Timer.Agenda
import ClickGrant.Proofs.Timer.Apart
import ClickGrant.Proofs.Timer.Index
import ClickGrant.Proofs.Timer.Journal
import ClickGrant.Proofs.Timer.Keys
import ClickGrant.Proofs.Timer.Punctual
import ClickGrant.Proofs.Timer.Queue
import ClickGrant.Proofs.Toml.Lines
import ClickGrant.Proofs.Toml.Range
import ClickGrant.Proofs.Toml.Scalars
import ClickGrant.Proofs.Toml.Strings
import ClickGrant.Proofs.Toml.Tables
import ClickGrant.Proofs.Traffic
import ClickGrant.Proofs.Validity.Bounds
import ClickGrant.Proofs.Validity.Groups
import ClickGrant.Proofs.Validity.RoundScreen
import ClickGrant.Proofs.Validity.Thresholds
import ClickGrant.Refusal
import ClickGrant.Registry.Admission
import ClickGrant.Registry.Basic
import ClickGrant.Registry.Click
import ClickGrant.Registry.Components
import ClickGrant.Registry.Lifecycle
import ClickGrant.Registry.Posture
import ClickGrant.Registry.Quarantine
import ClickGrant.Registry.Table
import ClickGrant.Registry.Timers
import ClickGrant.Saturating
import ClickGrant.Service
import ClickGrant.Standalone.Environment
import ClickGrant.Standalone.Permissions
import ClickGrant.Standalone.Screens
import ClickGrant.Text.Alphanumeric
import ClickGrant.Text.Blank
import ClickGrant.Text.Pattern
import ClickGrant.Text.Pieces
import ClickGrant.Text.Starts
import ClickGrant.Timer.Event
import ClickGrant.Timer.Loop
import ClickGrant.Timer.Queue
import ClickGrant.Toml.Printer
import ClickGrant.Toml.Reader
import ClickGrant.Toml.Scalar
import ClickGrant.Toml.Strings
import ClickGrant.Toml.Table
import ClickGrant.Validity.Check
import ClickGrant.Validity.Policy
import ClickGrant.Validity.Rejection
