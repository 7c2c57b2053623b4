import DetectionJobs.Detection.Answer
import DetectionJobs.Detection.Exchange
import DetectionJobs.Detection.Fault
import DetectionJobs.Domain.Mapping
import DetectionJobs.Domain.Name
import DetectionJobs.Domain.Punycode
import DetectionJobs.Domain.Script
import DetectionJobs.Http.Api
import DetectionJobs.Http.Coding
import DetectionJobs.Http.Health
import DetectionJobs.Http.MediaType
import DetectionJobs.Http.Message
import DetectionJobs.Http.Problem
import DetectionJobs.Id.Ulid
import DetectionJobs.Id.Uuid
import DetectionJobs.Job.Prediction
import DetectionJobs.Job.Request
import DetectionJobs.Job.Result
import DetectionJobs.Job.Status
import DetectionJobs.Job.View
import DetectionJobs.Json.Format
import DetectionJobs.Json.Numeral
import DetectionJobs.Json.Problem
import DetectionJobs.Json.Record
import DetectionJobs.Json.Scan
import DetectionJobs.Json.Skip
import DetectionJobs.Json.Value
import DetectionJobs.Network.Link
import DetectionJobs.Number.Double
import DetectionJobs.Number.Literal
import DetectionJobs.Number.Notation
import DetectionJobs.Number.Power
import DetectionJobs.Number.Shortest
import DetectionJobs.Proofs.Crowd.Balance
import DetectionJobs.Proofs.Crowd.Basic
import DetectionJobs.Proofs.Crowd.Changes
import DetectionJobs.Proofs.Crowd.Recovery
import DetectionJobs.Proofs.Detection.Answers
import DetectionJobs.Proofs.Detection.Wire
import DetectionJobs.Proofs.Fleet.Alert
import DetectionJobs.Proofs.Fleet.Attempts
import DetectionJobs.Proofs.Fleet.Basic
import DetectionJobs.Proofs.Fleet.Changes
import DetectionJobs.Proofs.Fleet.Conservation
import DetectionJobs.Proofs.Fleet.Custody
import DetectionJobs.Proofs.Fleet.Entries
import DetectionJobs.Proofs.Fleet.Exclusion
import DetectionJobs.Proofs.Fleet.History
import DetectionJobs.Proofs.Fleet.LastOutcome
import DetectionJobs.Proofs.Fleet.Lineage
import DetectionJobs.Proofs.Fleet.Moves
import DetectionJobs.Proofs.Fleet.Places
import DetectionJobs.Proofs.Fleet.Rows
import DetectionJobs.Proofs.Fleet.Shapes
import DetectionJobs.Proofs.Fleet.Solo
import DetectionJobs.Proofs.Fleet.Stop
import DetectionJobs.Proofs.Fleet.Traffic
import DetectionJobs.Proofs.Fleet.Upshots
import DetectionJobs.Proofs.Fleet.Watch
import DetectionJobs.Proofs.Http.Effects
import DetectionJobs.Proofs.Http.Submitting
import DetectionJobs.Proofs.Id.Order
import DetectionJobs.Proofs.Id.Uuids
import DetectionJobs.Proofs.Job.Predictions
import DetectionJobs.Proofs.Job.Served
import DetectionJobs.Proofs.Json.Collecting
import DetectionJobs.Proofs.Json.Finite
import DetectionJobs.Proofs.Json.Grammar
import DetectionJobs.Proofs.Json.Lists
import DetectionJobs.Proofs.Json.Members
import DetectionJobs.Proofs.Json.Numbers
import DetectionJobs.Proofs.Json.Recognition
import DetectionJobs.Proofs.Json.Records
import DetectionJobs.Proofs.Json.Rereading
import DetectionJobs.Proofs.Json.Scaling
import DetectionJobs.Proofs.Json.Skipping
import DetectionJobs.Proofs.Json.Tokens
import DetectionJobs.Proofs.Json.Written
import DetectionJobs.Proofs.Lobby.Basic
import DetectionJobs.Proofs.Lobby.Rings
import DetectionJobs.Proofs.Lobby.Waking
import DetectionJobs.Proofs.Number.Decimals
import DetectionJobs.Proofs.Number.Nearest
import DetectionJobs.Proofs.Number.Order
import DetectionJobs.Proofs.Number.Rounding
import DetectionJobs.Proofs.Queue.Carriage
import DetectionJobs.Proofs.Queue.Lists
import DetectionJobs.Proofs.Queue.Retries
import DetectionJobs.Proofs.Queue.Stores
import DetectionJobs.Proofs.Queue.Twins
import DetectionJobs.Proofs.Repository.Agreement
import DetectionJobs.Proofs.Repository.Capacity
import DetectionJobs.Proofs.Repository.Chronicle
import DetectionJobs.Proofs.Repository.Relational
import DetectionJobs.Proofs.Repository.Rows
import DetectionJobs.Proofs.Settings.Collecting
import DetectionJobs.Proofs.Settings.Definitions
import DetectionJobs.Proofs.Settings.Precedence
import DetectionJobs.Proofs.Settings.Values
import DetectionJobs.Proofs.Machine
import DetectionJobs.Proofs.Time.Written
import DetectionJobs.Proofs.Transactions.Atomicity
import DetectionJobs.Proofs.Transactions.Basic
import DetectionJobs.Proofs.Transactions.Changes
import DetectionJobs.Proofs.Transactions.Sequels
import DetectionJobs.Proofs.Transactions.Stages
import DetectionJobs.Proofs.Transactions.Steps
import DetectionJobs.Proofs.Worker.Drain
import DetectionJobs.Proofs.Worker.Effects
import DetectionJobs.Proofs.Worker.Errands
import DetectionJobs.Proofs.Worker.Findings
import DetectionJobs.Proofs.Worker.Moves
import DetectionJobs.Proofs.Worker.Retrying
import DetectionJobs.Proofs.Worker.Simulated
import DetectionJobs.Proofs.Workshop.Basic
import DetectionJobs.Proofs.Workshop.Statistics
import DetectionJobs.Queue.Address
import DetectionJobs.Queue.Bell
import DetectionJobs.Queue.Broker
import DetectionJobs.Queue.Envelope
import DetectionJobs.Queue.Fault
import DetectionJobs.Queue.Keys
import DetectionJobs.Queue.ListStore
import DetectionJobs.Queue.Message
import DetectionJobs.Queue.Receiver
import DetectionJobs.Queue.Remote
import DetectionJobs.Repository.Basic
import DetectionJobs.Repository.Fault
import DetectionJobs.Repository.Script
import DetectionJobs.Repository.Statement
import DetectionJobs.Repository.Tables
import DetectionJobs.Service.Lookup
import DetectionJobs.Service.Metrics
import DetectionJobs.Service.Submission
import DetectionJobs.Settings.Basic
import DetectionJobs.Settings.EnvFile
import DetectionJobs.Simulation.Calls
import DetectionJobs.Simulation.Detector
import DetectionJobs.Simulation.Run
import DetectionJobs.Simulation.World
import DetectionJobs.Text.Alphanumeric
import DetectionJobs.Text.Blank
import DetectionJobs.Text.Canonical
import DetectionJobs.Text.CharSet
import DetectionJobs.Text.Printable
import DetectionJobs.Text.Quoted
import DetectionJobs.Time.Instant
import DetectionJobs.Time.Reading
import DetectionJobs.Time.Span
import DetectionJobs.Url.Basic
import DetectionJobs.Url.Host
import DetectionJobs.Url.Percent
import DetectionJobs.Url.Reading
import DetectionJobs.Validation.Report
import DetectionJobs.Worker.Config
import DetectionJobs.Worker.Shift
import DetectionJobs.Worker.Task
