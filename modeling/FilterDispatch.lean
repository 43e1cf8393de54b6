import FilterDispatch.Classification
import FilterDispatch.CommandLine.Basic
import FilterDispatch.CommandLine.Help
import FilterDispatch.CommandLine.Options
import FilterDispatch.Config
import FilterDispatch.ContentType
import FilterDispatch.Decimal.Shortest
import FilterDispatch.Decimal.Text
import FilterDispatch.Dispatcher.Basic
import FilterDispatch.Dispatcher.Host
import FilterDispatch.Dispatcher.Job
import FilterDispatch.Dispatcher.Run
import FilterDispatch.Domain
import FilterDispatch.Domain.Bidi
import FilterDispatch.Domain.Composition
import FilterDispatch.Domain.Joiner
import FilterDispatch.Domain.Label
import FilterDispatch.Domain.Mapping
import FilterDispatch.Domain.Punycode
import FilterDispatch.Engine
import FilterDispatch.Files
import FilterDispatch.Frame
import FilterDispatch.Headers
import FilterDispatch.Json.Basic
import FilterDispatch.Json.Cursor
import FilterDispatch.Json.Fault
import FilterDispatch.Json.Number
import FilterDispatch.Json.Printer
import FilterDispatch.Json.Record
import FilterDispatch.Json.Value
import FilterDispatch.Main
import FilterDispatch.Notification
import FilterDispatch.Observer.Dealings
import FilterDispatch.Observer.List
import FilterDispatch.Observer.Script
import FilterDispatch.Panic
import FilterDispatch.Proofs.CommandLine.Replays
import FilterDispatch.Proofs.Config
import FilterDispatch.Proofs.Control
import FilterDispatch.Proofs.Dispatcher.Audience
import FilterDispatch.Proofs.Dispatcher.Blocks
import FilterDispatch.Proofs.Dispatcher.Callbacks
import FilterDispatch.Proofs.Dispatcher.Calls
import FilterDispatch.Proofs.Dispatcher.Causes
import FilterDispatch.Proofs.Dispatcher.Closure
import FilterDispatch.Proofs.Dispatcher.Collecting
import FilterDispatch.Proofs.Dispatcher.Completions
import FilterDispatch.Proofs.Dispatcher.Custody
import FilterDispatch.Proofs.Dispatcher.Decisions
import FilterDispatch.Proofs.Dispatcher.Deliveries
import FilterDispatch.Proofs.Dispatcher.Draining
import FilterDispatch.Proofs.Dispatcher.Interludes
import FilterDispatch.Proofs.Dispatcher.Lockstep
import FilterDispatch.Proofs.Dispatcher.Outcomes
import FilterDispatch.Proofs.Dispatcher.Pages
import FilterDispatch.Proofs.Dispatcher.Panics
import FilterDispatch.Proofs.Dispatcher.Popups
import FilterDispatch.Proofs.Dispatcher.Registrations
import FilterDispatch.Proofs.Dispatcher.Reports
import FilterDispatch.Proofs.Dispatcher.Runs
import FilterDispatch.Proofs.Dispatcher.Spans
import FilterDispatch.Proofs.Dispatcher.Stage
import FilterDispatch.Proofs.Dispatcher.Twins
import FilterDispatch.Proofs.Frame
import FilterDispatch.Proofs.Headers
import FilterDispatch.Proofs.Json.Reading
import FilterDispatch.Proofs.Observer.Histories
import FilterDispatch.Proofs.Observer.Law
import FilterDispatch.Proofs.Observer.Membership
import FilterDispatch.Proofs.Observer.Passes
import FilterDispatch.Proofs.Queue
import FilterDispatch.Proofs.Queue.Runs
import FilterDispatch.Proofs.Queue.Workers
import FilterDispatch.Proofs.Replay.Agenda
import FilterDispatch.Proofs.Replay.Backlog
import FilterDispatch.Proofs.Replay.Client
import FilterDispatch.Proofs.Replay.Deaths
import FilterDispatch.Proofs.Replay.Journal
import FilterDispatch.Proofs.Replay.Misrouted
import FilterDispatch.Proofs.Replay.Scene
import FilterDispatch.Proofs.Replay.Sequential
import FilterDispatch.Proofs.Replay.Simulation
import FilterDispatch.Proofs.Replay.Standing
import FilterDispatch.Proofs.Replay.Statistics
import FilterDispatch.Proofs.Scenario.Faults
import FilterDispatch.Proofs.Scenario.Frames
import FilterDispatch.Proofs.Scenario.Hosts
import FilterDispatch.Proofs.Scenario.Loading
import FilterDispatch.Proofs.Scenario.Precedence
import FilterDispatch.Proofs.Scenario.Tables
import FilterDispatch.Proofs.Service.Abandonment
import FilterDispatch.Proofs.Service.Answers
import FilterDispatch.Proofs.Service.Barrier
import FilterDispatch.Proofs.Service.Conclusions
import FilterDispatch.Proofs.Service.Desk
import FilterDispatch.Proofs.Service.Draining
import FilterDispatch.Proofs.Service.Endings
import FilterDispatch.Proofs.Service.Ledger
import FilterDispatch.Proofs.Service.Moves
import FilterDispatch.Proofs.Service.OneAnswer
import FilterDispatch.Proofs.Service.Order
import FilterDispatch.Proofs.Service.Registrations
import FilterDispatch.Proofs.Service.Runs
import FilterDispatch.Proofs.Service.Startup
import FilterDispatch.Proofs.Snapshot
import FilterDispatch.Proofs.Stats
import FilterDispatch.Proofs.Stats.Sessions
import FilterDispatch.Proofs.Stress.Counts
import FilterDispatch.Proofs.Stress.Runs
import FilterDispatch.Proofs.Stress.Serving
import FilterDispatch.Proofs.Stress.Synthetic
import FilterDispatch.Proofs.Text.Case
import FilterDispatch.Proofs.Text.Numeral
import FilterDispatch.Proofs.Url.Plain
import FilterDispatch.Queue
import FilterDispatch.Queue.Run
import FilterDispatch.Rehearsal.Cast
import FilterDispatch.Rehearsal.DispatcherPlay
import FilterDispatch.Rehearsal.Gate
import FilterDispatch.Rehearsal.Pass
import FilterDispatch.Rehearsal.Rule
import FilterDispatch.Rehearsal.ServicePlay
import FilterDispatch.Replay.Basic
import FilterDispatch.Replay.Lines
import FilterDispatch.Replay.Machine
import FilterDispatch.Scenario.Basic
import FilterDispatch.Scenario.File
import FilterDispatch.Scenario.Frames
import FilterDispatch.Scenario.Table
import FilterDispatch.Scenario.World
import FilterDispatch.Service.Basic
import FilterDispatch.Service.Desk
import FilterDispatch.Service.Run
import FilterDispatch.Service.Turn
import FilterDispatch.SiteKey
import FilterDispatch.Snapshot
import FilterDispatch.Stats
import FilterDispatch.Stress.Machine
import FilterDispatch.Stress.Measure
import FilterDispatch.Stress.Summary
import FilterDispatch.Stress.Synthetic
import FilterDispatch.Text.Blank
import FilterDispatch.Text.Case
import FilterDispatch.Text.CodeSet
import FilterDispatch.Text.Hex
import FilterDispatch.Text.Numeral
import FilterDispatch.Text.Printable
import FilterDispatch.Text.Quoted
import FilterDispatch.Text.Substring
import FilterDispatch.Text.Utf8
import FilterDispatch.Url
import FilterDispatch.Url.Escape
import FilterDispatch.Url.Ipv4
import FilterDispatch.Url.Ipv6
import FilterDispatch.Url.Parse
import FilterDispatch.Url.Path
