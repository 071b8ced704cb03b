import TriggerFlow.Action.Call
import TriggerFlow.Action.Registry
import TriggerFlow.Action.Webhook
import TriggerFlow.Condition
import TriggerFlow.Config
import TriggerFlow.Engine.Call
import TriggerFlow.Engine.Output
import TriggerFlow.Engine.Run
import TriggerFlow.Engine.Runs
import TriggerFlow.Execution.Basic
import TriggerFlow.Execution.Document
import TriggerFlow.Failure
import TriggerFlow.Fault
import TriggerFlow.Http.Api
import TriggerFlow.Http.Body
import TriggerFlow.Http.CrossOrigin
import TriggerFlow.Http.Domain
import TriggerFlow.Http.DomainTables
import TriggerFlow.Http.IpAddress
import TriggerFlow.Http.Message
import TriggerFlow.Http.Percent
import TriggerFlow.Http.Query
import TriggerFlow.Http.Route
import TriggerFlow.Http.Status
import TriggerFlow.Http.Url
import TriggerFlow.Json.Key
import TriggerFlow.Json.Literal
import TriggerFlow.Json.Plain
import TriggerFlow.Json.Reader
import TriggerFlow.Json.Value
import TriggerFlow.Json.Writer
import TriggerFlow.Number.Binary64
import TriggerFlow.Number.Numeral
import TriggerFlow.Number.Shortest
import TriggerFlow.Path
import TriggerFlow.Program
import TriggerFlow.Proofs.Action.Webhook
import TriggerFlow.Proofs.Company
import TriggerFlow.Proofs.Condition.Decision
import TriggerFlow.Proofs.Condition.Literal
import TriggerFlow.Proofs.Condition.Operands
import TriggerFlow.Proofs.Exchange
import TriggerFlow.Proofs.Execution.Documents
import TriggerFlow.Proofs.Execution.Duration
import TriggerFlow.Proofs.Http.Requests
import TriggerFlow.Proofs.Json.Numbers
import TriggerFlow.Proofs.Json.Reread
import TriggerFlow.Proofs.Json.Strings
import TriggerFlow.Proofs.Number.Nearest
import TriggerFlow.Proofs.Number.Range
import TriggerFlow.Proofs.Number.Rounding
import TriggerFlow.Proofs.Path.Places
import TriggerFlow.Proofs.Reliance
import TriggerFlow.Proofs.Run.Account
import TriggerFlow.Proofs.Run.Bounds
import TriggerFlow.Proofs.Run.Calls
import TriggerFlow.Proofs.Run.Calm
import TriggerFlow.Proofs.Run.Cancellation
import TriggerFlow.Proofs.Run.Closing
import TriggerFlow.Proofs.Run.Completion
import TriggerFlow.Proofs.Run.Containment
import TriggerFlow.Proofs.Run.Course
import TriggerFlow.Proofs.Run.Cycles
import TriggerFlow.Proofs.Run.DepthFirst
import TriggerFlow.Proofs.Run.Dispatch
import TriggerFlow.Proofs.Run.Events
import TriggerFlow.Proofs.Run.History
import TriggerFlow.Proofs.Run.LastWord
import TriggerFlow.Proofs.Run.Preparation
import TriggerFlow.Proofs.Run.Raising
import TriggerFlow.Proofs.Run.Rearrangement
import TriggerFlow.Proofs.Run.Registry
import TriggerFlow.Proofs.Run.Retelling
import TriggerFlow.Proofs.Run.Suspension
import TriggerFlow.Proofs.Run.Turn
import TriggerFlow.Proofs.Run.Visit
import TriggerFlow.Proofs.Run.Webhooks
import TriggerFlow.Proofs.Server.Acceptance
import TriggerFlow.Proofs.Server.Agreement
import TriggerFlow.Proofs.Server.Alone
import TriggerFlow.Proofs.Server.Bookkeeping
import TriggerFlow.Proofs.Server.Conduct
import TriggerFlow.Proofs.Server.Containment
import TriggerFlow.Proofs.Server.Definitions
import TriggerFlow.Proofs.Server.Edits
import TriggerFlow.Proofs.Server.Entries
import TriggerFlow.Proofs.Server.Exchanges
import TriggerFlow.Proofs.Server.Heredity
import TriggerFlow.Proofs.Server.Isolation
import TriggerFlow.Proofs.Server.Ledger
import TriggerFlow.Proofs.Server.Mirror
import TriggerFlow.Proofs.Server.Moves
import TriggerFlow.Proofs.Server.Ownership
import TriggerFlow.Proofs.Server.Protocol
import TriggerFlow.Proofs.Server.Reach
import TriggerFlow.Proofs.Server.Refusal
import TriggerFlow.Proofs.Server.Roster
import TriggerFlow.Proofs.Server.Spelling
import TriggerFlow.Proofs.Server.Stages
import TriggerFlow.Proofs.Server.Steady
import TriggerFlow.Proofs.Server.Stranded
import TriggerFlow.Proofs.Server.System
import TriggerFlow.Proofs.Server.Tenants
import TriggerFlow.Proofs.Server.Transfer
import TriggerFlow.Proofs.Server.Twins
import TriggerFlow.Proofs.Server.Updates
import TriggerFlow.Proofs.Server.Upkeep
import TriggerFlow.Proofs.Server.World
import TriggerFlow.Proofs.Store.Finality
import TriggerFlow.Proofs.Store.Histories
import TriggerFlow.Proofs.Store.Records
import TriggerFlow.Proofs.Store.Rows
import TriggerFlow.Proofs.Store.Search
import TriggerFlow.Proofs.Store.Shares
import TriggerFlow.Proofs.Store.Standing
import TriggerFlow.Proofs.Store.Statistics
import TriggerFlow.Proofs.Stream.Delivery
import TriggerFlow.Proofs.Stream.Leaks
import TriggerFlow.Proofs.Stream.Publication
import TriggerFlow.Proofs.Stream.Release
import TriggerFlow.Proofs.Stream.System
import TriggerFlow.Proofs.Stream.Updates
import TriggerFlow.Proofs.Template.Replacement
import TriggerFlow.Proofs.Template.Tokens
import TriggerFlow.Proofs.Text.Letters
import TriggerFlow.Proofs.Text.LowerCase
import TriggerFlow.Proofs.Text.Pattern
import TriggerFlow.Proofs.Time.Iso
import TriggerFlow.Proofs.Workflow.Documents
import TriggerFlow.Proofs.Workflow.Fitness
import TriggerFlow.Rehearsal.Client
import TriggerFlow.Rehearsal.Database
import TriggerFlow.Rehearsal.Host
import TriggerFlow.Rehearsal.Launch
import TriggerFlow.Rehearsal.Network
import TriggerFlow.Rehearsal.Outage
import TriggerFlow.Rehearsal.Raised
import TriggerFlow.Rehearsal.Sockets
import TriggerFlow.Rehearsal.StandIn
import TriggerFlow.Rehearsal.Surroundings
import TriggerFlow.Schema
import TriggerFlow.Schema.Report
import TriggerFlow.Service
import TriggerFlow.Sources
import TriggerFlow.Store.Call
import TriggerFlow.Store.Keyed
import TriggerFlow.Store.Memory
import TriggerFlow.Store.Sql
import TriggerFlow.Stream.Endpoint
import TriggerFlow.Stream.Publish
import TriggerFlow.Stream.Table
import TriggerFlow.Template
import TriggerFlow.Text.Base64
import TriggerFlow.Text.Case
import TriggerFlow.Text.CaseTables
import TriggerFlow.Text.CharClass
import TriggerFlow.Text.Composition
import TriggerFlow.Text.CompositionTables
import TriggerFlow.Text.Punycode
import TriggerFlow.Text.Quoted
import TriggerFlow.Text.Search
import TriggerFlow.Text.Surrogate
import TriggerFlow.Text.Tables
import TriggerFlow.Text.Uuid
import TriggerFlow.Time.Flaw
import TriggerFlow.Time.Moment
import TriggerFlow.Time.Timestamp
import TriggerFlow.Workflow.Activation
import TriggerFlow.Workflow.Basic
import TriggerFlow.Workflow.Document
