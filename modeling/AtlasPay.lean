import AtlasPay.Library.Positional
import AtlasPay.Python.Basic
import AtlasPay.Codec.Iso8583
import AtlasPay.Codec.Bitmap
import AtlasPay.Codec.Fields
import AtlasPay.Codec.Frame
import AtlasPay.Codec.RoundTrip
import AtlasPay.Codec.Errors
import AtlasPay.Library.Parts
import AtlasPay.Codec.Layout
import AtlasPay.Library.SelfDelimiting
import AtlasPay.Codec.Delimiting
import AtlasPay.Library.Ber
import AtlasPay.Emv.BerTlv
import AtlasPay.Emv.Grammar
import AtlasPay.Library.Logged
import AtlasPay.Emv.Trace
import AtlasPay.Emv.Safety
import AtlasPay.Library.Flags
import AtlasPay.Emv.Tags
import AtlasPay.Library.Lts
import AtlasPay.Library.Links
import AtlasPay.Library.Argmax
import AtlasPay.Python.Unicode
import AtlasPay.Python.Integers
import AtlasPay.Python.Floats
import AtlasPay.Network.Canonical
import AtlasPay.Network.Adapter
import AtlasPay.Network.Mapping
import AtlasPay.Network.Emission
import AtlasPay.Network.Iso20022
import AtlasPay.Network.Refusals
import AtlasPay.Network.Coordinator
import AtlasPay.Network.CoordinatorRuns
import AtlasPay.Network.Expiry
import AtlasPay.Network.Responses
import AtlasPay.Network.Routing
import AtlasPay.Network.Transport
import AtlasPay.Network.Flow
import AtlasPay.Network.FlowRuns
import AtlasPay.Network.Settlement
import AtlasPay.Network.Ends
import AtlasPay.Network.Sending
import AtlasPay.Network.Wire
import AtlasPay.Network.Timeouts
import AtlasPay.Network.Raising
import AtlasPay.Network.Recording
import AtlasPay.Network.Renaming
import AtlasPay.Network.Privacy
import AtlasPay.Network.Reversals
import AtlasPay.Network.Specificity
import AtlasPay.Library.Table
import AtlasPay.Library.Transactions
import AtlasPay.Library.ReadCommitted
import AtlasPay.Library.Interference
import AtlasPay.Library.Joins
import AtlasPay.Library.Grouping
import AtlasPay.Library.Bookkeeping
import AtlasPay.Library.Reading
import AtlasPay.Library.Chunks
import AtlasPay.Python.Json
import AtlasPay.Python.Escapes
import AtlasPay.Payments.Models
import AtlasPay.Database.Schema
import AtlasPay.Database.Statements
import AtlasPay.Payments.Repository
import AtlasPay.Payments.Operations
import AtlasPay.Payments.Fingerprints
import AtlasPay.Payments.Ledger
import AtlasPay.Payments.Outbox
import AtlasPay.Payments.Reconciliation
import AtlasPay.Database.Answers
import AtlasPay.Payments.Admission
import AtlasPay.Database.Rules
import AtlasPay.Database.Isolation
import AtlasPay.Database.Steadiness
import AtlasPay.Database.Balance
import AtlasPay.Payments.Writes
import AtlasPay.Payments.Lifecycle
import AtlasPay.Payments.Consistency
import AtlasPay.Payments.Services
import AtlasPay.Payments.Inspection
import AtlasPay.Database.Documents
import AtlasPay.Payments.Linkage
import AtlasPay.Payments.Posting
import AtlasPay.Payments.Replay
import AtlasPay.Payments.Concurrency
import AtlasPay.Payments.Interleaving
import AtlasPay.Payments.Conservation
import AtlasPay.Payments.Idempotency
import AtlasPay.Payments.InMemory
import AtlasPay.Payments.Delivery
import AtlasPay.Payments.Leases
import AtlasPay.Payments.Publishing
import AtlasPay.Payments.Lossless
import AtlasPay.Payments.Retries
import AtlasPay.Payments.Consuming
import AtlasPay.Authorization.Decisions
import AtlasPay.Authorization.Keys
import AtlasPay.Authorization.Sessions
import AtlasPay.Library.Uri
import AtlasPay.Authorization.Filter
import AtlasPay.Authorization.ReconciliationBatch
import AtlasPay.Authorization.ReconciliationRuns
import AtlasPay.Migrations.Files
import AtlasPay.Migrations.Migrate
import AtlasPay.Migrations.Upgrade
import AtlasPay.Migrations.Runs
import AtlasPay.Network.History
import AtlasPay.Network.Snapshot
import AtlasPay.Network.AddingUp
import AtlasPay.Network.Faults
import AtlasPay.Network.Metrics
import AtlasPay.Payments.Tallies
import AtlasPay.Operations.Snapshot
import AtlasPay.Operations.Coherence
import AtlasPay.Operations.Health
import AtlasPay.Operations.Marts
import AtlasPay.Operations.HostedDemo
import AtlasPay.Payments.Permanence
import AtlasPay.Payments.Bank
import AtlasPay.Api.Handlers
import AtlasPay.Api.Runs
import AtlasPay.Api.Contract
import AtlasPay.Payments.Pipeline
