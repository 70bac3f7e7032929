import Giro.Text.Blank
import Giro.Text.Digits
import Giro.Rounding
import Giro.Power
import Giro.Decimal.Basic
import Giro.Decimal.Rounding
import Giro.Decimal.Arithmetic
import Giro.Decimal.Text
import Giro.Binary64.Basic
import Giro.Binary64.Shortest
import Giro.Money
import Giro.Account.Basic
import Giro.Account.Iban
import Giro.Account.Caller
import Giro.Time.Date
import Giro.Time.Instant
import Giro.Time.Rfc3339
import Giro.Uuid
import Giro.Json.Value
import Giro.Json.Number
import Giro.Json.Token
import Giro.Json.Record
import Giro.Refusal
import Giro.Transfer.Record
import Giro.Transfer.Page
import Giro.Audit
import Giro.Script
import Giro.Table
import Giro.Transfer.Validation
import Giro.Transfer.Posting
import Giro.Notification.Event
import Giro.Notification.Channel
import Giro.Transfer.Surroundings
import Giro.Transfer.Locking
import Giro.Transfer.Coordination
import Giro.Ledger.Tables
import Giro.Ledger.Store
import Giro.Query.Category
import Giro.Query.Reader
import Giro.Query.Basic
import Giro.Receipt.Breaker
import Giro.Receipt.Backoff
import Giro.Transfer.Reference
import Giro.Receipt.Text
import Giro.Receipt.Service
import Giro.Ledger.Serving
import Giro.Ledger.Outage
import Giro.Notification.Outlet
import Giro.Receipt.Printer
import Giro.Bank.Basic
import Giro.Bank.Schedule
import Giro.Bank.Operations
import Giro.Text.Utf8
import Giro.Gateway.Http
import Giro.Gateway.MediaType
import Giro.Gateway.Fault
import Giro.Gateway.Identity
import Giro.Gateway.TransferForm
import Giro.Gateway.HistoryForm
import Giro.Transfer.View
import Giro.Gateway.Endpoint
import Giro.Gateway.Answer
import Giro.Gateway.Call
import Giro.Gateway.Description
import Giro.Gateway.Handler
import Giro.Report
import Giro.Yaml.Cursor
import Giro.Yaml.Scalar
import Giro.Yaml.Token
import Giro.Yaml.Node
import Giro.Settings.Field
import Giro.Settings.Basic
import Giro.Logging.Event
import Giro.Logging.Filter
import Giro.Service.Folder
import Giro.Service.Outcome
import Giro.Service.Startup
import Giro.Settings.Standards
import Giro.Main
import Giro.Proofs.Decimal.Exactness
import Giro.Proofs.Decimal.Quotients
import Giro.Proofs.Decimal.Ordering
import Giro.Proofs.Decimal.Range
import Giro.Proofs.Text.Digits
import Giro.Proofs.Text.Words
import Giro.Proofs.Text.Bytes
import Giro.Proofs.Text.Utf8
import Giro.Proofs.Decimal.Plain
import Giro.Proofs.Decimal.Nearest
import Giro.Proofs.Money.Grammar
import Giro.Proofs.Money.Exactness
import Giro.Proofs.Binary64.Rounding
import Giro.Proofs.Binary64.Shortest
import Giro.Proofs.Json.Literal
import Giro.Proofs.Json.Scaling
import Giro.Proofs.Json.Spelling
import Giro.Proofs.Gateway.FaceValue
import Giro.Proofs.Decimal.Written
import Giro.Proofs.Json.Texts
import Giro.Proofs.Decimal.Shown
import Giro.Proofs.Account.NormalForm
import Giro.Proofs.Account.Checksum
import Giro.Proofs.Notification.Pipeline
import Giro.Proofs.Transfer.Rules
import Giro.Proofs.Transfer.Posting
import Giro.Proofs.Time.Order
import Giro.Proofs.Time.Timeline
import Giro.Proofs.Ledger.Effects
import Giro.Proofs.Ledger.RowLocks
import Giro.Proofs.Ledger.Transactions
import Giro.Proofs.Traffic.Basic
import Giro.Proofs.Traffic.Judgement
import Giro.Proofs.Traffic.Progress
import Giro.Proofs.Traffic.Steps
import Giro.Proofs.Traffic.Tasks
import Giro.Proofs.Traffic.Waits
import Giro.Proofs.Traffic.Rulings
import Giro.Proofs.Traffic.Coherence
import Giro.Proofs.Ledger.Administration
import Giro.Proofs.Traffic.Atomicity
import Giro.Proofs.Traffic.Solo
import Giro.Proofs.Traffic.Serial
import Giro.Proofs.Traffic.Copies
import Giro.Proofs.Traffic.LostWrites
import Giro.Proofs.Ledger.Totals
import Giro.Proofs.Ledger.Reconciliation
import Giro.Proofs.Ledger.Allowance
import Giro.Proofs.Protocol.Conversation
import Giro.Proofs.Protocol.Hearing
import Giro.Proofs.Protocol.Conduct
import Giro.Proofs.Protocol.Course
import Giro.Proofs.Ledger.Queues
import Giro.Proofs.Traffic.Transcripts
import Giro.Proofs.Traffic.Queues
import Giro.Proofs.Traffic.Deadlock
import Giro.Proofs.Traffic.Failures
import Giro.Proofs.Traffic.Notices
import Giro.Proofs.Traffic.Acceptance
import Giro.Proofs.Ledger.Dealings
import Giro.Proofs.Ledger.Staging
import Giro.Proofs.Ledger.Log
import Giro.Proofs.Traffic.Clients
import Giro.Proofs.Traffic.Isolation
import Giro.Proofs.Traffic.Archive
import Giro.Proofs.Query.Secrecy
import Giro.Proofs.Query.Paging
import Giro.Proofs.Query.Reports
import Giro.Proofs.Query.Ranges
import Giro.Proofs.Decimal.Twice
import Giro.Proofs.Query.Shares
import Giro.Proofs.Receipt.Cooldown
import Giro.Proofs.Receipt.Trials
import Giro.Proofs.Receipt.Probes
import Giro.Proofs.Bank.Idle
import Giro.Proofs.Gateway.Calls
import Giro.Proofs.Gateway.Requests
import Giro.Proofs.Gateway.Amounts
import Giro.Proofs.Gateway.Credentials
import Giro.Proofs.Account.Slips
import Giro.Proofs.Time.Elapsed
import Giro.Proofs.Receipt.Durations
import Giro.Proofs.Transfer.LimitRule
import Giro.Proofs.Receipt.Document
import Giro.Proofs.Traffic.Success
import Giro.Proofs.Query.Trend
import Giro.Proofs.Bank.Spellings
import Giro.Proofs.Bank.Tasks
import Giro.Proofs.Receipt.Doubling
import Giro.Proofs.Money.Display
