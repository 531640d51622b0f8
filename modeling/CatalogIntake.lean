import CatalogIntake.Bus
import CatalogIntake.Chunk
import CatalogIntake.CommandLine.Grammar
import CatalogIntake.CommandLine.Invocation
import CatalogIntake.CommandLine.Program
import CatalogIntake.CommandLine.Reference
import CatalogIntake.Csv.Scan
import CatalogIntake.Csv.Source
import CatalogIntake.Failure
import CatalogIntake.Folder
import CatalogIntake.Instant
import CatalogIntake.Job.Basic
import CatalogIntake.Job.ErrorEntry
import CatalogIntake.Job.Status
import CatalogIntake.JobId
import CatalogIntake.Json.Decode
import CatalogIntake.Json.Reader
import CatalogIntake.Json.Text
import CatalogIntake.Json.Value
import CatalogIntake.Logging.Basic
import CatalogIntake.Logging.Directive
import CatalogIntake.Logging.Pattern
import CatalogIntake.Logging.Pattern.CharacterSet
import CatalogIntake.Logging.Pattern.Element
import CatalogIntake.Logging.Start
import CatalogIntake.Main
import CatalogIntake.Number.Decimal
import CatalogIntake.Number.Double
import CatalogIntake.Number.Integer
import CatalogIntake.Path
import CatalogIntake.Pipeline.Completion
import CatalogIntake.Pipeline.Consumer
import CatalogIntake.Pipeline.Plan
import CatalogIntake.Pipeline.Producer
import CatalogIntake.Pipeline.RowEvent
import CatalogIntake.Pipeline.Worker
import CatalogIntake.Product.Column
import CatalogIntake.Product.Entry
import CatalogIntake.Product.Record
import CatalogIntake.Product.Row
import CatalogIntake.ProgramError
import CatalogIntake.Proofs.Bus
import CatalogIntake.Proofs.Bus.Accounts
import CatalogIntake.Proofs.Bus.Conservation
import CatalogIntake.Proofs.Bus.Sections
import CatalogIntake.Proofs.Bus.Traffic
import CatalogIntake.Proofs.Chunk
import CatalogIntake.Proofs.Concurrency.Accounts
import CatalogIntake.Proofs.Concurrency.Billing
import CatalogIntake.Proofs.Concurrency.Book
import CatalogIntake.Proofs.Concurrency.Breakdown
import CatalogIntake.Proofs.Concurrency.Cancellation
import CatalogIntake.Proofs.Concurrency.Completion
import CatalogIntake.Proofs.Concurrency.Depot
import CatalogIntake.Proofs.Concurrency.Diagnostics
import CatalogIntake.Proofs.Concurrency.DoubleCount
import CatalogIntake.Proofs.Concurrency.Effect
import CatalogIntake.Proofs.Concurrency.Evidence
import CatalogIntake.Proofs.Concurrency.Holding
import CatalogIntake.Proofs.Concurrency.Ledger
import CatalogIntake.Proofs.Concurrency.Outcome
import CatalogIntake.Proofs.Concurrency.Progress
import CatalogIntake.Proofs.Concurrency.Provenance
import CatalogIntake.Proofs.Concurrency.Punctuality
import CatalogIntake.Proofs.Concurrency.Recount
import CatalogIntake.Proofs.Concurrency.Redelivery
import CatalogIntake.Proofs.Concurrency.Refusals
import CatalogIntake.Proofs.Concurrency.Registry
import CatalogIntake.Proofs.Concurrency.Service
import CatalogIntake.Proofs.Concurrency.Step
import CatalogIntake.Proofs.Concurrency.Stocktaking
import CatalogIntake.Proofs.Concurrency.System
import CatalogIntake.Proofs.Concurrency.Timeliness
import CatalogIntake.Proofs.Concurrency.Undisturbed
import CatalogIntake.Proofs.Concurrency.World
import CatalogIntake.Proofs.Consumer.Bench
import CatalogIntake.Proofs.Consumer.Conservation
import CatalogIntake.Proofs.Consumer.Fallback
import CatalogIntake.Proofs.Crowd.Basic
import CatalogIntake.Proofs.Crowd.Checking
import CatalogIntake.Proofs.Crowd.Confluence
import CatalogIntake.Proofs.Crowd.Consuming
import CatalogIntake.Proofs.Crowd.Ending
import CatalogIntake.Proofs.Csv.Quoting
import CatalogIntake.Proofs.Csv.Sheet
import CatalogIntake.Proofs.JobId
import CatalogIntake.Proofs.Json.Reading
import CatalogIntake.Proofs.Number.Decimal
import CatalogIntake.Proofs.Number.Digits
import CatalogIntake.Proofs.Number.Places
import CatalogIntake.Proofs.Pipeline.Diagnosis
import CatalogIntake.Proofs.Pipeline.Log
import CatalogIntake.Proofs.Pipeline.Point
import CatalogIntake.Proofs.Pipeline.Reading
import CatalogIntake.Proofs.Pipeline.Stage
import CatalogIntake.Proofs.Pipeline.Storing
import CatalogIntake.Proofs.Pool.Amount
import CatalogIntake.Proofs.Pool.Basic
import CatalogIntake.Proofs.Pool.Drain
import CatalogIntake.Proofs.Pool.Effort
import CatalogIntake.Proofs.Pool.Jobs
import CatalogIntake.Proofs.Pool.Progress
import CatalogIntake.Proofs.Pool.Report
import CatalogIntake.Proofs.Pool.Step
import CatalogIntake.Proofs.Producer.Calls
import CatalogIntake.Proofs.Producer.Cutting
import CatalogIntake.Proofs.Producer.Faults
import CatalogIntake.Proofs.Producer.Granted
import CatalogIntake.Proofs.Producer.Moves
import CatalogIntake.Proofs.Producer.Numbering
import CatalogIntake.Proofs.Producer.Partition
import CatalogIntake.Proofs.Producer.Submission
import CatalogIntake.Proofs.Product.Entry
import CatalogIntake.Proofs.Product.Heading
import CatalogIntake.Proofs.Product.Reading
import CatalogIntake.Proofs.Request.ErrorPage
import CatalogIntake.Proofs.Settings.EnvFile
import CatalogIntake.Proofs.Settings.Environment
import CatalogIntake.Proofs.Settings.Loading
import CatalogIntake.Proofs.Sql.BulkInsertion
import CatalogIntake.Proofs.Sql.Claiming
import CatalogIntake.Proofs.Sql.Insertion
import CatalogIntake.Proofs.Sql.JobAgreement
import CatalogIntake.Proofs.Sql.JobRecords
import CatalogIntake.Proofs.Sql.QueueTable
import CatalogIntake.Proofs.Sql.Sifting
import CatalogIntake.Proofs.Sql.ValueLimit
import CatalogIntake.Proofs.Store.Errors
import CatalogIntake.Proofs.Store.Jobs
import CatalogIntake.Proofs.Store.Lifecycle
import CatalogIntake.Proofs.Store.Products
import CatalogIntake.Proofs.Store.Requests
import CatalogIntake.Proofs.Store.Stocking
import CatalogIntake.Proofs.Text.Bounded
import CatalogIntake.Proofs.Text.Padding
import CatalogIntake.Proofs.Text.Utf8
import CatalogIntake.Proofs.Wire
import CatalogIntake.Request.CancelImport
import CatalogIntake.Request.ErrorPage
import CatalogIntake.Request.JobDetails
import CatalogIntake.Request.StartImport
import CatalogIntake.Settings.Basic
import CatalogIntake.Settings.EnvFile
import CatalogIntake.Settings.Environment
import CatalogIntake.Simulation.Scene
import CatalogIntake.Simulation.Session
import CatalogIntake.Simulation.Site
import CatalogIntake.Simulation.Task
import CatalogIntake.Sql.Errors
import CatalogIntake.Sql.Jobs
import CatalogIntake.Sql.Migrate
import CatalogIntake.Sql.Migration
import CatalogIntake.Sql.Peer
import CatalogIntake.Sql.Products
import CatalogIntake.Sql.Queue
import CatalogIntake.Sql.Script
import CatalogIntake.Sql.Statement
import CatalogIntake.Store.Errors
import CatalogIntake.Store.Jobs
import CatalogIntake.Store.Products
import CatalogIntake.Text.Blank
import CatalogIntake.Text.Bounded
import CatalogIntake.Text.Digit
import CatalogIntake.Text.Letter
import CatalogIntake.Text.Lowercase
import CatalogIntake.Text.Quoted
import CatalogIntake.Text.Utf8
