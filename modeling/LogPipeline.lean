import LogPipeline.Daemon.FileTree
import LogPipeline.Document.Alias
import LogPipeline.Document.Batch
import LogPipeline.Document.Registry
import LogPipeline.Document.Settings
import LogPipeline.Main
import LogPipeline.Proofs.Admission
import LogPipeline.Proofs.Admission.Decision
import LogPipeline.Proofs.Admission.Rejection
import LogPipeline.Proofs.Backend.Ledger
import LogPipeline.Proofs.Backend.Records
import LogPipeline.Proofs.Identity
import LogPipeline.Proofs.Pipeline.Buffers
import LogPipeline.Proofs.Pipeline.Conservation
import LogPipeline.Proofs.Pipeline.Idempotence
import LogPipeline.Proofs.Pipeline.Intake
import LogPipeline.Proofs.Pipeline.Ledger
import LogPipeline.Proofs.Pipeline.Recorded
import LogPipeline.Proofs.Pipeline.Retries
import LogPipeline.Proofs.Pipeline.Workers
import LogPipeline.Proofs.Service.Attendance
import LogPipeline.Proofs.Service.Lifetime
import LogPipeline.Proofs.Service.Shutdown
import LogPipeline.Schedule
import LogPipeline.Proofs.Pipeline.Aloof
import LogPipeline.Proofs.Access.Decisions
import LogPipeline.Proofs.Access.Staleness
import LogPipeline.Proofs.Number.Decimal
import LogPipeline.Proofs.Access.Authentication
import LogPipeline.Proofs.Access.Revocation
import LogPipeline.Proofs.Access.SignedBytes
import LogPipeline.Proofs.Settings.Overriding
import LogPipeline.Proofs.Rate.TokenBucket
import LogPipeline.Proofs.Service.Passes
import LogPipeline.Proofs.Service.Totals
import LogPipeline.Proofs.Daemon.Validation
import LogPipeline.Proofs.Pipeline.Filling
import LogPipeline.Proofs.Service.Flushing
import LogPipeline.Proofs.Service.Jobs
import LogPipeline.Proofs.Retention.Sweep
import LogPipeline.Proofs.Pipeline.Completed
import LogPipeline.Proofs.Access.Agreement
import LogPipeline.Proofs.Access.Eviction
import LogPipeline.Proofs.Rate.Elapsed
import LogPipeline.Proofs.Rate.Limits
import LogPipeline.Proofs.Log.Flatten
import LogPipeline.Proofs.Log.KeyValue
import LogPipeline.Proofs.Schedule
import LogPipeline.Proofs.Log.Normalization
import LogPipeline.Proofs.Pipeline.Seating
import LogPipeline.Proofs.Delivery.Backoff
import LogPipeline.Proofs.Pipeline.LongSpans
import LogPipeline.Proofs.Time.Lenient
import LogPipeline.Proofs.Json.Record
import LogPipeline.Proofs.Document.ReadBack
import LogPipeline.Proofs.Registry.Lifecycle
