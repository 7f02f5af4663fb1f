import ProfileGuard.Audit.Scene
import ProfileGuard.Breaker.Registry
import ProfileGuard.Defaults
import ProfileGuard.Logging
import ProfileGuard.ReadThrough.Scene
import ProfileGuard.Rotation.Loading
import ProfileGuard.Rotation.Watch
import ProfileGuard.Samples
import ProfileGuard.Proofs.Field.Lifetime
import ProfileGuard.Proofs.Field.Opening
import ProfileGuard.Proofs.Buffer.Overlap
import ProfileGuard.Proofs.Breaker.Admission
import ProfileGuard.Proofs.Breaker.Bookkeeping
import ProfileGuard.Proofs.Breaker.Transitions
import ProfileGuard.Proofs.Breaker.Recovery
import ProfileGuard.Proofs.Breaker.Isolation
import ProfileGuard.Proofs.Breaker.Watching
import ProfileGuard.Proofs.Field.Standing
import ProfileGuard.Proofs.Buffer.Refusals
import ProfileGuard.Proofs.Audit.Moves
import ProfileGuard.Proofs.Audit.Custody
import ProfileGuard.Proofs.Buffer.Alone
import ProfileGuard.Proofs.Text.Uuid
import ProfileGuard.Proofs.Audit.Outage
import ProfileGuard.Proofs.Buffer.Deliveries
import ProfileGuard.Proofs.Text.Decimal
import ProfileGuard.Proofs.Time.Calendar
import ProfileGuard.Proofs.Time.Timestamp
import ProfileGuard.Proofs.Json.Text
import ProfileGuard.Proofs.Json.Document
import ProfileGuard.Proofs.Json.Record
import ProfileGuard.Proofs.Audit.WireForm
import ProfileGuard.Proofs.Audit.Signature
import ProfileGuard.Proofs.Field.Numbering
import ProfileGuard.Proofs.KeySource.Snapshot
import ProfileGuard.Proofs.Rotation.Loading
import ProfileGuard.Proofs.Rotation.Checker
import ProfileGuard.Proofs.Simulation
import ProfileGuard.Proofs.Rotation.Signal
import ProfileGuard.Proofs.Buffer.Contents
import ProfileGuard.Proofs.Audit.Contents
import ProfileGuard.Proofs.ReadThrough.History
import ProfileGuard.Proofs.Tasks
import ProfileGuard.Proofs.ReadThrough.Provenance
import ProfileGuard.Proofs.Buffer.Queue
import ProfileGuard.Proofs.Buffer.Waiting
import ProfileGuard.Proofs.Buffer.Course
import ProfileGuard.Proofs.Buffer.Report
import ProfileGuard.Proofs.Breaker.Untroubled
import ProfileGuard.Proofs.KeySource.Guarded
import ProfileGuard.Proofs.Json.Numeral
import ProfileGuard.Proofs.Json.Value
import ProfileGuard.Proofs.KeySource.Secret
import ProfileGuard.Proofs.KeySource.Agreement
import ProfileGuard.Proofs.Buffer.Accounts
import ProfileGuard.Proofs.Buffer.Placement
import ProfileGuard.Proofs.Breaker.Alerts
import ProfileGuard.Proofs.Breaker.Deadline
import ProfileGuard.Proofs.Text.Spelling
import ProfileGuard.Proofs.Attempt
import ProfileGuard.Proofs.Field.Grammar
import ProfileGuard.Proofs.Field.Migration
import ProfileGuard.Proofs.Rotation.KeyChange
import ProfileGuard.Proofs.Field.Refusal
import ProfileGuard.Proofs.KeySource.Stepwise
import ProfileGuard.Proofs.KeySource.Naming
import ProfileGuard.Proofs.Field.Noise
import ProfileGuard.Proofs.Entries
import ProfileGuard.Proofs.StoredForm
