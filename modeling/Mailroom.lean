import Mailroom.Batch.Accumulator
import Mailroom.Batch.Cache
import Mailroom.Batch.Lock
import Mailroom.Batch.Lookups
import Mailroom.Batch.Outlet
import Mailroom.Batch.PassThrough
import Mailroom.Batch.Processor
import Mailroom.Batch.Request
import Mailroom.Bytes.Block
import Mailroom.Bytes.Digest
import Mailroom.Bytes.Hex
import Mailroom.Bytes.Utf8
import Mailroom.Conversation.Incoming
import Mailroom.Conversation.Message
import Mailroom.Conversation.Outgoing
import Mailroom.Conversation.Recipient
import Mailroom.Conversation.Roster
import Mailroom.Conversation.Thread
import Mailroom.Decimal.Nearest
import Mailroom.Decimal.Shortest
import Mailroom.Delivery.Classification
import Mailroom.Delivery.Eligibility
import Mailroom.Delivery.Script
import Mailroom.Delivery.Transport
import Mailroom.Fanout.Craft
import Mailroom.Fanout.Precondition
import Mailroom.Fanout.Progress
import Mailroom.Fanout.Run
import Mailroom.Fanout.Schedule
import Mailroom.Fault
import Mailroom.Guarded
import Mailroom.Identity.Error
import Mailroom.Identity.Group
import Mailroom.Identity.RowId
import Mailroom.Identity.Uuid
import Mailroom.Job.Document
import Mailroom.Job.Error
import Mailroom.Job.Mark
import Mailroom.Job.Parameters
import Mailroom.Job.Record
import Mailroom.Job.Retry
import Mailroom.Job.Scheduler
import Mailroom.Job.Settings
import Mailroom.Job.Status
import Mailroom.Job.Store
import Mailroom.Json.Block
import Mailroom.Json.Fields
import Mailroom.Json.Reader
import Mailroom.Json.Value
import Mailroom.Json.Writer
import Mailroom.Log
import Mailroom.Log.Settings
import Mailroom.Proofs.Job.Candidate
import Mailroom.Proofs.Job.Choice
import Mailroom.Proofs.Job.Store
import Mailroom.Proofs.Job.Transition
import Mailroom.Proofs.Job.Workforce
import Mailroom.Proofs.Table
import Mailroom.Rehearsal.Batches
import Mailroom.Rehearsal.Errand
import Mailroom.Rehearsal.Scheduling
import Mailroom.Rehearsal.Sending
import Mailroom.Rehearsal.Stage
import Mailroom.Rehearsal.Storage
import Mailroom.Rehearsal.Store
import Mailroom.Rehearsal.Transport
import Mailroom.Storage.Archive
import Mailroom.Storage.Error
import Mailroom.Storage.Keeper
import Mailroom.Table
import Mailroom.Text.Blank
import Mailroom.Text.Hidden
import Mailroom.Text.Quoted
import Mailroom.Text.Whole
import Mailroom.Time.Calendar
import Mailroom.Time.Instant
import Mailroom.Time.Span
import Mailroom.Time.Timestamp
import Mailroom.Proofs.Job.Queues
import Mailroom.Proofs.Delivery.Classification
import Mailroom.Proofs.Delivery.Observed
import Mailroom.Proofs.Fanout.Precondition
import Mailroom.Proofs.Fanout.Repeated
import Mailroom.Proofs.Fanout.Persisted
import Mailroom.Proofs.Job.Submission
import Mailroom.Proofs.Job.Release
import Mailroom.Proofs.Job.Flow
import Mailroom.Proofs.Job.Bureau
import Mailroom.Proofs.Job.Bookkeeping
import Mailroom.Proofs.Job.Finality
import Mailroom.Proofs.Batch.Flush
import Mailroom.Proofs.Batch.HandOver
import Mailroom.Proofs.Batch.Pieces
import Mailroom.Proofs.Batch.Locked
import Mailroom.Proofs.Batch.Watched
import Mailroom.Proofs.Batch.Loop
import Mailroom.Proofs.Batch.Desk
import Mailroom.Proofs.Batch.Strategies
import Mailroom.Proofs.Batch.Order
import Mailroom.Proofs.Batch.Memory
import Mailroom.Proofs.Fanout.Saved
import Mailroom.Proofs.Fanout.Accounting
import Mailroom.Proofs.Time.Calendar
import Mailroom.Proofs.Time.Timestamp
import Mailroom.Proofs.Identity.Uuid
import Mailroom.Proofs.Job.Document
import Mailroom.Proofs.Fanout.Warrant
import Mailroom.Proofs.Storage.Consulted
import Mailroom.Proofs.Fanout.Contacts
import Mailroom.Proofs.Fanout.Delivered
import Mailroom.Proofs.Fanout.Readings
import Mailroom.Proofs.Job.Admission
import Mailroom.Proofs.Job.Backoff
import Mailroom.Proofs.Job.Restored
import Mailroom.Proofs.Job.Reported
import Mailroom.Proofs.Job.Bulk
import Mailroom.Proofs.Storage.Requests
import Mailroom.Proofs.Storage.Filing
import Mailroom.Proofs.Storage.Topmost
import Mailroom.Proofs.Storage.Together
import Mailroom.Proofs.Delivery.Partition
import Mailroom.Proofs.Identity.Kept
import Mailroom.Proofs.Conversation.Kept
import Mailroom.Proofs.Fanout.Scheduled
import Mailroom.Proofs.Storage.Directory
import Mailroom.Proofs.Fanout.Report
import Mailroom.Proofs.Fanout.Figures
import Mailroom.Proofs.Text.Whole
import Mailroom.Proofs.Job.Listing
import Mailroom.Proofs.Job.Settings
import Mailroom.Proofs.Identity.Text
import Mailroom.Proofs.Fanout.Queue
