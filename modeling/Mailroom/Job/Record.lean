import Mailroom.Fault
import Mailroom.Identity.Uuid
import Mailroom.Job.Parameters
import Mailroom.Job.Status
import Mailroom.Json.Block
import Mailroom.Time.Instant

/-!
# Job records

A record is what is kept of a job between runs: who can rebuild it, its scheduling, its own state
as bytes, where it stands, and how its runs ended. Every change of status is a function of the
record and of the time it happens.

Records are ordered by the time of their creation and then by identifier. `precedes` is that
order.
-/

namespace Mailroom.Job

/-- The identifier of a job. -/
structure JobId where
  /-- The identifier itself. -/
  uuid : Uuid
  deriving DecidableEq

namespace JobId

instance : Inhabited JobId := ⟨⟨default⟩⟩

/-- The identifier as text. -/
def text (id : JobId) : String := id.uuid.text

/-- The place of the identifier among all identifiers. -/
def number (id : JobId) : Nat := id.uuid.block.number

/-- Identifiers are told apart by their place. -/
theorem number_injective {left right : JobId} (h : left.number = right.number) : left = right := by
  obtain ⟨⟨left⟩⟩ := left
  obtain ⟨⟨right⟩⟩ := right
  have same : left = right := Block.number_injective h
  rw [same]

end JobId

/-- How one run of a job ended. -/
structure Attempt where
  /-- Which run it was. -/
  attempt : UInt32
  /-- When it started. -/
  started : Instant
  /-- When it ended. -/
  finished : Instant
  /-- Whether the job was done. -/
  success : Bool
  /-- What went wrong otherwise. -/
  error : Option String
  /-- How long it took, in milliseconds. -/
  duration : UInt64
  deriving DecidableEq

/-- What is kept of a job between runs. -/
structure Record where
  /-- The identifier of the job. -/
  id : JobId
  /-- Who can rebuild the job from its payload. -/
  factoryKey : String
  /-- The scheduling of the job. -/
  parameters : Parameters
  /-- The state of the job, in a form that only its factory knows. -/
  payload : List UInt8
  /-- Where the job stands. -/
  status : Status
  /-- How many runs have begun. -/
  attempt : UInt32
  /-- When the job was created. -/
  created : Instant
  /-- When the record last changed. -/
  updated : Instant
  /-- When the next run is due, if it has to wait. -/
  scheduled : Option Instant
  /-- How past runs ended. -/
  history : List Attempt

namespace Record

/-- The record of a new job. -/
def new (id : JobId) (created : Instant) (factoryKey : String) (parameters : Parameters)
    (payload : List UInt8) : Record where
  id := id
  factoryKey := factoryKey
  parameters := parameters
  payload := payload
  status := .pending
  attempt := 0
  created := created
  updated := created
  scheduled := none
  history := []

/-- The queue of the job, if it has one. -/
def queue (record : Record) : Option String := record.parameters.queue

/-- Whether a record is not after another in the order of creation. -/
def precedes (left right : Record) : Bool :=
  left.created.rank < right.created.rank
    || (left.created.rank = right.created.rank && left.id.number ≤ right.id.number)

/-- Whether the job waits for a run that is due. -/
def isReady (record : Record) (now : Instant) : Bool :=
  record.status.isRunnable && record.scheduled.all fun due => due ≤ now

/-- When the lifespan of the job ends, if it has one and its end can be represented. -/
def deadline? (record : Record) : Option Instant :=
  record.parameters.lifespan.bind record.created.add?

/-- Whether the lifespan of the job has ended. -/
def isExpired (record : Record) (now : Instant) : Bool :=
  record.deadline?.any fun deadline => deadline ≤ now

/-- Claims the job for a run. The status changes before the run is counted, so a count without
room leaves a running record behind. -/
def start (now : Instant) (record : Record) : Except Crash Unit × Record :=
  if record.attempt.toNat + 1 < UInt32.size then
    (.ok (), { record with status := .running, attempt := record.attempt + 1, updated := now })
  else (.error .counterOverflow, { record with status := .running })

/-- Gives back a claim without a run: the run is not counted, and the job is due again at the
given time. -/
def defer (due now : Instant) (record : Record) : Record :=
  let attempt := if record.attempt = 0 then 0 else record.attempt - 1
  { record with
    attempt := attempt
    status := if attempt = 0 then .pending else .retrying attempt
    scheduled := some due
    updated := now }

/-- Notes how a run ended. -/
def note (started now : Instant) (error : Option String) (record : Record) : Record :=
  { record with
    history := record.history ++
      [{ attempt := record.attempt
         started := started
         finished := now
         success := error.isNone
         error := error
         duration := UInt64.ofNat (now.millisSince started) }] }

/-- Ends the job well. -/
def complete (started now : Instant) (record : Record) : Record :=
  note started now none
    { record with status := .completed, updated := now, scheduled := none }

/-- What is noted for a run that asks for another. -/
def retryNote : String := "retry requested"

/-- Has the job wait for another run. If the due time cannot be represented, only the status has
changed when this crashes. -/
def retry (started now : Instant) (delay : Span) (record : Record) : Except Crash Unit × Record :=
  let waiting := { record with status := .retrying record.attempt, updated := now }
  match now.add? delay.asDelay with
  | some due => (.ok (), note started now (some retryNote) { waiting with scheduled := some due })
  | none => (.error .instantOverflow, waiting)

/-- Gives the job up. -/
def fail (started now : Instant) (reason : String) (record : Record) : Record :=
  note started now (some reason)
    { record with
      status := .failed reason record.attempt
      updated := now
      scheduled := none }

end Record

end Mailroom.Job
