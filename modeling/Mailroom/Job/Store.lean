import Mailroom.Guarded
import Mailroom.Job.Error
import Mailroom.Table

/-!
# The store of jobs

The store keeps one record per job behind a lock. It hands out the next job to run: unfinished
jobs are walked in the order of their creation, and a queue is closed for the rest of the walk
once one of its jobs has been passed, or from the start if one of its jobs is running. The first
job that is ready and whose queue is still open is claimed.

`JobKeeper` is what the scheduler asks of a state that keeps jobs.
-/

namespace Mailroom.Job

/-- The records of all jobs. -/
abbrev Jobs : Type := Table Record.id

/-- The records of all jobs behind a lock. -/
abbrev Store : Type := Guarded Jobs

namespace Jobs

/-- Takes on a new job. -/
def enqueue (record : Record) (jobs : Jobs) : Except StoreError JobId × Jobs :=
  if jobs.contains record.id then (.error (.alreadyExists record.id), jobs)
  else (.ok record.id, jobs.insert record)

/-- The first identifier that is taken, by a job or earlier in the list. -/
def firstTaken? (jobs : Jobs) : List JobId → List Record → Option JobId
  | _, [] => none
  | seen, record :: rest =>
    if jobs.contains record.id || seen.contains record.id then some record.id
    else firstTaken? jobs (record.id :: seen) rest

/-- Takes on several new jobs, all of them or none. -/
def enqueueAll (records : List Record) (jobs : Jobs) : Except StoreError (List JobId) × Jobs :=
  match firstTaken? jobs [] records with
  | some id => (.error (.alreadyExists id), jobs)
  | none => (.ok (records.map Record.id), jobs.insertAll records)

/-- Replaces the record of a job. -/
def update (record : Record) (jobs : Jobs) : Except StoreError Unit × Jobs :=
  if jobs.contains record.id then (.ok (), jobs.insert record)
  else (.error (.notFound record.id), jobs)

/-- The records in the order of their creation. -/
def inOrder (jobs : Jobs) : List Record := jobs.records.mergeSort Record.precedes

/-- The queues in which a job is running. -/
def busyQueues (jobs : Jobs) : List String :=
  (jobs.records.filter fun record => decide (record.status = .running)).filterMap Record.queue

/-- The first job of a list that is ready and whose queue is open. Every job passed closes its
queue. -/
def firstOpen? (now : Instant) : List String → List Record → Option Record
  | _, [] => none
  | closed, record :: rest =>
    if record.isReady now && !record.queue.any closed.contains then some record
    else firstOpen? now (record.queue.toList ++ closed) rest

/-- The job to run next. -/
def candidate? (now : Instant) (jobs : Jobs) : Option Record :=
  firstOpen? now jobs.busyQueues (jobs.inOrder.filter fun record => !record.status.isTerminal)

/-- Claims the job to run next. The store looks for it at one time and stamps it at another. -/
def claimNext (now stamp : Instant) (jobs : Jobs) :
    Except (Fault StoreError) (Option Record) × Jobs :=
  match jobs.candidate? now with
  | none => (.ok none, jobs)
  | some record =>
    match record.start stamp with
    | (.ok (), claimed) => (.ok (some claimed), jobs.insert claimed)
    | (.error cause, claimed) => (.error (.crash cause), jobs.insert claimed)

/-- The records of one kind of status, or all, in the order of their creation; at most a given
number of them. -/
def list (kind : Option StatusKind) (most : Nat) (jobs : Jobs) : List Record :=
  let wanted (record : Record) : Bool := kind.all fun kind => decide (record.status.kind = kind)
  ((jobs.records.filter wanted).mergeSort Record.precedes).take most

/-- How many jobs have a status of one kind. -/
def count (kind : StatusKind) (jobs : Jobs) : Nat :=
  jobs.records.countP fun record => decide (record.status.kind = kind)

end Jobs

/-- How many jobs stand where. -/
structure Stats where
  pending : Nat
  running : Nat
  completed : Nat
  retrying : Nat
  failed : Nat
  deriving DecidableEq

/-- Counts the jobs by where they stand. -/
def Jobs.stats (jobs : Jobs) : Stats where
  pending := jobs.count .pending
  running := jobs.count .running
  completed := jobs.count .completed
  retrying := jobs.count .retrying
  failed := jobs.count .failed

namespace Store

/-- The store without jobs. -/
def empty : Store := ⟨Table.empty, false⟩

/-- Takes on a new job. -/
def enqueue (record : Record) (store : Store) : Except StoreError JobId × Store :=
  store.write .poisoned (Jobs.enqueue record)

/-- Takes on several new jobs, all of them or none. -/
def enqueueAll (records : List Record) (store : Store) : Except StoreError (List JobId) × Store :=
  store.write .poisoned (Jobs.enqueueAll records)

/-- The record of a job, if there is one. -/
def get? (id : JobId) (store : Store) : Except StoreError (Option Record) :=
  store.read .poisoned fun jobs => .ok (jobs.get? id)

/-- Replaces the record of a job. -/
def update (record : Record) (store : Store) : Except StoreError Unit × Store :=
  store.write .poisoned (Jobs.update record)

/-- Claims the job to run next. -/
def claimNext (now stamp : Instant) (store : Store) :
    Except (Fault StoreError) (Option Record) × Store :=
  store.writeRisky .poisoned (Jobs.claimNext now stamp)

/-- Lists records by status in the order of their creation. -/
def list (kind : Option StatusKind) (most : Nat) (store : Store) :
    Except StoreError (List Record) :=
  store.read .poisoned fun jobs => .ok (jobs.list kind most)

/-- Counts the jobs by where they stand. -/
def stats (store : Store) : Except StoreError Stats :=
  store.read .poisoned fun jobs => .ok jobs.stats

end Store

/-- A state that keeps jobs. -/
class JobKeeper (σ : Type) where
  /-- Takes on a new job. -/
  enqueue : Record → σ → Except StoreError JobId × σ
  /-- Takes on several new jobs, all of them or none. -/
  enqueueAll : List Record → σ → Except StoreError (List JobId) × σ
  /-- Replaces the record of a job. -/
  update : Record → σ → Except StoreError Unit × σ
  /-- Claims the job to run next, looked for at one time and stamped at another. -/
  claimNext : Instant → Instant → σ → Except (Fault StoreError) (Option Record) × σ

instance : JobKeeper Store where
  enqueue := Store.enqueue
  enqueueAll := Store.enqueueAll
  update := Store.update
  claimNext := Store.claimNext

/-- A keeper beside anything else keeps jobs. -/
instance {σ World : Type} [JobKeeper σ] : JobKeeper (σ × World) where
  enqueue record s :=
    let (answer, jobs) := JobKeeper.enqueue record s.1
    (answer, jobs, s.2)
  enqueueAll records s :=
    let (answer, jobs) := JobKeeper.enqueueAll records s.1
    (answer, jobs, s.2)
  update record s :=
    let (answer, jobs) := JobKeeper.update record s.1
    (answer, jobs, s.2)
  claimNext now stamp s :=
    let (answer, jobs) := JobKeeper.claimNext now stamp s.1
    (answer, jobs, s.2)

end Mailroom.Job
