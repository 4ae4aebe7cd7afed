import Mailroom.Job.Settings
import Mailroom.Job.Store

/-!
# The scheduler

The scheduler takes jobs on, and runs one at a time: it claims the next record, has the job
rebuilt from it, runs the job unless the job is expired or has to wait for a constraint, and
records how that ended. A result that cannot be recorded gives the claim back.

What jobs do is described by a `Craft`, over a type of jobs in memory and a state that they act
on. The state also keeps the records, so a job may touch those too.
-/

namespace Mailroom.Job

/-- What a run of a job asks for. -/
inductive Outcome where
  /-- The job is done. -/
  | success
  /-- The job wants another run, from the state it is in now. -/
  | retry
  /-- The job is given up. -/
  | permanentFailure (reason : String)
  deriving DecidableEq

/-- What jobs are and do. -/
structure Craft (Work σ : Type) where
  /-- Who can rebuild the job. -/
  key : Work → String
  /-- The scheduling that the job declares. -/
  parameters : Work → Parameters
  /-- The state of the job as bytes. -/
  save : Work → Except JobError (List UInt8)
  /-- Rebuilds the jobs of one key, if anybody can. -/
  restore : String → Option (Parameters → List UInt8 → Except JobError Work)
  /-- Whether a constraint is met, if anybody can tell. -/
  check : String → σ → Option Bool
  /-- Runs the job once. -/
  run : Work → σ → Outcome × Work × σ
  /-- Tells the job that it is given up. -/
  giveUp : Work → σ → σ

namespace Craft

variable {Work σ : Type}

/-- Rebuilds the job of a record. -/
def rebuild (craft : Craft Work σ) (record : Record) : Except JobError Work :=
  match craft.restore record.factoryKey with
  | some restore => restore record.parameters record.payload
  | none => .error (.unknownFactory record.factoryKey)

/-- The first constraint that is not met; one that nobody can tell about is not. -/
def unmet? (craft : Craft Work σ) (constraints : List String) (state : σ) : Option String :=
  constraints.find? fun key => craft.check key state != some true

end Craft

/-- What happened to a claimed job. -/
inductive RunResult where
  | completed
  | retrying (attempt : UInt32)
  | failed (reason : String)
  /-- The job was not run, because a constraint was not met. -/
  | deferred (constraint : String)
  deriving DecidableEq

/-- What the scheduler says about a run. -/
structure Report where
  /-- The job. -/
  id : JobId
  /-- Who rebuilt it. -/
  factoryKey : String
  /-- What happened to it. -/
  result : RunResult
  deriving DecidableEq

/-- The readings of the clock during one turn of the scheduler, in the order they are taken. -/
structure Readings where
  /-- When the store looks for a job that is ready. -/
  looked : Instant
  /-- When the claim is stamped. -/
  claimed : Instant
  /-- When the run starts. -/
  started : Instant
  /-- When its end is stamped. -/
  finished : Instant
  /-- When a claim that is given back is due again. -/
  released : Instant
  /-- When giving back is stamped. -/
  restamped : Instant

/-- The readings of a clock that stands still. -/
def Readings.still (now : Instant) : Readings := ⟨now, now, now, now, now, now⟩

/-- How the handling of a claimed record ended. -/
structure Execution (σ : Type) where
  /-- The record to store and what to say about it. -/
  ending : Except Crash (Record × RunResult)
  /-- The state that the job left. -/
  state : σ

section

variable {Work σ : Type}

/-- Tells a job that it is given up and records why. -/
def giveUp (craft : Craft Work σ) (clock : Readings) (record : Record) (work : Work)
    (reason : String) (state : σ) : Execution σ :=
  { ending := .ok (record.fail clock.started clock.finished reason, .failed reason)
    state := craft.giveUp work state }

/-- Has a job that asked for it wait for another run. -/
def rerun (craft : Craft Work σ) (settings : Settings) (clock : Readings) (record : Record)
    (work : Work) (state : σ) : Execution σ :=
  if record.parameters.limit.allowsAnother record.attempt then
    match craft.save work with
    | .error reason => giveUp craft clock record work reason.message state
    | .ok payload =>
      let policy := record.parameters.retryPolicy.getD settings.retryPolicy
      let saved := { record with payload := payload }
      match saved.retry clock.started clock.finished (policy.delay record.attempt) with
      | (.ok (), waiting) => ⟨.ok (waiting, .retrying record.attempt), state⟩
      | (.error cause, _) => ⟨.error cause, state⟩
  else giveUp craft clock record work "attempts exhausted" state

/-- Handles a claimed record: an undecodable job fails, an expired one is given up, one with an
unmet constraint is deferred, and any other is run. -/
def execute (craft : Craft Work σ) (settings : Settings) (clock : Readings) (record : Record)
    (state : σ) : Execution σ :=
  match craft.rebuild record with
  | .error reason =>
    let failed := record.fail clock.started clock.finished reason.message
    ⟨.ok (failed, .failed reason.message), state⟩
  | .ok work =>
    if record.isExpired clock.started then
      giveUp craft clock record work "lifespan exceeded" state
    else
      match craft.unmet? record.parameters.constraints state with
      | some constraint =>
        match clock.started.add? settings.pollInterval.asDelay with
        | some due => ⟨.ok (record.defer due clock.finished, .deferred constraint), state⟩
        | none => ⟨.error .instantOverflow, state⟩
      | none =>
        match craft.run work state with
        | (.success, _, state) =>
          ⟨.ok (record.complete clock.started clock.finished, .completed), state⟩
        | (.permanentFailure reason, work, state) =>
          giveUp craft clock record work reason state
        | (.retry, work, state) => rerun craft settings clock record work state

/-- One turn of the scheduler. -/
structure Turn (σ : Type) where
  /-- What the scheduler answers: a report, or nothing if no job was ready. -/
  answer : Except (Fault JobError) (Option Report)
  /-- The state after the turn. -/
  state : σ

/-- Records how a claimed job ended, or gives the claim back if that is refused. A refusal of the
latter is passed over. -/
def settle [JobKeeper σ] (clock : Readings) (claimed : Record) (execution : Execution σ) :
    Turn σ :=
  match execution.ending with
  | .error cause => ⟨.error (.crash cause), execution.state⟩
  | .ok (record, result) =>
    match JobKeeper.update record execution.state with
    | (.ok (), state) => ⟨.ok (some ⟨record.id, record.factoryKey, result⟩), state⟩
    | (.error reason, state) =>
      let (_, state) := JobKeeper.update (claimed.defer clock.released clock.restamped) state
      ⟨.error (.error (.store reason)), state⟩

/-- Claims the next job that is ready and runs it. -/
def runNext [JobKeeper σ] (craft : Craft Work σ) (settings : Settings) (clock : Readings)
    (state : σ) : Turn σ :=
  match JobKeeper.claimNext clock.looked clock.claimed state with
  | (.error fault, state) => ⟨.error (fault.map JobError.store), state⟩
  | (.ok none, state) => ⟨.ok none, state⟩
  | (.ok (some claimed), state) =>
    settle clock claimed (execute craft settings clock claimed state)

/-- The identifier and time of creation of a new record. -/
structure Stamp where
  id : JobId
  created : Instant

/-- The record of a job that is taken on. -/
def toRecord (craft : Craft Work σ) (stamp : Stamp) (work : Work) : Except JobError Record :=
  (craft.save work).map fun payload =>
    .new stamp.id stamp.created (craft.key work) (craft.parameters work) payload

/-- Takes on a job. -/
def add [JobKeeper σ] (craft : Craft Work σ) (stamp : Stamp) (work : Work) (state : σ) :
    Except JobError JobId × σ :=
  match toRecord craft stamp work with
  | .error reason => (.error reason, state)
  | .ok record =>
    let (answer, state) := JobKeeper.enqueue record state
    (answer.mapError JobError.store, state)

/-- The records of jobs that are taken on together, or why the first bad one has none. -/
def toRecords (craft : Craft Work σ) (stamps : Nat → Stamp) (works : List Work) :
    Except JobError (List Record) :=
  works.zipIdx.mapM fun (work, place) => toRecord craft (stamps place) work

/-- Takes on several jobs, all of them or none. The stamps are given by place in the list. -/
def addAll [JobKeeper σ] (craft : Craft Work σ) (stamps : Nat → Stamp) (works : List Work)
    (state : σ) : Except JobError (List JobId) × σ :=
  if works.isEmpty then (.ok [], state)
  else
    match toRecords craft stamps works with
    | .error reason => (.error reason, state)
    | .ok records =>
      let (answer, state) := JobKeeper.enqueueAll records state
      (answer.mapError JobError.store, state)

end

/-- What a worker counts. -/
structure WorkerStats where
  run : Nat := 0
  completed : Nat := 0
  retried : Nat := 0
  failed : Nat := 0
  deferred : Nat := 0
  deriving DecidableEq

/-- Counts a turn. One that gave no report is not counted. -/
def WorkerStats.count (stats : WorkerStats) :
    Except (Fault JobError) (Option Report) → WorkerStats
  | .ok (some report) =>
    let stats := { stats with run := stats.run + 1 }
    match report.result with
    | .completed => { stats with completed := stats.completed + 1 }
    | .retrying _ => { stats with retried := stats.retried + 1 }
    | .failed _ => { stats with failed := stats.failed + 1 }
    | .deferred _ => { stats with deferred := stats.deferred + 1 }
  | _ => stats

end Mailroom.Job
