import Mailroom.Rehearsal.Stage

/-!
# Scheduling on stage

Taking jobs on, running them one by one or by a worker, and editing their records.
-/

namespace Mailroom.Rehearsal.Stage

/-- The identifier and time of creation of the job at a place among the next ones. -/
def stamp (stage : Stage) (place : Nat) : Job.Stamp :=
  let created := stage.now.toNanos + 1 + place
  ⟨⟨⟨.ofNumber 16 created.toNat⟩⟩, .ofNanos created⟩

/-- Takes on a job. -/
def add (work : Work) (stage : Stage) : Except Job.JobError Job.JobId × Stage :=
  Job.add craft (stage.stamp 0) work (stage.wait 1)

/-- Takes on several jobs together. -/
def addAll (works : List Work) (stage : Stage) : Except Job.JobError (List Job.JobId) × Stage :=
  Job.addAll craft stage.stamp works (stage.wait works.length)

/-- Runs the next job that is ready. -/
def runNext (stage : Stage) : Except (Fault Job.JobError) (Option Job.Report) × Stage :=
  let turn := Job.runNext craft stage.settings (.still stage.now) stage
  (turn.answer, turn.state)

/-- Claims the job to run next, without running it. -/
def claim (stage : Stage) : Except (Fault Job.StoreError) (Option Job.Record) × Stage :=
  stage.askStore (DiskStore.claimNext stage.now stage.now)

/-- The record of a job, if there is one. -/
def record? (id : Job.JobId) (stage : Stage) : Except Job.StoreError (Option Job.Record) :=
  stage.jobs.store.get? id

/-- The record of the job that came in at a place, if there is one. -/
def recordAt? (place : Nat) (stage : Stage) : Except Job.StoreError (Option Job.Record) :=
  match stage.jobs.idAt? place with
  | none => .ok none
  | some id => stage.record? id

/-- Edits the record of the job that came in at a place. -/
def edit (place : Nat) (change : Job.Record → Job.Record) (stage : Stage) :
    Except Job.StoreError (Option Job.Record) × Stage :=
  match stage.recordAt? place with
  | .error reason => (.error reason, stage)
  | .ok none => (.ok none, stage)
  | .ok (some record) =>
    let edited := change record
    let (answer, store) := stage.jobs.store.update edited
    (answer.map fun () => some edited,
      { stage with jobs := { stage.jobs with store := store } })

/-- Whether every job has ended. -/
def isIdle (stage : Stage) : Bool :=
  stage.jobs.store.value.records.all fun record => record.status.isTerminal

/-- A worker takes turns until every job has ended. It waits when no job was ready, and when a
turn was refused. A crash stops it, and so does the count of turns. -/
def work : Nat → Job.WorkerStats → Stage → Job.WorkerStats × Stage
  | 0, stats, stage => (stats, stage)
  | turns + 1, stats, stage =>
    if stage.isIdle then (stats, stage)
    else
      let (answer, stage) := (stage.wait 1).runNext
      let stats := stats.count answer
      match answer with
      | .ok (some _) => work turns stats stage
      | .error (.crash _) => (stats, stage)
      | _ => work turns stats (stage.wait stage.settings.pollInterval.nanos)

/-- Puts another scheduler on stage. -/
def restart (settings : Job.Settings) (stage : Stage) : Stage := { stage with settings := settings }

end Mailroom.Rehearsal.Stage
