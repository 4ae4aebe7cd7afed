import Mailroom.Batch.Lookups
import Mailroom.Batch.Outlet

/-!
# The accumulating cache

The cache of the batch loop holds effects back until the end of the batch. Jobs are kept in the
order they were added, threads in the order they were first asked for and each once. A flush takes
both out before it hands them over, jobs first, so nothing is handed over twice; it tries the
threads also when the jobs were refused, and answers the first refusal.
-/

namespace Mailroom.Batch

/-- A cache that holds effects back. -/
structure Accumulator (Work : Type) where
  lookups : Lookups := {}
  /-- The jobs that wait for the flush. -/
  jobs : List Work := []
  /-- The threads that wait for the flush. -/
  threads : List ThreadId := []

namespace Accumulator

variable {Work σ : Type}

/-- A cache that may be used only while the group lock is held. -/
def bound : Accumulator Work := { lookups := { bound := true } }

/-- Keeps a job for the flush. -/
def addJob (cache : Accumulator Work) (work : Work) : Accumulator Work :=
  { cache with jobs := cache.jobs ++ [work] }

/-- Keeps a thread for the flush, unless it is kept already. -/
def addThread (cache : Accumulator Work) (id : ThreadId) : Accumulator Work :=
  if cache.threads.contains id then cache else { cache with threads := cache.threads ++ [id] }

/-- The cache with nothing remembered and nothing held back. -/
def emptied (cache : Accumulator Work) : Accumulator Work :=
  { lookups := cache.lookups.clear }

/-- Hands jobs over, if there are any. -/
def flushJobs (outlet : Outlet Work σ) (jobs : List Work) (state : σ) :
    Except Job.JobError Unit × σ :=
  if jobs.isEmpty then (.ok (), state)
  else
    let (answer, state) := outlet.addJobs jobs state
    (answer.map fun _ => (), state)

/-- Moves threads, if there are any. -/
def flushThreads (outlet : Outlet Work σ) (threads : List ThreadId) (state : σ) :
    Except (Fault StorageError) Unit × σ :=
  if threads.isEmpty then (.ok (), state) else outlet.updateThreads threads state

/-- Reports a refusal, if there was one. -/
def reportRefusal (outlet : Outlet Work σ) (message : String) :
    Except BatchError Unit → σ → σ
  | .ok (), state => state
  | .error error, state => outlet.report (.warn message [("error", error.message)]) state

/-- Hands over all that was held back and forgets all that was remembered. -/
def flush (outlet : Outlet Work σ) (cache : Accumulator Work) (state : σ) :
    Effect BatchError Unit (Accumulator Work) σ :=
  let (jobs, state) := flushJobs outlet cache.jobs state
  match flushThreads outlet cache.threads state with
  | (.error (.crash cause), state) => ⟨.error (.crash cause), cache.emptied, state⟩
  | (.ok (), state) =>
    let jobs := jobs.mapError BatchError.jobs
    ⟨jobs.mapError Fault.error, cache.emptied,
      reportRefusal outlet "failed to flush batched jobs" jobs state⟩
  | (.error (.error reason), state) =>
    let jobs := jobs.mapError BatchError.jobs
    let threads : Except BatchError Unit := .error (.threads reason)
    let state := reportRefusal outlet "failed to flush batched jobs" jobs state
    let state := reportRefusal outlet "failed to flush thread updates" threads state
    ⟨(jobs.bind fun () => threads).mapError Fault.error, cache.emptied, state⟩

end Accumulator

end Mailroom.Batch
