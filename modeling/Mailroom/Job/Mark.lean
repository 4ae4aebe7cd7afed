import Mailroom.Job.Record

/-!
# Marks

A mark is a change of a job's status: the claim that begins a run, or one of the four ways in
which a run ends. `Mark.apply` puts it on a record.
-/

namespace Mailroom.Job

/-- A change of a job's status. -/
inductive Mark where
  /-- A worker claims the job. -/
  | running
  /-- The run ended well. -/
  | completed
  /-- The job is given up. -/
  | failed (reason : String)
  /-- The run asks for another after a delay. -/
  | retry (delay : Span)
  /-- The claim is given back without a run. -/
  | deferred (due : Instant)
  deriving DecidableEq

namespace Mark

/-- Puts a mark on a record at a time, for a run that started at another. A mark that crashes
leaves what it changed before. -/
def apply (mark : Mark) (started now : Instant) (record : Record) : Except Crash Unit × Record :=
  match mark with
  | .running => record.start now
  | .completed => (.ok (), record.complete started now)
  | .failed reason => (.ok (), record.fail started now reason)
  | .retry delay => record.retry started now delay
  | .deferred due => (.ok (), record.defer due now)

end Mark

end Mailroom.Job
