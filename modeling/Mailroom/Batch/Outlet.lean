import Mailroom.Job.Error
import Mailroom.Log
import Mailroom.Storage.Error
import Mailroom.Fault
import Mailroom.Identity.RowId

/-!
# Outlets

Handling a message has two lasting effects: jobs are handed to the scheduler, and threads move to
the top of the thread list. An outlet is where these effects go, together with the reports about
them. It acts on a state of its own.
-/

namespace Mailroom.Batch

/-- Where the effects of a batch go. -/
structure Outlet (Work σ : Type) where
  /-- Hands over one job. -/
  addJob : Work → σ → Except Job.JobError Job.JobId × σ
  /-- Hands over several jobs together. -/
  addJobs : List Work → σ → Except Job.JobError (List Job.JobId) × σ
  /-- Moves one thread to the top. -/
  updateThread : ThreadId → σ → Except (Fault StorageError) Unit × σ
  /-- Moves several threads to the top together. -/
  updateThreads : List ThreadId → σ → Except (Fault StorageError) Unit × σ
  /-- Reports an event. -/
  report : LogEvent → σ → σ

/-- Which effect of a batch was refused. -/
inductive BatchError where
  | jobs (error : Job.JobError)
  | threads (error : StorageError)
  deriving DecidableEq

/-- The wording of the refusal. -/
def BatchError.message : BatchError → String
  | .jobs error => "failed to submit jobs: " ++ error.message
  | .threads error => "failed to update threads: " ++ error.message

/-- What a call on a cache led to. -/
structure Effect (ε α Cache σ : Type) where
  answer : Except (Fault ε) α
  cache : Cache
  state : σ

end Mailroom.Batch
