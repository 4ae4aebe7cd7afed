import Mailroom.Job.Record

/-!
# Job errors

What the store of jobs and the scheduler can refuse, and how they say it.
-/

namespace Mailroom.Job

/-- Why the store of jobs refused. -/
inductive StoreError where
  /-- There is no job of this identifier. -/
  | notFound (id : JobId)
  /-- There already is a job of this identifier. -/
  | alreadyExists (id : JobId)
  /-- The store itself is in trouble. -/
  | storage (reason : String)
  deriving DecidableEq

/-- The wording of a refusal by the store. -/
def StoreError.message : StoreError → String
  | .notFound id => "job not found: " ++ id.text
  | .alreadyExists id => "job already exists: " ++ id.text
  | .storage reason => "storage error: " ++ reason

/-- What a store answers after a crash. -/
def StoreError.poisoned : StoreError := .storage "lock poisoned"

/-- Why a job could not be taken on or brought back. -/
inductive JobError where
  /-- The job cannot put its state into bytes. -/
  | serialize (key reason : String)
  /-- The bytes are no state of a job of this kind. -/
  | decode (key reason : String)
  /-- Nobody can rebuild jobs of this kind. -/
  | unknownFactory (key : String)
  /-- The store refused. -/
  | store (error : StoreError)
  deriving DecidableEq

/-- The wording of the failure. -/
def JobError.message : JobError → String
  | .serialize key reason => "failed to serialize " ++ key ++ ": " ++ reason
  | .decode key reason => "failed to decode " ++ key ++ ": " ++ reason
  | .unknownFactory key => "no factory registered for " ++ key
  | .store error => error.message

end Mailroom.Job
