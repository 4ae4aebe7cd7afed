import Mailroom.Batch.Lookups
import Mailroom.Batch.Outlet

/-!
# The pass-through cache

Outside the batch loop nothing can be held back, so every effect goes to the outlet at once.
Lookups are still remembered until the flush.
-/

namespace Mailroom.Batch

/-- A cache that holds nothing back. -/
structure PassThrough where
  lookups : Lookups := {}
  deriving DecidableEq

namespace PassThrough

variable {Work σ : Type}

/-- Hands a job over at once. -/
def addJob (outlet : Outlet Work σ) (work : Work) (cache : PassThrough) (state : σ) :
    Effect BatchError Unit PassThrough σ :=
  let (answer, state) := outlet.addJob work state
  let answer := answer.mapError fun error => Fault.error (BatchError.jobs error)
  ⟨answer.map fun _ => (), cache, state⟩

/-- Moves a thread to the top at once. -/
def addThread (outlet : Outlet Work σ) (id : ThreadId) (cache : PassThrough) (state : σ) :
    Effect BatchError Unit PassThrough σ :=
  let (answer, state) := outlet.updateThread id state
  ⟨answer.mapError (Fault.map BatchError.threads), cache, state⟩

/-- Forgets all that was remembered. -/
def flush (cache : PassThrough) : PassThrough := ⟨cache.lookups.clear⟩

end PassThrough

end Mailroom.Batch
