/-!
# Faults

A call can end without a result in two ways. It can refuse with an error that its caller is meant
to handle, or it can meet a broken internal assumption and stop where it stands. The second way
is a crash. Whatever a crashing call had already changed stays changed, so every operation that
can crash returns its state beside its result.
-/

namespace Mailroom

/-- A broken internal assumption that stops a call at once. -/
inductive Crash where
  /-- A counter of fixed width has no room for one more. -/
  | counterOverflow
  /-- A due time lies beyond the last instant that can be represented. -/
  | instantOverflow
  /-- A lookup bound to the group lock was made while nobody held the lock. -/
  | lockNotHeld
  deriving DecidableEq, Repr

/-- The text that a crash leaves behind. -/
def Crash.message : Crash → String
  | .counterOverflow => "attempt to add with overflow"
  | .instantOverflow => "`DateTime + TimeDelta` overflowed"
  | .lockNotHeld => "batch cache used without holding the group processing lock"

/-- Why a call gave no result: it refused with an error, or it crashed. -/
inductive Fault (ε : Type) where
  | error (reason : ε)
  | crash (cause : Crash)
  deriving DecidableEq, Repr

namespace Fault

/-- Restates the error of a fault and leaves a crash as it is. -/
def map {ε ε' : Type} (restate : ε → ε') : Fault ε → Fault ε'
  | .error reason => .error (restate reason)
  | .crash cause => .crash cause

end Fault

end Mailroom
