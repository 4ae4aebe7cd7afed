/-!
# The group lock

Everything that reads or changes the state of groups is done by whoever holds one lock. The lock
is free again whenever its holder ends, also by a crash.
-/

namespace Mailroom.Batch

/-- The lock on the state of groups. -/
structure GroupLock where
  /-- Whether somebody holds it. -/
  held : Bool := false
  deriving DecidableEq

namespace GroupLock

/-- A lock that somebody holds. -/
def acquired : GroupLock := ⟨true⟩

/-- A lock that is free. -/
def released : GroupLock := ⟨false⟩

/-- The lock once it is taken. Whoever held it before has given it back by then. -/
def acquire (lock : GroupLock) : GroupLock := { lock with held := true }

/-- The lock once its holder gives it back. -/
def release (lock : GroupLock) : GroupLock := { lock with held := false }

@[simp] theorem held_acquire (lock : GroupLock) : lock.acquire.held = true := rfl

@[simp] theorem held_release (lock : GroupLock) : lock.release.held = false := rfl

end GroupLock

end Mailroom.Batch
