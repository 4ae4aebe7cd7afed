import Mailroom.Fault

/-!
# Guarded values

A guarded value stands behind a lock that many may read and one may write. A write that crashes
leaves the value as far changed as it got and poisons the lock: from then on every access is
refused, so nobody sees what a half-done write left behind.
-/

namespace Mailroom

/-- A value behind a lock. -/
structure Guarded (α : Type) where
  /-- The value as the last write left it. -/
  value : α
  /-- Whether a write has crashed. -/
  poisoned : Bool := false
  deriving DecidableEq

namespace Guarded

variable {α β ε : Type}

/-- Reads the value, unless the lock is poisoned. -/
def read (refusal : ε) (look : α → Except ε β) (guarded : Guarded α) : Except ε β :=
  if guarded.poisoned then .error refusal else look guarded.value

/-- Writes the value, unless the lock is poisoned. The write cannot crash. -/
def write (refusal : ε) (change : α → Except ε β × α) (guarded : Guarded α) :
    Except ε β × Guarded α :=
  if guarded.poisoned then (.error refusal, guarded)
  else
    let (answer, value) := change guarded.value
    (answer, ⟨value, false⟩)

/-- Writes the value, unless the lock is poisoned. A write that crashes poisons it. -/
def writeRisky (refusal : ε) (change : α → Except (Fault ε) β × α) (guarded : Guarded α) :
    Except (Fault ε) β × Guarded α :=
  if guarded.poisoned then (.error (.error refusal), guarded)
  else
    match change guarded.value with
    | (.error (.crash cause), value) => (.error (.crash cause), ⟨value, true⟩)
    | (answer, value) => (answer, ⟨value, false⟩)

/-- A poisoned lock refuses every write and keeps the value. -/
theorem write_poisoned (refusal : ε) (change : α → Except ε β × α) {guarded : Guarded α}
    (h : guarded.poisoned = true) : guarded.write refusal change = (.error refusal, guarded) := by
  simp [write, h]

/-- A poisoned lock refuses every risky write and keeps the value. -/
theorem writeRisky_poisoned (refusal : ε) (change : α → Except (Fault ε) β × α)
    {guarded : Guarded α} (h : guarded.poisoned = true) :
    guarded.writeRisky refusal change = (.error (.error refusal), guarded) := by
  simp [writeRisky, h]

end Guarded

end Mailroom
