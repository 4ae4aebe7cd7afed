import Mailroom.Proofs.Batch.HandOver

/-!
# Requests under the group lock

Lookups that are bound to the group lock crash when nobody holds it. While it is held they do not,
and neither does any other request, bound or not, except that a flush may crash with its outlet.
-/

namespace Mailroom.Batch

variable {Work σ : Type}

/-- Under the lock every lookup is allowed. -/
theorem Lookups.allowed_of_held {lock : GroupLock} (held : lock.held = true) (lookups : Lookups) :
    lookups.allowed lock = true := by
  simp [allowed, held]

theorem Lookups.whenAllowed_ne_error {α : Type} {lock : GroupLock} (held : lock.held = true)
    (use : Lookups → α × Lookups) (lookups : Lookups) (cause : Crash) :
    (whenAllowed lock use lookups).1 ≠ .error cause := by
  simp [whenAllowed, allowed_of_held held]

theorem Lookups.messageInfo_ne_error {lock : GroupLock} (held : lock.held = true)
    (message : Incoming) (lookups : Lookups) (cause : Crash) :
    (messageInfo lock message lookups).1 ≠ .error cause := by
  unfold messageInfo
  cases message.group with
  | none => exact fun crashed => nomatch crashed
  | some context =>
    cases found : (groupInfo lock context.masterKey lookups).1 with
    | error cause => exact absurd found (whenAllowed_ne_error held _ lookups cause)
    | ok info => simp [found, Except.map]

/-- What is looked up without a crash is answered without one. -/
theorem lookUp_ne_crash {α : Type} {look : Lookups → Except Crash α × Lookups}
    (looked : ∀ lookups cause, (look lookups).1 ≠ .error cause) (reply : α → Reply)
    (cache : Accumulator Work) (state : σ) (cause : Crash) :
    (lookUp look reply cache state).answer ≠ .error (.crash cause) := by
  simp only [lookUp]
  cases found : (look (Cache.lookups cache)).1 with
  | error cause => exact absurd found (looked _ cause)
  | ok value => simp [Except.map, Except.mapError]

/-- Under the lock no request but a flush can crash. -/
theorem perform_ne_crash (outlet : Outlet Work σ) {use : Use Work σ} (quiet : use.flushes = false)
    (held : use.lock.held = true) (cache : Accumulator Work) (state : σ) (cause : Crash) :
    (perform outlet use.load use.lock use.request cache state).answer ≠ .error (.crash cause) := by
  obtain ⟨request, lock, load⟩ := use
  cases request with
  | messageInfo message =>
    exact lookUp_ne_crash (Lookups.messageInfo_ne_error held message) _ cache state cause
  | roster id =>
    simp only [perform, lookUpRoster, Lookups.roster, Lookups.allowed_of_held held, if_true]
    cases (Cache.lookups cache).rosters.find? id with
    | some roster => simp [Except.map, Except.mapError]
    | none =>
      rcases load id state with ⟨_ | _, state⟩ <;> simp [Except.map, Except.mapError, Fault.map]
  | groupInfo | revision | setRevision | isQueueEmpty | markQueueEmpty =>
    exact lookUp_ne_crash (Lookups.whenAllowed_ne_error held _) _ cache state cause
  | isEmpty | clear | addJob | addThread =>
    intro crashed
    cases crashed
  | flush => simp [Use.flushes] at quiet

end Mailroom.Batch
