import Mailroom.Job.Record
import Mailroom.Proofs.Time.Instant

/-!
# Jobs wait for their backoff

A job that asked for another run is not ready before its delay has passed, and the longer the delay,
the later it is ready. This holds as far as delays are taken at their word. A longer one counts as
no delay at all, and the job is ready at once: `retry_reschedules` says that this limit is exact.
-/

namespace Mailroom.Job

namespace Record

variable {record next : Record} {started now : Instant} {delay : Span}

/-- A record that is marked for another run is ready from the instant on to which the delay leads as
it is counted. -/
theorem isReady_of_retry (marked : record.retry started now delay = (.ok (), next)) (t : Instant) :
    next.isReady t = true ↔ now.advance delay.asDelay ≤ t := by
  unfold retry at marked
  by_cases inRange : (now.advance delay.asDelay).InRange
  · rw [Instant.add?_of_inRange inRange] at marked
    cases marked
    exact decide_eq_true_iff
  · rw [Instant.add?_of_not_inRange inRange] at marked
    cases marked

/-- A record that is marked for another run is ready when its delay has passed, and not before, if
the delay is taken at its word. -/
theorem isReady_of_short (short : delay.nanos ≤ Span.longestDelay)
    (marked : record.retry started now delay = (.ok (), next)) (t : Instant) :
    next.isReady t = true ↔ now.advance delay ≤ t := by
  have counted : delay.asDelay = delay := if_pos short
  rw [isReady_of_retry marked, counted]

/-- A record that is marked for another run is ready at once if the delay is too long. -/
theorem isReady_of_long (long : ¬ delay.nanos ≤ Span.longestDelay)
    (marked : record.retry started now delay = (.ok (), next)) : next.isReady now = true := by
  have counted : delay.asDelay = .zero := if_neg long
  rw [isReady_of_retry marked, counted, Instant.advance_zero]
  exact Int.le_refl now.rank

/-- How a record that is marked for another run waits for its delay. -/
structure Rescheduled (record : Record) (started now : Instant) (delay : Span) : Prop where
  /-- The mark crashes if the instant to which the delay leads cannot be represented. -/
  marked : (record.retry started now delay).1 =
    if (now.advance delay.asDelay).InRange then .ok () else .error .instantOverflow
  /-- The delay counts from the stamp of the record. -/
  stamped : (record.retry started now delay).2.updated = now
  /-- Outside of leap seconds the end of the delay is a sum of nanoseconds. -/
  summed : now.nanos < 1000000000 → (now.advance delay).toNanos = now.toNanos + delay.nanos
  /-- If the delay is taken at its word, the record is ready when it has passed. -/
  ready : delay.nanos ≤ Span.longestDelay → ∀ next,
    record.retry started now delay = (.ok (), next) →
      ∀ t, now.advance delay ≤ t → next.isReady t = true
  /-- The record is never ready earlier exactly if the delay is taken at its word. -/
  patient : ∀ next, record.retry started now delay = (.ok (), next) →
    ((∀ t, t < now.advance delay → next.isReady t = false) ↔ delay.nanos ≤ Span.longestDelay)
  /-- With a longer delay that is taken at its word the record is not ready earlier. -/
  ordered : ∀ longer : Span, delay.nanos ≤ longer.nanos → longer.nanos ≤ Span.longestDelay →
    ∀ next later, record.retry started now delay = (.ok (), next) →
      record.retry started now longer = (.ok (), later) →
        ∀ t, later.isReady t = true → next.isReady t = true

/-- A job that asked for another run is not ready before its delay has passed, exactly if the delay
is taken at its word. -/
theorem retry_reschedules (record : Record) (started now : Instant) (delay : Span) :
    Rescheduled record started now delay where
  marked := by
    unfold retry
    by_cases inRange : (now.advance delay.asDelay).InRange
    · rw [Instant.add?_of_inRange inRange, if_pos inRange]
    · rw [Instant.add?_of_not_inRange inRange, if_neg inRange]
  stamped := by
    unfold retry
    cases now.add? delay.asDelay with
    | none => rfl
    | some due => rfl
  summed common := Instant.toNanos_advance common delay
  ready short next marked t passed := (isReady_of_short short marked t).2 passed
  patient next marked := by
    constructor
    · intro never
      by_cases short : delay.nanos ≤ Span.longestDelay
      · exact short
      · have positive : 0 < delay.nanos := by omega
        have hasty := isReady_of_long short marked
        rw [never now (now.lt_advance positive)] at hasty
        cases hasty
    · intro short t early
      rw [← Bool.not_eq_true, isReady_of_short short marked]
      exact Int.not_le.2 early
  ordered longer order short next later marked markedLater t ready := by
    have shorter : delay.nanos ≤ Span.longestDelay := Nat.le_trans order short
    rw [isReady_of_short short markedLater] at ready
    rw [isReady_of_short shorter marked]
    exact Int.le_trans (now.advance_mono order) ready

end Record

/-- A letter whose delivery asked for another run. -/
def letter : Record :=
  { Record.new default default "letter" { queue := some "road" } [] with
    status := .running, attempt := 1 }

/-- A letter that waits for an hour is not ready within the hour. -/
theorem retry_reschedules_hour :
    ∃ next, letter.retry default default (.ofSeconds 3600) = (.ok (), next) ∧
      ∀ t, t < (default : Instant).advance (.ofSeconds 3600) → next.isReady t = false := by
  have short : (Span.ofSeconds 3600).nanos ≤ Span.longestDelay := by decide
  exact ⟨_, rfl, ((Record.retry_reschedules letter default default (.ofSeconds 3600)).patient _
    rfl).2 short⟩

/-- A letter that is to wait for `2 ^ 63` milliseconds is ready at once, though not if it is to wait
for a single one. -/
theorem ready_at_once_long_delay :
    (∃ next, letter.retry default default (.ofMillis 9223372036854775808) = (.ok (), next) ∧
      (default : Instant) < (default : Instant).advance (.ofMillis 9223372036854775808) ∧
      next.isReady default = true) ∧
    ∃ next, letter.retry default default (.ofMillis 1) = (.ok (), next) ∧
      next.isReady default = false :=
  ⟨⟨_, rfl, by decide, by decide⟩, _, rfl, by decide⟩

end Mailroom.Job
