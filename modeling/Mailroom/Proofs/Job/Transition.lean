import Mailroom.Job.Mark

/-!
# What changes of status keep

A record is rewritten many times, but it stays the record of one job: who it is, who can rebuild
it, how it is scheduled and when it was created never change. `SameJob` says so, and every mark
keeps it. A mark that ends a run leaves no running record behind.
-/

namespace Mailroom.Job

namespace Record

/-- Whether two records are of the same job as it was submitted. -/
structure SameJob (left right : Record) : Prop where
  id : left.id = right.id
  factoryKey : left.factoryKey = right.factoryKey
  parameters : left.parameters = right.parameters
  created : left.created = right.created

namespace SameJob

/-- A record is of its own job. -/
theorem refl (record : Record) : record.SameJob record := ⟨rfl, rfl, rfl, rfl⟩

/-- Records of one job belong together across a third. -/
theorem trans {first second third : Record} (left : first.SameJob second)
    (right : second.SameJob third) : first.SameJob third :=
  ⟨left.id.trans right.id, left.factoryKey.trans right.factoryKey,
    left.parameters.trans right.parameters, left.created.trans right.created⟩

/-- Records of one job wait in the same queue. -/
theorem queue {left right : Record} (same : left.SameJob right) : left.queue = right.queue :=
  congrArg Parameters.queue same.parameters

end SameJob

/-- A run for which there is room is counted. -/
theorem toNat_attempt_add_one {record : Record} (room : record.attempt.toNat + 1 < UInt32.size) :
    (record.attempt + 1).toNat = record.attempt.toNat + 1 := by
  rw [UInt32.toNat_add, UInt32.toNat_one]
  exact Nat.mod_eq_of_lt room

/-- Starting a run keeps the job. -/
theorem start_sameJob (now : Instant) (record : Record) :
    (record.start now).2.SameJob record := by
  unfold start
  split
  · exact ⟨rfl, rfl, rfl, rfl⟩
  · exact ⟨rfl, rfl, rfl, rfl⟩

/-- Waiting for another run keeps the job. -/
theorem retry_sameJob (started now : Instant) (delay : Span) (record : Record) :
    (record.retry started now delay).2.SameJob record := by
  unfold retry
  cases now.add? delay.asDelay with
  | none => exact ⟨rfl, rfl, rfl, rfl⟩
  | some due => exact ⟨rfl, rfl, rfl, rfl⟩

/-- Waiting for another run keeps what the job saved. -/
theorem payload_retry (started now : Instant) (delay : Span) (record : Record) :
    (record.retry started now delay).2.payload = record.payload := by
  unfold retry
  cases now.add? delay.asDelay with
  | none => rfl
  | some due => rfl

/-- A claim that is given back leaves the job where its attempts have brought it. -/
theorem status_defer (due now : Instant) (record : Record) :
    (record.defer due now).status =
      if (record.defer due now).attempt = 0 then .pending
      else .retrying (record.defer due now).attempt :=
  rfl

end Record

namespace Mark

/-- A mark keeps the job. -/
theorem apply_sameJob (mark : Mark) (started now : Instant) (record : Record) :
    (mark.apply started now record).2.SameJob record := by
  cases mark with
  | running => exact record.start_sameJob now
  | completed => exact ⟨rfl, rfl, rfl, rfl⟩
  | failed reason => exact ⟨rfl, rfl, rfl, rfl⟩
  | retry delay => exact record.retry_sameJob started now delay
  | deferred due => exact ⟨rfl, rfl, rfl, rfl⟩

/-- A mark that ends a run leaves no running record behind, even if it crashes. -/
theorem status_apply_ne_running {mark : Mark} (ends : mark ≠ .running) (started now : Instant)
    (record : Record) : (mark.apply started now record).2.status ≠ .running := by
  cases mark with
  | running => exact absurd rfl ends
  | completed => exact Status.noConfusion
  | failed reason => exact Status.noConfusion
  | retry delay =>
    show (record.retry started now delay).2.status ≠ .running
    unfold Record.retry
    cases now.add? delay.asDelay with
    | none => exact Status.noConfusion
    | some due => exact Status.noConfusion
  | deferred due =>
    show (record.defer due now).status ≠ .running
    rw [record.status_defer due now]
    split
    · exact Status.noConfusion
    · exact Status.noConfusion

end Mark

end Mailroom.Job
