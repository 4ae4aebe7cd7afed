import Mailroom.Job.Record
import Mailroom.Time.Timestamp

/-!
# Records as documents

The JSON form in which records outlive the process.
-/

namespace Mailroom.Job

namespace JobId

/-- An identifier as a string. -/
def toJson (id : JobId) : Json := id.uuid.toJson

/-- The identifier that a string names. -/
def ofJson? (value : Json) : Option JobId := (Uuid.ofJson? value).map JobId.mk

end JobId

namespace Attempt

/-- The end of a run as a record. -/
def toJson (attempt : Attempt) : Json :=
  .record
    [("attempt", .int attempt.attempt.toNat),
     ("started_at", attempt.started.toJson),
     ("finished_at", attempt.finished.toJson),
     ("success", .bool attempt.success),
     ("error", .option Json.text attempt.error),
     ("duration_ms", .int attempt.duration.toNat)]

/-- The end of a run that a record holds. -/
def ofJson? (value : Json) : Option Attempt := do
  match ← value.fields?
    ["attempt", "started_at", "finished_at", "success", "error", "duration_ms"] with
  | [attempt, started, finished, success, error, duration] =>
    some
      { attempt := ← Json.required Json.toUInt32? attempt
        started := ← Json.required Instant.ofJson? started
        finished := ← Json.required Instant.ofJson? finished
        success := ← Json.required Json.toBool? success
        error := ← Json.optional Json.toText? error
        duration := ← Json.required Json.toUInt64? duration }
  | _ => none

end Attempt

namespace Record

/-- A job as a record. -/
def toJson (record : Record) : Json :=
  .record
    [("id", record.id.toJson),
     ("factory_key", .text record.factoryKey),
     ("parameters", record.parameters.toJson),
     ("payload", .bytes record.payload),
     ("status", record.status.toJson),
     ("attempt", .int record.attempt.toNat),
     ("created_at", record.created.toJson),
     ("updated_at", record.updated.toJson),
     ("scheduled_at", .option Instant.toJson record.scheduled),
     ("history", .list Attempt.toJson record.history)]

/-- The names of the fields of a job, in order. -/
def fieldNames : List String :=
  ["id", "factory_key", "parameters", "payload", "status", "attempt", "created_at", "updated_at",
   "scheduled_at", "history"]

/-- The job that a record holds. -/
def ofJson? (value : Json) : Option Record := do
  match ← value.fields? fieldNames with
  | [id, factoryKey, parameters, payload, status, attempt, created, updated, scheduled, history] =>
    some
      { id := ← Json.required JobId.ofJson? id
        factoryKey := ← Json.required Json.toText? factoryKey
        parameters := ← Json.required Parameters.ofJson? parameters
        payload := ← Json.required Json.toBytes? payload
        status := ← Json.required Status.ofJson? status
        attempt := ← Json.required Json.toUInt32? attempt
        created := ← Json.required Instant.ofJson? created
        updated := ← Json.required Instant.ofJson? updated
        scheduled := ← Json.optional Instant.ofJson? scheduled
        history := ← Json.required (Json.toList? Attempt.ofJson?) history }
  | _ => none

end Record

end Mailroom.Job
