import Mailroom.Job.Document
import Mailroom.Proofs.Identity.Kept
import Mailroom.Proofs.Time.Timestamp

/-!
# Records outlive the process

The document of a job is read back as the same record, `ofDocument?_document`, if the job has no retry
policy of its own and every instant in the record is a common one. Each part of a record is kept by
its own form, whatever its value: identifiers, limits, statuses with and without details, spans and
the ends of past runs.
-/

namespace Mailroom

/-- Common instants are kept. -/
theorem Instant.kept {t : Instant} (common : t.Common) : Json.Kept toJson ofJson? t where
  written := Json.written_text _
  solid := nofun
  back := by
    rw [ofJson?, toJson, (Json.kept_text _).back, Option.bind_some, String.toList_ofList,
      Timestamp.read?_write common]

/-- Spans are kept. -/
theorem Span.kept (span : Span) : Json.Kept toJson ofJson? span where
  written := by
    apply Json.written_record
    simp [Json.written_int]
  solid := nofun
  back := by
    have fields : span.toJson.closedFields? ["secs", "nanos"] =
        some [some (.int span.seconds), some (.int span.subNanos)] :=
      Json.closedFields?_record (by show ["secs", "nanos"].Nodup; decide)
    have fits := span.fits
    have seconds : span.seconds < 18446744073709551616 := by
      unfold Span.seconds
      omega
    have nanos : span.subNanos < 1000000000 := Nat.mod_lt _ (by decide)
    have first : Json.required Json.toUInt64? (some (.int span.seconds)) =
        some (UInt64.ofNat span.seconds) := by
      rw [Json.required, Option.bind_some, Json.toUInt64?, Json.toInt?_int (by decide) (by omega),
        Option.map_some, Int.toNat_natCast]
    have second : Json.required Json.toUInt32? (some (.int span.subNanos)) =
        some (UInt32.ofNat span.subNanos) := by
      rw [Json.required, Option.bind_some, Json.toUInt32?, Json.toInt?_int (by decide) (by omega),
        Option.map_some, Int.toNat_natCast]
    rw [ofJson?, fields]
    dsimp only [Option.bind_eq_bind, Option.bind_some]
    rw [first, Option.bind_some, second, Option.bind_some, ofParts?_parts]

namespace Job

/-- Identifiers of jobs are kept. -/
theorem JobId.kept (id : JobId) : Json.Kept toJson ofJson? id :=
  id.uuid.kept.named JobId.mk JobId.uuid rfl

/-- Limits of runs are kept. -/
theorem AttemptLimit.kept (limit : AttemptLimit) : Json.Kept toJson ofJson? limit := by
  cases limit with
  | unlimited => exact ⟨Json.written_text _, nofun, rfl⟩
  | limited most =>
    constructor
    case written =>
      apply Json.written_record
      simp [Json.written_int]
    case solid => exact nofun
    case back =>
      rw [ofJson?, toJson, Json.choice?_record]
      simp only [Option.bind_eq_bind, Option.bind_some]
      rw [(Json.kept_word32 most).back, Option.map_some]

/-- Statuses are kept, with their details. -/
theorem Status.kept (status : Status) : Json.Kept toJson ofJson? status := by
  cases status with
  | pending => exact ⟨Json.written_text _, nofun, rfl⟩
  | running => exact ⟨Json.written_text _, nofun, rfl⟩
  | completed => exact ⟨Json.written_text _, nofun, rfl⟩
  | retrying attempt =>
    have fields : (Json.record [("attempt", .int attempt.toNat)]).fields? ["attempt"] =
        some [some (.int attempt.toNat)] :=
      Json.fields?_record (by show ["attempt"].Nodup; decide)
    constructor
    case written =>
      apply Json.written_record
      simp [Json.written_record, Json.written_int]
    case solid => exact nofun
    case back =>
      rw [ofJson?, toJson, Json.choice?_record]
      simp only [Option.bind_eq_bind, Option.bind_some, fields]
      rw [(Json.kept_word32 attempt).required, Option.bind_some]
  | failed reason attempts =>
    have fields : (Json.record [("reason", .text reason), ("attempts", .int attempts.toNat)]).fields?
        ["reason", "attempts"] = some [some (.text reason), some (.int attempts.toNat)] :=
      Json.fields?_record (by show ["reason", "attempts"].Nodup; decide)
    constructor
    case written =>
      apply Json.written_record
      simp [Json.written_record, Json.written_int, Json.written_text]
    case solid => exact nofun
    case back =>
      rw [ofJson?, toJson, Json.choice?_record]
      simp only [Option.bind_eq_bind, Option.bind_some, fields]
      rw [(Json.kept_text reason).required, Option.bind_some,
        (Json.kept_word32 attempts).required, Option.bind_some]

/-- The parameters of a job without a retry policy of its own are kept. -/
theorem Parameters.kept {parameters : Parameters} (plain : parameters.retryPolicy = none) :
    Json.Kept toJson ofJson? parameters where
  written := by
    apply Json.written_record
    simp only [List.forall_mem_cons, plain]
    refine ⟨Json.written_option fun text _ => Json.kept_text text,
      (Json.kept_list fun text _ => Json.kept_text text).written,
      Json.written_option fun span _ => span.kept, parameters.limit.kept.written,
      Json.written_null, nofun⟩
  solid := nofun
  back := by
    have fields : parameters.toJson.fields?
        ["queue", "constraints", "lifespan", "max_attempts", "retry_policy"] =
          some [some (.option Json.text parameters.queue),
            some (.list Json.text parameters.constraints),
            some (.option Span.toJson parameters.lifespan), some parameters.limit.toJson,
            some (.option RetryPolicy.toJson parameters.retryPolicy)] :=
      Json.fields?_record (by
        show ["queue", "constraints", "lifespan", "max_attempts", "retry_policy"].Nodup
        decide)
    have queue : Json.optional Json.toText? (some (.option Json.text parameters.queue)) =
        some parameters.queue :=
      Json.optional_option fun text _ => Json.kept_text text
    have constraints : Json.required (Json.toList? Json.toText?)
        (some (.list Json.text parameters.constraints)) = some parameters.constraints :=
      (Json.kept_list fun text _ => Json.kept_text text).required
    have lifespan : Json.optional Span.ofJson? (some (.option Span.toJson parameters.lifespan)) =
        some parameters.lifespan :=
      Json.optional_option fun span _ => span.kept
    have policy : Json.optional RetryPolicy.ofJson?
        (some (.option RetryPolicy.toJson parameters.retryPolicy)) = some none := by
      rw [plain]
      rfl
    rw [ofJson?, fields]
    dsimp only [Option.bind_eq_bind, Option.bind_some]
    rw [queue, Option.bind_some, constraints, Option.bind_some, lifespan, Option.bind_some,
      parameters.limit.kept.required, Option.bind_some, policy, Option.bind_some, ← plain]

/-- The end of a run is kept, if it started and ended at common instants. -/
theorem Attempt.kept {attempt : Attempt} (started : attempt.started.Common)
    (finished : attempt.finished.Common) : Json.Kept toJson ofJson? attempt where
  written := by
    apply Json.written_record
    simp only [List.forall_mem_cons]
    refine ⟨Json.written_int _, (Instant.kept started).written, (Instant.kept finished).written,
      Json.written_bool _, Json.written_option fun text _ => Json.kept_text text,
      Json.written_int _, nofun⟩
  solid := nofun
  back := by
    have fields : attempt.toJson.fields?
        ["attempt", "started_at", "finished_at", "success", "error", "duration_ms"] =
          some [some (.int attempt.attempt.toNat), some attempt.started.toJson,
            some attempt.finished.toJson, some (.bool attempt.success),
            some (.option Json.text attempt.error), some (.int attempt.duration.toNat)] :=
      Json.fields?_record (by
        show ["attempt", "started_at", "finished_at", "success", "error", "duration_ms"].Nodup
        decide)
    have error : Json.optional Json.toText? (some (.option Json.text attempt.error)) =
        some attempt.error :=
      Json.optional_option fun text _ => Json.kept_text text
    rw [ofJson?, fields]
    dsimp only [Option.bind_eq_bind, Option.bind_some]
    rw [(Json.kept_word32 attempt.attempt).required, Option.bind_some,
      (Instant.kept started).required, Option.bind_some, (Instant.kept finished).required,
      Option.bind_some, (Json.kept_bool attempt.success).required, Option.bind_some, error,
      Option.bind_some, (Json.kept_word64 attempt.duration).required, Option.bind_some]

namespace Record

/-- The instants in a record. -/
def instants (record : Record) : List Instant :=
  record.created :: record.updated :: record.scheduled.toList ++
    record.history.flatMap fun attempt => [attempt.started, attempt.finished]

/-- A record without a retry policy of its own is kept, if its instants are common. -/
theorem kept {record : Record} (plain : record.parameters.retryPolicy = none)
    (common : ∀ t ∈ record.instants, t.Common) : Json.Kept toJson ofJson? record := by
  have created : record.created.Common := common _ List.mem_cons_self
  have updated : record.updated.Common :=
    common _ (List.mem_cons_of_mem _ List.mem_cons_self)
  have scheduled : ∀ t ∈ record.scheduled, Json.Kept Instant.toJson Instant.ofJson? t := by
    intro t due
    apply Instant.kept
    apply common
    simp [instants, Option.mem_def.1 due]
  have history : ∀ attempt ∈ record.history,
      Json.Kept Attempt.toJson Attempt.ofJson? attempt := by
    intro attempt held
    have both : ∀ t ∈ [attempt.started, attempt.finished], t.Common := by
      intro t either
      apply common
      apply List.mem_append_right
      exact List.mem_flatMap_of_mem held either
    exact Attempt.kept (both _ List.mem_cons_self)
      (both _ (List.mem_cons_of_mem _ List.mem_cons_self))
  constructor
  case written =>
    apply Json.written_record
    simp only [List.forall_mem_cons]
    refine ⟨record.id.kept.written, Json.written_text _, (Parameters.kept plain).written,
      (Json.kept_bytes _).written, record.status.kept.written, Json.written_int _,
      (Instant.kept created).written, (Instant.kept updated).written,
      Json.written_option scheduled, (Json.kept_list history).written, nofun⟩
  case solid => exact nofun
  case back =>
    have fields : record.toJson.fields? fieldNames =
        some [some record.id.toJson, some (.text record.factoryKey),
          some record.parameters.toJson, some (.bytes record.payload), some record.status.toJson,
          some (.int record.attempt.toNat), some record.created.toJson,
          some record.updated.toJson, some (.option Instant.toJson record.scheduled),
          some (.list Attempt.toJson record.history)] :=
      Json.fields?_record (by show fieldNames.Nodup; decide)
    rw [ofJson?, fields]
    dsimp only [Option.bind_eq_bind, Option.bind_some]
    rw [record.id.kept.required, Option.bind_some, (Json.kept_text record.factoryKey).required,
      Option.bind_some, (Parameters.kept plain).required, Option.bind_some,
      (Json.kept_bytes record.payload).required, Option.bind_some, record.status.kept.required,
      Option.bind_some, (Json.kept_word32 record.attempt).required, Option.bind_some,
      (Instant.kept created).required, Option.bind_some, (Instant.kept updated).required,
      Option.bind_some, Json.optional_option scheduled, Option.bind_some,
      (Json.kept_list history).required, Option.bind_some]

/-- The document of a record. -/
def document (record : Record) : List UInt8 := record.toJson.write

/-- The record of a document. -/
def ofDocument? (bytes : List UInt8) : Option Record := (Json.read? bytes).bind ofJson?

/-- What is written of a record without a retry policy of its own is read back, if its instants are
common. -/
theorem ofDocument?_document {record : Record} (plain : record.parameters.retryPolicy = none)
    (common : ∀ t ∈ record.instants, t.Common) : ofDocument? record.document = some record := by
  obtain ⟨written, -, back⟩ := kept plain common
  rw [ofDocument?, document, Json.read?_write written, Option.bind_some, back]

/-- The record of a job that was created at the end of the year zero and last changed at the end of
the year 9999. -/
def eventful : Record where
  id := ⟨⟨.ofNumber 16 81985529216486895⟩⟩
  factoryKey := "Letter"
  parameters :=
    { queue := some "a \"quoted\" queue\n"
      constraints := [networkConstraint, "\u00fcber"]
      lifespan := Span.ofParts? 1 500000001
      limit := .limited 4294967295 }
  payload := [0, 127, 255]
  status := .failed "\x00" 1
  attempt := 1
  created := .ofNanos (-62135596801000000000)
  updated := .ofNanos 253402300799999999999
  scheduled := some (.ofNanos 951782400120000000)
  history := [⟨1, .ofNanos (-999999000), .ofNanos 7000000, false, some retryNote, 1006⟩]

/-- The record of the eventful job is read back from its document. -/
theorem ofDocument?_document_eventful :
    (∀ t ∈ eventful.instants, t.Common) ∧ ofDocument? eventful.document = some eventful := by
  have common : ∀ t ∈ eventful.instants, t.Common := by decide
  exact ⟨common, ofDocument?_document rfl common⟩

end Record

end Job

end Mailroom
