import Mailroom.Proofs.Job.Bookkeeping
import Mailroom.Proofs.Job.Choice

/-!
# What a turn reports

A turn of the scheduler says of the job that it has claimed what the store keeps of it from then on:
`reports_what_is_kept`. The report is put together apart from the record, in each of the ways in
which a handling can end, and `Handling.told` says that the two agree in all of them. Whatever the
job does to the store while it runs, the record is the last that the turn writes, and a turn reports
only if the store has accepted it.

A turn that has nothing to report has changed nothing.
-/

namespace Mailroom.Job

section

variable {Work σ : Type}

/-- Whether a record says of its job what is reported of it. The claim was made on another record of
the job, and handled from a state. -/
def RunResult.Told (craft : Craft Work σ) (clock : Readings) (record claim : Record) (state : σ)
    (kept : Record) : RunResult → Prop
  | .completed => kept.status = .completed
  | .retrying attempt =>
    kept.status = .retrying attempt ∧ kept.attempt = attempt ∧
      ∃ work left after, craft.Runs clock claim state work ∧
        craft.run work state = (.retry, left, after) ∧ craft.save left = .ok kept.payload
  | .failed reason => kept.status = .failed reason kept.attempt
  | .deferred _ =>
    (kept.status = .pending ∨ ∃ attempt, kept.status = .retrying attempt) ∧
      kept.attempt = record.attempt

variable {craft : Craft Work σ} {settings : Settings} {clock : Readings} {record claim : Record}
  {state : σ} {execution : Execution σ}

/-- A claim that is given back leaves a record that waits for a run. -/
theorem Record.waits_defer (due now : Instant) (claim : Record) :
    (claim.defer due now).status = .pending ∨
      ∃ attempt, (claim.defer due now).status = .retrying attempt := by
  have status := claim.status_defer due now
  by_cases none : (claim.defer due now).attempt = 0
  · rw [if_pos none] at status
    exact .inl status
  · rw [if_neg none] at status
    exact .inr ⟨_, status⟩

/-- However the handling of a claim ends, its result is told by the record with which it ends. -/
theorem Handling.told {store : Store} (claimed : Claimed clock store record claim)
    (handling : Handling craft settings clock claim state execution) {ended : Record}
    {result : RunResult} (ending : execution.ending = .ok (ended, result)) :
    result.Told craft clock record claim state ended := by
  cases handling with
  | undecodable | expired | rejected | exhausted | unsaved =>
    cases ending
    exact rfl
  | done =>
    cases ending
    exact rfl
  | deferred work rebuilt inTime constraint unmet due later =>
    cases ending
    exact ⟨Record.waits_defer due clock.finished claim, claimed.attempt_defer due clock.finished⟩
  | stuck | overflowing => cases ending
  | waiting work ready left after ran allowed payload saved next retried =>
    cases ending
    obtain ⟨due, -, rfl⟩ := Record.retry_eq_ok retried
    exact ⟨rfl, rfl, work, left, after, ready, ran, saved⟩

end

section

variable {Work World : Type} {craft : Craft Work (Store × World)} {settings : Settings}
  {clock : Readings} {store : Store} {world : World}

/-- A turn that reports has claimed a record, and what the store accepted last is the record with
which the handling of the claim ended. -/
structure Reporting (craft : Craft Work (Store × World)) (settings : Settings) (clock : Readings)
    (store : Store) (world : World) (turn : Turn (Store × World)) (report : Report)
    (record claim kept : Record) : Prop where
  claimed : Claimed clock store record claim
  handed : (store.claimNext clock.looked clock.claimed).1 = .ok (some claim)
  handling : ∃ left after, Handling craft settings clock claim
    (⟨store.value.insert claim, false⟩, world) ⟨.ok (kept, report.result), (left, after)⟩
  named : report.id = kept.id ∧ report.factoryKey = kept.factoryKey
  stored : turn.state.1.value.get? kept.id = some kept

/-- Every report is made so. -/
theorem exists_reporting {report : Report}
    (answered : (runNext craft settings clock (store, world)).answer = .ok (some report)) :
    ∃ record claim kept, Reporting craft settings clock store world
      (runNext craft settings clock (store, world)) report record claim kept := by
  rcases handed : store.claimNext clock.looked clock.claimed with ⟨fault | _ | claim, held⟩
  · simp only [runNext, claimNext_beside, handed] at answered
    cases answered
  · simp only [runNext, claimNext_beside, handed] at answered
    cases answered
  · obtain ⟨record, claimed, rfl⟩ := Store.exists_claimed handed
    have handling := execute_handling craft settings clock claim
      ((⟨store.value.insert claim, false⟩ : Store), world)
    rw [runNext_of_claimNext handed] at answered ⊢
    generalize execute craft settings clock claim
      ((⟨store.value.insert claim, false⟩ : Store), world) = execution at handling answered ⊢
    obtain ⟨cause | ⟨kept, result⟩, left, after⟩ := execution
    · cases answered
    · have beside := update_beside kept left after
      rcases updated : left.update kept with ⟨reason | accepted, filed⟩
      · rw [updated] at beside
        -- What the store refuses is answered as an error and not reported.
        rw [settle_of_refused beside] at answered
        cases answered
      · rw [updated] at beside
        rw [settle_of_updated beside] at answered ⊢
        cases answered
        refine ⟨record, claim, kept, claimed, ?_, ⟨left, after, handling⟩, ⟨rfl, rfl⟩, ?_⟩
        · rw [handed]
        · exact (Store.get?_of_update updated kept.id).trans (if_pos rfl)

/-- What a turn says, and what the store keeps after it. -/
structure Reports (craft : Craft Work (Store × World)) (clock : Readings) (store : Store)
    (world : World) (turn : Turn (Store × World)) : Prop where
  /-- A report is of the claimable job that was created first, which is the one that the store hands
  out. What the store then keeps of this job says what is reported of it. -/
  told : ∀ report, turn.answer = .ok (some report) → ∃ record claim kept,
    Jobs.Foremost clock.looked store.value record ∧
      (store.claimNext clock.looked clock.claimed).1 = .ok (some claim) ∧
      claim.id = record.id ∧ report.id = record.id ∧ report.factoryKey = record.factoryKey ∧
      turn.state.1.value.get? report.id = some kept ∧ kept.SameJob record ∧
      report.result.Told craft clock record claim (⟨store.value.insert claim, false⟩, world) kept
  /-- Where jobs leave the store alone, nothing else changes in it. -/
  others : craft.LeavesStore → ∀ report, turn.answer = .ok (some report) →
    ∀ id, id ≠ report.id → turn.state.1.value.get? id = store.value.get? id
  /-- Where there is nothing to report, nothing has changed. -/
  silent : turn.answer = .ok none → turn.state = (store, world)

/-- A turn reports of the job that it has claimed what the store keeps of it. -/
theorem reports_what_is_kept (craft : Craft Work (Store × World)) (settings : Settings)
    (clock : Readings) (store : Store) (world : World) :
    Reports craft clock store world (runNext craft settings clock (store, world)) where
  told report answered := by
    obtain ⟨record, claim, kept, made⟩ := exists_reporting answered
    obtain ⟨left, after, handling⟩ := made.handling
    have same : kept.SameJob record := (handling.ended rfl).1.trans made.claimed.sameJob
    have foremost := Jobs.candidate?_eq_some_iff_foremost.1 made.claimed.next
    refine ⟨record, claim, kept, foremost, made.handed, made.claimed.sameJob.id, ?_, ?_, ?_, same,
      handling.told made.claimed rfl⟩
    · exact made.named.1.trans same.id
    · exact made.named.2.trans same.factoryKey
    · rw [made.named.1]
      exact made.stored
  others leaves report answered id other := by
    have turning := runNext_turning leaves settings clock store world
    generalize runNext craft settings clock (store, world) = turn at turning answered ⊢
    cases turning with
    | refused | idle | full | crashed => cases answered
    | settled record claim claimed ended result after handling =>
      cases answered
      have same := (handling.ended rfl).1
      have apart : ended.id ≠ id := Ne.symm other
      rw [Table.get?_insert, if_neg apart, Table.get?_insert, if_neg (same.id ▸ apart)]
  silent answered := by
    rcases handed : store.claimNext clock.looked clock.claimed with ⟨fault | _ | claim, held⟩
    · simp only [runNext, claimNext_beside, handed] at answered
      cases answered
    · have led := store.claimNext_claiming clock.looked clock.claimed
      rw [handed] at led
      cases led
      simp only [runNext, claimNext_beside, handed]
    · rw [runNext_of_claimNext handed] at answered
      exact absurd answered (settle_ne_none clock claim _)

end

namespace Bureau

/-- The first turn for the parcel, at a time when the gate is open or not. -/
def firstTurn (gateOpen : Bool) (outcome : Outcome) : Turn (Store × Unit) :=
  runNext (parcels gateOpen outcome) porter (.still default) (parcelAccepted.store, ())

/-- The first turn for the parcel is reported in each of the four ways, by whether the gate is open
and how taking it out ends. -/
theorem reports_what_is_kept_parcel :
    (firstTurn false .success).answer = .ok (some ⟨default, "Parcel", .deferred "gate"⟩) ∧
      (firstTurn true .retry).answer = .ok (some ⟨default, "Parcel", .retrying 1⟩) ∧
      (firstTurn true .success).answer = .ok (some ⟨default, "Parcel", .completed⟩) ∧
      (firstTurn true (.permanentFailure "lost")).answer =
        .ok (some ⟨default, "Parcel", .failed "lost"⟩) ∧
      ∀ gateOpen outcome, Reports (parcels gateOpen outcome) (.still default)
        parcelAccepted.store () (firstTurn gateOpen outcome) := by
  refine ⟨?_, ?_, ?_, ?_, fun gateOpen outcome => ?_⟩
  · decide +kernel
  · decide +kernel
  · decide +kernel
  · decide +kernel
  · unfold firstTurn
    exact reports_what_is_kept (parcels gateOpen outcome) porter (.still default)
      parcelAccepted.store ()

end Bureau

end Mailroom.Job
