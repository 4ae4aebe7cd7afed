import Mathlib
import Mailroom.Proofs.Job.Workforce

/-!
# Queues

Jobs of one queue run one at a time and in order, however many workers share the store.
`single_flight` says that the running jobs are the claims that are held and that a queue has at
most one; `predecessors_ended` that a job is handed out only after every job of its queue that was
created earlier has ended.

A busy queue and a queue whose first job waits are closed for different reasons: an older job may
arrive while a newer one runs, and a job that backs off does not run but keeps its place.
-/

namespace Mailroom.Job.Workforce

/-- A queue has one job in flight at a time. -/
structure SingleFlight (crew : Workforce) : Prop where
  /-- The running jobs are those that workers hold claims for. -/
  claimed_iff_running : ∀ record,
    record ∈ crew.claims ↔ record ∈ crew.store.value.records ∧ record.status = .running
  /-- No job is claimed twice. -/
  claimed_once : (crew.claims.map Record.id).Nodup
  /-- No two running jobs share a queue. -/
  one_for_each_queue : ∀ left ∈ crew.store.value.records, ∀ right ∈ crew.store.value.records,
    left.status = .running → right.status = .running → left.SharesQueue right → left = right
  /-- What is handed out is not claimed and shares its queue with no claim. -/
  handed_out_free : ∀ now stamp claim, (crew.store.claimNext now stamp).1 = .ok (some claim) →
    ∀ other ∈ crew.claims, other.id ≠ claim.id ∧ ¬ claim.SharesQueue other
  /-- What is handed out has not ended. -/
  handed_out_unended : ∀ now stamp claim, (crew.store.claimNext now stamp).1 = .ok (some claim) →
    ∃ kept, crew.store.value.get? claim.id = some kept ∧ kept.status.isTerminal = false

/-- However the steps of a store and its workers interleave, a queue has one job in flight at a
time, as long as every job has room for one more run. -/
theorem single_flight {crew : Workforce} (reached : crew.Reachable)
    (room : ∀ record ∈ crew.store.value.records, record.attempt.toNat + 1 < UInt32.size) :
    crew.SingleFlight := by
  have intact : crew.store.poisoned = false := by
    rw [← Bool.not_eq_true]
    intro poisoned
    obtain ⟨record, kept, full⟩ := reached.sound.full poisoned
    exact full (room record kept)
  have orderly := reached.sound.orderly intact
  refine ⟨orderly.claims_iff, orderly.distinct, ?_, ?_, ?_⟩
  · intro left hl right hr runningLeft runningRight shared
    exact orderly.alone left ((orderly.claims_iff left).2 ⟨hl, runningLeft⟩) right
      ((orderly.claims_iff right).2 ⟨hr, runningRight⟩) shared
  · intro now stamp claim answered other held
    obtain ⟨record, next, rfl⟩ := Store.candidate?_of_claimNext answered
    have claimable := Jobs.Claimable.of_candidate? next
    obtain ⟨kept, running⟩ := (orderly.claims_iff other).1 held
    exact ⟨orderly.id_ne_of_claimable claimable other held, claimable.idle other kept running⟩
  · intro now stamp claim answered
    obtain ⟨record, next, rfl⟩ := Store.candidate?_of_claimNext answered
    have claimable := Jobs.Claimable.of_candidate? next
    exact ⟨record, Table.get?_eq_some_iff.2 ⟨claimable.kept, rfl⟩,
      Jobs.not_isTerminal_of_isReady claimable.ready⟩

/-- A new job of a queue that all letters share; it was created at its place. -/
def letter (place : Nat) : Record :=
  .new ⟨⟨.ofNumber 16 place⟩⟩ (.ofNanos place) "Letter" { queue := some "letters" } []

/-- The time at which letters are run. -/
def postTime : Instant := .ofNanos 5

/-- An older letter has arrived while a newer one is running. -/
def overtaken : Workforce :=
  ((empty.enqueue (letter 2)).claimNext postTime postTime).enqueue (letter 1)

/-- Of two letters the newer one is in flight, because it was there first. -/
theorem single_flight_overtaken :
    overtaken.claims.map Record.id = [(letter 2).id] ∧ overtaken.Reachable ∧
      (∀ record ∈ overtaken.store.value.records, record.attempt.toNat + 1 < UInt32.size) ∧
      overtaken.SingleFlight := by
  have reached : overtaken.Reachable :=
    .next (.next (.next .start (.enqueue (letter 2) rfl)) (.claimNext postTime postTime))
      (.enqueue (letter 1) rfl)
  have counts : overtaken.store.value.records.map Record.attempt = [1, 0] := by cbv
  have small : ∀ count ∈ overtaken.store.value.records.map Record.attempt,
      count.toNat + 1 < UInt32.size := by
    intro count held
    rw [counts, List.mem_pair] at held
    rcases held with rfl | rfl
    · decide
    · decide
  have room : ∀ record ∈ overtaken.store.value.records,
      record.attempt.toNat + 1 < UInt32.size :=
    fun record kept => small record.attempt (List.mem_map_of_mem kept)
  exact ⟨by cbv, reached, room, single_flight reached room⟩

/-- The store keeps a record of every job that was submitted and of no other. -/
structure Traced (crew : Workforce) : Prop where
  kept : ∀ job ∈ crew.submitted, ∃ record ∈ crew.store.value.records, record.SameJob job
  submitted : ∀ record ∈ crew.store.value.records, ∃ job ∈ crew.submitted, record.SameJob job

/-- Taking on jobs traces them. -/
theorem Traced.takenOn {crew : Workforce} (traced : crew.Traced) {records : List Record}
    {jobs : Jobs} (filed : jobs.records = crew.store.value.records ++ records) :
    Traced ⟨⟨jobs, false⟩, crew.claims, crew.submitted ++ records⟩ := by
  constructor
  · intro job submitted
    show ∃ record ∈ jobs.records, record.SameJob job
    rw [filed]
    rcases List.mem_append.1 submitted with old | new
    · obtain ⟨record, kept, same⟩ := traced.kept job old
      exact ⟨record, List.mem_append_left _ kept, same⟩
    · exact ⟨job, List.mem_append_right _ new, .refl job⟩
  · intro record kept
    change record ∈ jobs.records at kept
    rw [filed] at kept
    rcases List.mem_append.1 kept with old | new
    · obtain ⟨job, submitted, same⟩ := traced.submitted record old
      exact ⟨job, List.mem_append_left _ submitted, same⟩
    · exact ⟨record, List.mem_append_right _ new, .refl record⟩

/-- Filing a later record of a job keeps the jobs traced, whoever holds claims. -/
theorem Traced.insert {crew : Workforce} (traced : crew.Traced) {old record : Record}
    (kept : old ∈ crew.store.value.records) (same : record.SameJob old) (poisoned : Bool)
    (claims : List Record) :
    Traced ⟨⟨crew.store.value.insert record, poisoned⟩, claims, crew.submitted⟩ := by
  constructor
  · intro job submitted
    obtain ⟨source, held, belongs⟩ := traced.kept job submitted
    by_cases replaced : source.id = record.id
    · obtain rfl : source = old := Table.eq_of_key_eq held kept (replaced.trans same.id)
      exact ⟨record, Table.mem_insert_self _ _, same.trans belongs⟩
    · exact ⟨source, Table.mem_insert.2 (.inr ⟨held, replaced⟩), belongs⟩
  · intro source held
    rcases Table.mem_insert.1 held with rfl | ⟨held, -⟩
    · obtain ⟨job, submitted, belongs⟩ := traced.submitted old kept
      exact ⟨job, submitted, same.trans belongs⟩
    · exact traced.submitted source held

/-- What a step changes keeps the jobs traced. -/
theorem Change.traced {crew next : Workforce} (change : Change crew next) (sound : crew.Sound)
    (traced : crew.Traced) : next.Traced := by
  cases change with
  | nothing => exact traced
  | takenOn intact records jobs fresh filed => exact traced.takenOn filed
  | claimed intact record claim now claimable same running =>
    exact traced.insert claimable.kept same _ _
  | crashed intact record broken kept same full => exact traced.insert kept same _ _
  | ended intact claim record held same rests =>
    exact traced.insert (((sound.orderly intact).claims_iff claim).1 held).1 same _ _
  | dropped claim record held same refused => exact ⟨traced.kept, traced.submitted⟩

/-- Every run keeps the jobs traced. -/
theorem Reachable.traced {crew : Workforce} (reached : crew.Reachable) : crew.Traced := by
  induction reached with
  | start =>
    constructor
    · intro job submitted
      cases submitted
    · intro record kept
      cases kept
  | next reached step ih => exact step.change.traced reached.sound ih

/-- Of two jobs that share a queue, the one that was created earlier has ended before the other is
handed out. If jobs are submitted in the order of their creation, everything that was submitted to
the queue before the one handed out has ended. -/
theorem predecessors_ended {crew : Workforce} (reached : crew.Reachable) {now stamp : Instant}
    {claim : Record} (answered : (crew.store.claimNext now stamp).1 = .ok (some claim)) :
    (∀ other ∈ crew.store.value.records, other.SharesQueue claim → other.Before claim →
      other.status.isTerminal = true) ∧
    (∃ job ∈ crew.submitted, claim.SameJob job) ∧
    (crew.submitted.Pairwise Record.Before →
      ∀ earlier job later, crew.submitted = earlier ++ job :: later → job.id = claim.id →
        ∀ predecessor ∈ earlier, predecessor.SharesQueue claim →
          ∃ kept, crew.store.value.get? predecessor.id = some kept ∧
            kept.status.isTerminal = true) := by
  obtain ⟨record, next, rfl⟩ := Store.candidate?_of_claimNext answered
  have claimable := Jobs.Claimable.of_candidate? next
  have traced := reached.traced
  have ended : ∀ other ∈ crew.store.value.records, other.SharesQueue record →
      other.Before record → other.status.isTerminal = true := by
    rintro other kept ⟨queue, ho, hr⟩ before
    rw [← Bool.not_eq_false]
    intro unended
    exact before.not_precedes (claimable.first other kept unended ⟨queue, hr, ho⟩)
  refine ⟨ended, ?_, ?_⟩
  · obtain ⟨job, submitted, same⟩ := traced.submitted record claimable.kept
    exact ⟨job, submitted, same.id, same.factoryKey, same.parameters, same.created⟩
  · rintro ordered earlier job later placed matched predecessor inFront ⟨queue, hp, hr⟩
    have submitted : ∀ other ∈ earlier ++ job :: later, other ∈ crew.submitted := by
      rw [placed]
      exact fun _ held => held
    obtain ⟨kept, held, same⟩ :=
      traced.kept predecessor (submitted _ (List.mem_append_left _ inFront))
    obtain ⟨claimed, here, belongs⟩ :=
      traced.kept job (submitted _ (List.mem_append_right _ List.mem_cons_self))
    obtain rfl : claimed = record :=
      Table.eq_of_key_eq here claimable.kept (belongs.id.trans matched)
    have before : predecessor.Before job := by
      rw [placed, List.pairwise_append] at ordered
      exact ordered.2.2 predecessor inFront job List.mem_cons_self
    refine ⟨kept, Table.get?_eq_some_iff.2 ⟨held, same.id⟩, ended kept held ?_ ?_⟩
    · exact ⟨queue, same.queue.trans hp, hr⟩
    · rw [Record.Before, same.created, same.id, belongs.created, belongs.id]
      exact before

/-- The first letter while it is run. -/
def firstRun : Record := { letter 1 with status := .running, attempt := 1, updated := postTime }

/-- The first letter after it has asked for another run without delay. -/
def betweenRuns : Record := (firstRun.retry postTime postTime .zero).2

/-- The first letter while it is run again. -/
def secondRun : Record := { betweenRuns with status := .running, attempt := 2 }

/-- Two letters have been submitted, and the first one was done in its second run. -/
def firstDone : Workforce :=
  let submitted := (empty.enqueue (letter 1)).enqueue (letter 2)
  let waiting := (submitted.claimNext postTime postTime).finish betweenRuns
  (waiting.claimNext postTime postTime).finish (secondRun.complete postTime postTime)

/-- The second letter while it is run. -/
def laterRun : Record := { letter 2 with status := .running, attempt := 1, updated := postTime }

/-- The second letter is handed out after the first has been done in its second run. -/
theorem predecessors_ended_second_letter :
    firstDone.Reachable ∧ (firstDone.store.claimNext postTime postTime).1 = .ok (some laterRun) ∧
      ∃ kept, firstDone.store.value.get? (letter 1).id = some kept ∧
        kept.status.isTerminal = true := by
  have submitted :=
    Reachable.next (.next .start (.enqueue (letter 1) rfl)) (.enqueue (letter 2) rfl)
  have claimed := submitted.next (.claimNext postTime postTime)
  have waiting := claimed.next
    (.finish firstRun betweenRuns (.retry .zero) postTime postTime
      (by rw [show Workforce.claims _ = [firstRun] by cbv]; exact List.mem_singleton_self _)
      Mark.noConfusion rfl)
  have again := waiting.next (.claimNext postTime postTime)
  have reached : firstDone.Reachable := again.next
    (.finish secondRun _ .completed postTime postTime
      (by rw [show Workforce.claims _ = [secondRun] by cbv]; exact List.mem_singleton_self _)
      Mark.noConfusion rfl)
  have answered : (firstDone.store.claimNext postTime postTime).1 = .ok (some laterRun) := by cbv
  have order : firstDone.submitted = [letter 1, letter 2] := by cbv
  have ordered : firstDone.submitted.Pairwise Record.Before := by
    rw [order, List.pairwise_pair]
    exact .inl (by decide)
  refine ⟨reached, answered, ?_⟩
  exact (predecessors_ended reached answered).2.2 ordered [letter 1] (letter 2) [] order rfl
    (letter 1) (List.mem_singleton_self _) ⟨"letters", rfl, rfl⟩

end Mailroom.Job.Workforce
