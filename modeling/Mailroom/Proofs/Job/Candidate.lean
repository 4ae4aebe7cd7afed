import Mailroom.Job.Store
import Mailroom.Proofs.Table

/-!
# The job to run next

A record is claimable if its job waits for a run that is due, no job of its queue is running, and
no unfinished job of its queue was created earlier. `candidate?_eq_some_iff` says that the job to
run next is the claimable one that was created first, and `candidate?_eq_none_iff` that there is
none exactly if nothing is claimable. The walk through the unfinished jobs never looks back, so
its laws speak of a record and of those in front of it.
-/

namespace Mailroom.Job

namespace Record

/-- Whether a record was created before another; of two created at once the one with the smaller
identifier counts as the earlier. -/
def Before (left right : Record) : Prop :=
  left.created < right.created ∨ left.created = right.created ∧ left.id.number < right.id.number

/-- The order of creation in terms of the places of instants and identifiers. -/
theorem precedes_iff {left right : Record} :
    left.precedes right = true ↔
      left.created.rank < right.created.rank ∨
        left.created.rank = right.created.rank ∧ left.id.number ≤ right.id.number := by
  simp [precedes]

/-- Being created earlier in terms of the places of instants and identifiers. -/
theorem before_iff {left right : Record} :
    left.Before right ↔
      left.created.rank < right.created.rank ∨
        left.created.rank = right.created.rank ∧ left.id.number < right.id.number := by
  constructor
  · rintro (earlier | ⟨together, smaller⟩)
    · exact .inl earlier
    · exact .inr ⟨congrArg Instant.rank together, smaller⟩
  · rintro (earlier | ⟨together, smaller⟩)
    · exact .inl earlier
    · exact .inr ⟨Instant.rank_injective together, smaller⟩

/-- The order of creation is transitive. -/
theorem precedes_trans (first second third : Record) (left : first.precedes second = true)
    (right : second.precedes third = true) : first.precedes third = true := by
  rw [precedes_iff] at left right ⊢
  omega

/-- Any two records are ordered by their creation. -/
theorem precedes_total (left right : Record) :
    (left.precedes right || right.precedes left) = true := by
  rw [Bool.or_eq_true, precedes_iff, precedes_iff]
  omega

/-- Records that precede each other belong to one job. -/
theorem id_eq_of_precedes {left right : Record} (forth : left.precedes right = true)
    (back : right.precedes left = true) : left.id = right.id := by
  rw [precedes_iff] at forth back
  exact JobId.number_injective (by omega)

/-- Nothing precedes a record that was created before it. -/
theorem Before.not_precedes {left right : Record} (earlier : left.Before right) :
    ¬ right.precedes left = true := by
  rw [before_iff] at earlier
  rw [precedes_iff]
  omega

/-- Whether two jobs wait in the same queue. -/
def SharesQueue (left right : Record) : Prop :=
  ∃ queue, left.queue = some queue ∧ right.queue = some queue

end Record

namespace Jobs

/-- A record that may be claimed at a time. -/
structure Claimable (now : Instant) (jobs : Jobs) (record : Record) : Prop where
  /-- The store keeps the record. -/
  kept : record ∈ jobs.records
  /-- The job waits for a run that is due. -/
  ready : record.isReady now = true
  /-- No job of its queue is running. -/
  idle : ∀ other ∈ jobs.records, other.status = .running → ¬ record.SharesQueue other
  /-- It precedes every unfinished job of its queue. -/
  first : ∀ other ∈ jobs.records, other.status.isTerminal = false → record.SharesQueue other →
    record.precedes other = true

/-- The unfinished jobs in the order of their creation. -/
def unfinished (jobs : Jobs) : List Record :=
  jobs.inOrder.filter fun record => !record.status.isTerminal

/-- A record is unfinished if it is kept and its job has not ended. -/
theorem mem_unfinished {jobs : Jobs} {record : Record} :
    record ∈ jobs.unfinished ↔ record ∈ jobs.records ∧ record.status.isTerminal = false := by
  rw [unfinished, List.mem_filter, inOrder, (List.mergeSort_perm _ _).mem_iff, Bool.not_eq_true']

/-- Unfinished jobs stand in the order of their creation. -/
theorem pairwise_unfinished (jobs : Jobs) :
    jobs.unfinished.Pairwise fun left right => left.precedes right = true :=
  (List.pairwise_mergeSort Record.precedes_trans Record.precedes_total _).filter _

/-- No two unfinished records belong to one job. -/
theorem unfinished_distinct (jobs : Jobs) :
    jobs.unfinished.Pairwise fun left right => left.id ≠ right.id := by
  have distinct : (jobs.inOrder.map Record.id).Nodup :=
    ((List.mergeSort_perm jobs.records _).map Record.id).nodup_iff.2 jobs.distinct
  exact (List.pairwise_map.1 distinct).filter _

/-- A queue is busy exactly if one of its jobs is running. -/
theorem mem_busyQueues {jobs : Jobs} {queue : String} :
    queue ∈ jobs.busyQueues ↔
      ∃ record ∈ jobs.records, record.status = .running ∧ record.queue = some queue := by
  simp [busyQueues, List.mem_filterMap, List.mem_filter, and_assoc]

/-- Whether a record is ready and its queue is open behind the records of a list, when some queues
were closed from the start. -/
def OpenBehind (now : Instant) (closed : List String) (front : List Record) (record : Record) :
    Prop :=
  record.isReady now = true ∧
    ∀ queue, record.queue = some queue →
      queue ∉ closed ∧ ∀ passed ∈ front, passed.queue ≠ some queue

/-- The test of the walk says that a record is open in front of all others. -/
theorem openBehind_nil {now : Instant} {closed : List String} {record : Record} :
    (record.isReady now && !record.queue.any closed.contains) = true ↔
      OpenBehind now closed [] record := by
  unfold OpenBehind
  cases record.queue with
  | none => simp
  | some queue => simp

/-- Passing a record closes its queue. -/
theorem openBehind_cons {now : Instant} {closed : List String} {passed record : Record}
    {front : List Record} :
    OpenBehind now closed (passed :: front) record ↔
      OpenBehind now (passed.queue.toList ++ closed) front record := by
  have opened : ∀ queue, (queue ∉ closed ∧ ∀ other ∈ passed :: front, other.queue ≠ some queue) ↔
      (queue ∉ passed.queue.toList ++ closed ∧ ∀ other ∈ front, other.queue ≠ some queue) := by
    intro queue
    rw [List.forall_mem_cons, List.mem_append, Option.mem_toList]
    tauto
  simp only [OpenBehind, opened]

/-- What the walk answers stands in the list and is open behind the records in front of it. -/
theorem firstOpen?_sound {now : Instant} {closed : List String} {records : List Record}
    {record : Record} (found : firstOpen? now closed records = some record) :
    ∃ front back, records = front ++ record :: back ∧ OpenBehind now closed front record := by
  induction records generalizing closed with
  | nil => simp [firstOpen?] at found
  | cons head rest ih =>
    unfold firstOpen? at found
    split at found
    · rename_i taken
      obtain rfl := Option.some.inj found
      exact ⟨[], rest, rfl, openBehind_nil.1 taken⟩
    · obtain ⟨front, back, rfl, isOpen⟩ := ih found
      exact ⟨head :: front, back, rfl, openBehind_cons.2 isOpen⟩

/-- The walk answers at the latest with a record that is open at its place. -/
theorem firstOpen?_complete {now : Instant} {closed : List String} {front : List Record}
    {record : Record} (isOpen : OpenBehind now closed front record) (back : List Record) :
    ∃ found, firstOpen? now closed (front ++ record :: back) = some found ∧
      (found ∈ front ∨ found = record) := by
  induction front generalizing closed with
  | nil =>
    refine ⟨record, ?_, .inr rfl⟩
    rw [List.nil_append, firstOpen?, if_pos (openBehind_nil.2 isOpen)]
  | cons head front ih =>
    rw [List.cons_append, firstOpen?]
    split
    · exact ⟨head, rfl, .inl List.mem_cons_self⟩
    · obtain ⟨found, answered, place⟩ := ih (openBehind_cons.1 isOpen)
      exact ⟨found, answered, place.imp_left (List.mem_cons_of_mem head)⟩

/-- A ready job is unfinished. -/
theorem not_isTerminal_of_isReady {now : Instant} {record : Record}
    (ready : record.isReady now = true) : record.status.isTerminal = false := by
  unfold Record.isReady at ready
  cases status : record.status <;> simp_all [Status.isRunnable, Status.isTerminal]

/-- A record that stands open at its place among the unfinished ones is claimable. -/
theorem Claimable.of_openBehind {now : Instant} {jobs : Jobs} {front back : List Record}
    {record : Record} (place : jobs.unfinished = front ++ record :: back)
    (isOpen : OpenBehind now jobs.busyQueues front record) : Claimable now jobs record := by
  have listed : record ∈ jobs.unfinished := by
    rw [place]
    exact List.mem_append_right front List.mem_cons_self
  refine ⟨(mem_unfinished.1 listed).1, isOpen.1, ?_, ?_⟩
  · rintro other kept running ⟨queue, hr, ho⟩
    exact (isOpen.2 queue hr).1 (mem_busyQueues.2 ⟨other, kept, running, ho⟩)
  · rintro other kept unended ⟨queue, hr, ho⟩
    have later : other ∈ jobs.unfinished := mem_unfinished.2 ⟨kept, unended⟩
    rw [place, List.mem_append, List.mem_cons] at later
    rcases later with inFront | rfl | behind
    · exact absurd ho ((isOpen.2 queue hr).2 other inFront)
    · rw [Record.precedes_iff]
      exact .inr ⟨rfl, Nat.le_refl _⟩
    · have sorted := jobs.pairwise_unfinished
      rw [place, List.pairwise_append, List.pairwise_cons] at sorted
      exact sorted.2.1.1 other behind

/-- A claimable record is open at its place among the unfinished ones. -/
theorem Claimable.openBehind {now : Instant} {jobs : Jobs} {front back : List Record}
    {record : Record} (claimable : Claimable now jobs record)
    (place : jobs.unfinished = front ++ record :: back) :
    OpenBehind now jobs.busyQueues front record := by
  refine ⟨claimable.ready, fun queue hr => ⟨?_, ?_⟩⟩
  · intro busy
    obtain ⟨other, kept, running, ho⟩ := mem_busyQueues.1 busy
    exact claimable.idle other kept running ⟨queue, hr, ho⟩
  · intro passed inFront ho
    have listed : passed ∈ jobs.unfinished := by
      rw [place]
      exact List.mem_append_left _ inFront
    obtain ⟨kept, unended⟩ := mem_unfinished.1 listed
    have back := claimable.first passed kept unended ⟨queue, hr, ho⟩
    have sorted := jobs.pairwise_unfinished
    have distinct := jobs.unfinished_distinct
    rw [place, List.pairwise_append] at sorted distinct
    have forth := sorted.2.2 passed inFront record List.mem_cons_self
    exact distinct.2.2 passed inFront record List.mem_cons_self
      (Record.id_eq_of_precedes forth back)

/-- If something is claimable, some job is to run next, and it precedes the claimable one. -/
theorem Claimable.candidate? {now : Instant} {jobs : Jobs} {record : Record}
    (claimable : Claimable now jobs record) :
    ∃ found, jobs.candidate? now = some found ∧ found.precedes record = true := by
  have listed : record ∈ jobs.unfinished :=
    mem_unfinished.2 ⟨claimable.kept, not_isTerminal_of_isReady claimable.ready⟩
  obtain ⟨front, back, place⟩ := List.append_of_mem listed
  obtain ⟨found, answered, position⟩ :=
    firstOpen?_complete (claimable.openBehind place) back
  refine ⟨found, ?_, ?_⟩
  · rw [Jobs.candidate?, ← unfinished, place, answered]
  · rcases position with inFront | rfl
    · have sorted := jobs.pairwise_unfinished
      rw [place, List.pairwise_append] at sorted
      exact sorted.2.2 found inFront record List.mem_cons_self
    · rw [Record.precedes_iff]
      exact .inr ⟨rfl, Nat.le_refl _⟩

/-- The job to run next is claimable. -/
theorem Claimable.of_candidate? {now : Instant} {jobs : Jobs} {record : Record}
    (found : jobs.candidate? now = some record) : Claimable now jobs record := by
  obtain ⟨front, back, place, isOpen⟩ := firstOpen?_sound found
  exact .of_openBehind place isOpen

/-- The job to run next is the claimable one that was created first. -/
theorem candidate?_eq_some_iff {now : Instant} {jobs : Jobs} {record : Record} :
    jobs.candidate? now = some record ↔
      Claimable now jobs record ∧
        ∀ other, Claimable now jobs other → record.precedes other = true := by
  constructor
  · intro found
    refine ⟨.of_candidate? found, fun other claimable => ?_⟩
    obtain ⟨earliest, answered, precedes⟩ := claimable.candidate?
    rw [found] at answered
    exact Option.some.inj answered ▸ precedes
  · rintro ⟨claimable, least⟩
    obtain ⟨found, answered, forth⟩ := claimable.candidate?
    have other := Claimable.of_candidate? answered
    have same : found = record :=
      Table.eq_of_key_eq other.kept claimable.kept
        (Record.id_eq_of_precedes forth (least found other))
    rw [answered, same]

/-- No job is to run next exactly if nothing is claimable. -/
theorem candidate?_eq_none_iff {now : Instant} {jobs : Jobs} :
    jobs.candidate? now = none ↔ ∀ record, ¬ Claimable now jobs record := by
  constructor
  · intro nothing record claimable
    obtain ⟨found, answered, -⟩ := claimable.candidate?
    rw [nothing] at answered
    contradiction
  · intro nothing
    cases found : jobs.candidate? now with
    | none => rfl
    | some record => exact absurd (Claimable.of_candidate? found) (nothing record)

end Jobs

end Mailroom.Job
