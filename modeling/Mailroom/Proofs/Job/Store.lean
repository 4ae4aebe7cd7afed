import Mailroom.Proofs.Job.Candidate
import Mailroom.Proofs.Job.Transition

/-!
# What the store of jobs can do

One law for each operation says all that it can do: it refuses and leaves the store as it was, or
it files records. A claim alone can also crash, which poisons the store. Later modules take cases
by these laws and do not look into the operations.
-/

namespace Mailroom.Job

namespace Jobs

/-- No identifier of a list is taken exactly if each is new to the store, not among those seen, and
no two are the same. -/
theorem firstTaken?_eq_none_iff {jobs : Jobs} {seen : List JobId} {records : List Record} :
    firstTaken? jobs seen records = none ↔
      (∀ record ∈ records, jobs.contains record.id = false ∧ record.id ∉ seen) ∧
        (records.map Record.id).Nodup := by
  induction records generalizing seen with
  | nil => simp [firstTaken?]
  | cons record rest ih =>
    rw [firstTaken?, List.forall_mem_cons, List.map_cons, List.nodup_cons]
    by_cases taken : (jobs.contains record.id || seen.contains record.id) = true
    · rw [if_pos taken]
      rw [Bool.or_eq_true, List.contains_iff_mem] at taken
      constructor
      · intro absurdity
        cases absurdity
      · rintro ⟨⟨⟨absent, unseen⟩, -⟩, -⟩
        rcases taken with present | seenBefore
        · rw [absent] at present
          cases present
        · exact absurd seenBefore unseen
    · rw [if_neg taken, ih]
      rw [Bool.or_eq_true, List.contains_iff_mem, not_or, Bool.not_eq_true] at taken
      have apart : (∀ other ∈ rest, jobs.contains other.id = false ∧ other.id ∉ record.id :: seen) ↔
          (∀ other ∈ rest, jobs.contains other.id = false ∧ other.id ∉ seen) ∧
            record.id ∉ rest.map Record.id := by
        simp only [List.mem_cons, List.mem_map, not_or, not_exists, not_and]
        constructor
        · intro all
          exact ⟨fun other held => ⟨(all other held).1, (all other held).2.2⟩,
            fun other held => (all other held).2.1⟩
        · rintro ⟨all, different⟩ other held
          exact ⟨(all other held).1, different other held, (all other held).2⟩
      rw [apart]
      tauto

/-- A record that takes the place of one of its job changes only what is found of that job. -/
theorem get?_insert_sameJob {jobs : Jobs} {old new : Record} (held : old ∈ jobs.records)
    (same : new.SameJob old) {id : JobId} {record : Record} (found : jobs.get? id = some record) :
    ∃ later, (jobs.insert new).get? id = some later ∧ later.SameJob record ∧
      (later = record ∨ record = old ∧ later = new) := by
  rw [Table.get?_insert]
  by_cases here : new.id = id
  · have alike : record = old :=
      Table.eq_of_key_eq (Table.mem_of_get? found) held
        ((Table.key_of_get? found).trans (here.symm.trans same.id))
    rw [if_pos here]
    exact ⟨new, rfl, alike ▸ same, .inr ⟨alike, rfl⟩⟩
  · rw [if_neg here]
    exact ⟨record, found, .refl record, .inl rfl⟩

end Jobs

namespace Store

/-- A job whose identifier is new is taken on. -/
theorem enqueue_of_free {record : Record} {store : Store} (sound : store.poisoned = false)
    (free : store.value.contains record.id = false) :
    store.enqueue record = (.ok record.id, ⟨store.value.insert record, false⟩) := by
  simp [enqueue, Guarded.write, Jobs.enqueue, sound, free]

/-- A job whose identifier is taken is refused. -/
theorem enqueue_of_taken {record : Record} {store : Store} (sound : store.poisoned = false)
    (taken : store.value.contains record.id = true) :
    store.enqueue record = (.error (.alreadyExists record.id), store) := by
  obtain ⟨jobs, poisoned⟩ := store
  cases sound
  simp [enqueue, Guarded.write, Jobs.enqueue, taken]

/-- Taking on a job is refused, or files its record under a new identifier. -/
theorem enqueue_cases (record : Record) (store : Store) :
    (∃ reason, store.enqueue record = (.error reason, store)) ∨
      store.poisoned = false ∧ store.value.contains record.id = false ∧
        store.enqueue record = (.ok record.id, ⟨store.value.insert record, false⟩) := by
  cases sound : store.poisoned with
  | true => exact .inl ⟨.poisoned, Guarded.write_poisoned _ _ sound⟩
  | false =>
    cases taken : store.value.contains record.id with
    | true => exact .inl ⟨.alreadyExists record.id, enqueue_of_taken sound taken⟩
    | false => exact .inr ⟨rfl, rfl, enqueue_of_free sound taken⟩

/-- Several jobs whose identifiers are new and different are taken on. -/
theorem enqueueAll_of_free {records : List Record} {store : Store}
    (sound : store.poisoned = false)
    (free : Jobs.firstTaken? store.value [] records = none) :
    store.enqueueAll records =
      (.ok (records.map Record.id), ⟨store.value.insertAll records, false⟩) := by
  simp [enqueueAll, Guarded.write, Jobs.enqueueAll, sound, free]

/-- Several jobs of which one is taken are refused. -/
theorem enqueueAll_of_taken {records : List Record} {store : Store} {id : JobId}
    (sound : store.poisoned = false)
    (taken : Jobs.firstTaken? store.value [] records = some id) :
    store.enqueueAll records = (.error (.alreadyExists id), store) := by
  obtain ⟨jobs, poisoned⟩ := store
  cases sound
  simp [enqueueAll, Guarded.write, Jobs.enqueueAll, taken]

/-- Taking on several jobs is refused, or files all their records under new identifiers. -/
theorem enqueueAll_cases (records : List Record) (store : Store) :
    (∃ reason, store.enqueueAll records = (.error reason, store)) ∨
      store.poisoned = false ∧ Jobs.firstTaken? store.value [] records = none ∧
        store.enqueueAll records =
          (.ok (records.map Record.id), ⟨store.value.insertAll records, false⟩) := by
  cases sound : store.poisoned with
  | true => exact .inl ⟨.poisoned, Guarded.write_poisoned _ _ sound⟩
  | false =>
    cases taken : Jobs.firstTaken? store.value [] records with
    | some id => exact .inl ⟨.alreadyExists id, enqueueAll_of_taken sound taken⟩
    | none => exact .inr ⟨rfl, rfl, enqueueAll_of_free sound taken⟩

/-- Replacing a record is refused, or files it in the place of the one of its job. -/
theorem update_cases (record : Record) (store : Store) :
    (∃ reason, store.update record = (.error reason, store) ∧
        (store.poisoned = true ∨ store.value.contains record.id = false)) ∨
      store.poisoned = false ∧ store.value.contains record.id = true ∧
        store.update record = (.ok (), ⟨store.value.insert record, false⟩) := by
  obtain ⟨jobs, poisoned⟩ := store
  cases poisoned with
  | true => exact .inl ⟨.poisoned, Guarded.write_poisoned _ _ rfl, .inl rfl⟩
  | false =>
    cases present : jobs.contains record.id with
    | true =>
      refine .inr ⟨rfl, rfl, ?_⟩
      simp [update, Guarded.write, Jobs.update, present]
    | false =>
      refine .inl ⟨.notFound record.id, ?_, .inr rfl⟩
      simp [update, Guarded.write, Jobs.update, present]

/-- A record that a store accepts is all that changes in it. -/
theorem get?_of_update {store after : Store} {record : Record}
    (updated : store.update record = (.ok (), after)) (id : JobId) :
    after.value.get? id = if id = record.id then some record else store.value.get? id := by
  rcases store.update_cases record with ⟨reason, kept, -⟩ | ⟨-, -, filed⟩
  · cases updated.symm.trans kept
  · cases updated.symm.trans filed
    rw [Table.get?_insert]
    simp only [eq_comm]

section

variable {now : Instant} {jobs : Jobs} {record : Record}

/-- Where nothing is to run next, nothing is handed out. -/
theorem claimNext_of_none (next : jobs.candidate? now = none) (stamp : Instant) :
    claimNext now stamp ⟨jobs, false⟩ = (.ok none, ⟨jobs, false⟩) := by
  simp [claimNext, Guarded.writeRisky, Jobs.claimNext, next]

/-- The job to run next is handed out if it has room for one more run. -/
theorem claimNext_of_room (next : jobs.candidate? now = some record)
    (room : record.attempt.toNat + 1 < UInt32.size) (stamp : Instant) :
    claimNext now stamp ⟨jobs, false⟩ =
      (.ok (some { record with
        status := .running, attempt := record.attempt + 1, updated := stamp }),
       ⟨jobs.insert { record with
        status := .running, attempt := record.attempt + 1, updated := stamp }, false⟩) := by
  simp [claimNext, Guarded.writeRisky, Jobs.claimNext, next, Record.start, room]

/-- The job to run next breaks the store if it has no room for one more run. -/
theorem claimNext_of_full (next : jobs.candidate? now = some record)
    (full : ¬ record.attempt.toNat + 1 < UInt32.size) (stamp : Instant) :
    claimNext now stamp ⟨jobs, false⟩ =
      (.error (.crash .counterOverflow),
       ⟨jobs.insert { record with status := .running }, true⟩) := by
  simp [claimNext, Guarded.writeRisky, Jobs.claimNext, next, Record.start, full]

end

/-- What a claim can lead to. -/
inductive Claiming (now stamp : Instant) (store : Store) :
    Except (Fault StoreError) (Option Record) × Store → Prop where
  /-- A poisoned store refuses. -/
  | refused (poisoned : store.poisoned = true) :
    Claiming now stamp store (.error (.error .poisoned), store)
  /-- Nothing is to run next. -/
  | nothing (sound : store.poisoned = false) (idle : store.value.candidate? now = none) :
    Claiming now stamp store (.ok none, store)
  /-- The job to run next is claimed. -/
  | claimed (sound : store.poisoned = false) (record : Record)
    (next : store.value.candidate? now = some record)
    (room : record.attempt.toNat + 1 < UInt32.size) (claim : Record)
    (started : claim =
      { record with status := .running, attempt := record.attempt + 1, updated := stamp }) :
    Claiming now stamp store (.ok (some claim), ⟨store.value.insert claim, false⟩)
  /-- The job to run next has no room for one more run. -/
  | crashed (sound : store.poisoned = false) (record : Record)
    (next : store.value.candidate? now = some record)
    (full : ¬ record.attempt.toNat + 1 < UInt32.size) :
    Claiming now stamp store
      (.error (.crash .counterOverflow),
        ⟨store.value.insert { record with status := .running }, true⟩)

/-- A claim leads to nothing else. -/
theorem claimNext_claiming (now stamp : Instant) (store : Store) :
    Claiming now stamp store (store.claimNext now stamp) := by
  obtain ⟨jobs, poisoned⟩ := store
  cases poisoned with
  | true =>
    rw [claimNext, Guarded.writeRisky_poisoned _ _ rfl]
    exact .refused rfl
  | false =>
    cases next : jobs.candidate? now with
    | none =>
      rw [claimNext_of_none next]
      exact .nothing rfl next
    | some record =>
      by_cases room : record.attempt.toNat + 1 < UInt32.size
      · rw [claimNext_of_room next room]
        exact .claimed rfl record next room _ rfl
      · rw [claimNext_of_full next room]
        exact .crashed rfl record next room

/-- A claim that is handed out is the job to run next, made to run and counted. -/
theorem candidate?_of_claimNext {now stamp : Instant} {store : Store} {claim : Record}
    (answered : (store.claimNext now stamp).1 = .ok (some claim)) :
    ∃ record, store.value.candidate? now = some record ∧
      claim = { record with
        status := .running, attempt := record.attempt + 1, updated := stamp } := by
  have led := store.claimNext_claiming now stamp
  generalize store.claimNext now stamp = turn at led answered
  cases led with
  | refused poisoned => cases answered
  | nothing sound idle => cases answered
  | claimed sound record next room claim started =>
    cases answered
    exact ⟨record, next, started⟩
  | crashed sound record next full => cases answered

end Store

end Mailroom.Job
