import Mailroom.Proofs.Job.Choice
import Mailroom.Proofs.Job.Submission

/-!
# Jobs that are taken on together

A store that is not poisoned takes on the records of a list together exactly if it would take them
on one after another, and comes to the same store. It looks for a taken identifier before it files
anything, among the jobs that it has and among those earlier in the list, and
`Jobs.firstTaken?_insert` says that filing a record and having seen it are the same for this search.
So what `Store.enqueueAll` refuses is what the first refusal of `Store.enqueueEach` names.

A poisoned store refuses records together even where there are none to refuse one after another:
`not_bulk_of_nothing`.
-/

namespace Mailroom.Job

namespace Jobs

/-- Whether an identifier of a list is taken depends only on which identifiers are known. -/
theorem firstTaken?_congr {jobs other : Jobs} {seen passed : List JobId}
    (known : ∀ id, (jobs.contains id || seen.contains id) =
      (other.contains id || passed.contains id)) (records : List Record) :
    firstTaken? jobs seen records = firstTaken? other passed records := by
  induction records generalizing seen passed with
  | nil => rfl
  | cons record rest ih =>
    have later : ∀ id, (jobs.contains id || (record.id :: seen).contains id) =
        (other.contains id || (record.id :: passed).contains id) := by
      intro id
      rw [List.contains_cons, List.contains_cons, Bool.or_left_comm, known id, Bool.or_left_comm]
    rw [firstTaken?, firstTaken?, known record.id, ih later]

/-- For what comes behind it, a record has been filed or has been seen. -/
theorem firstTaken?_insert (jobs : Jobs) (record : Record) (rest : List Record) :
    firstTaken? (jobs.insert record) [] rest = firstTaken? jobs [record.id] rest := by
  refine firstTaken?_congr (fun id => ?_) rest
  rw [Table.contains_insert, Bool.or_comm (decide _), Bool.or_assoc]
  simp [eq_comm]

end Jobs

namespace Store

/-- What records are answered that are filed one after another, and the store after them. -/
def enqueueEach : List Record → Store → List (Except StoreError JobId) × Store
  | [], store => ([], store)
  | record :: rest, store =>
    let (answer, after) := store.enqueue record
    let (answers, last) := enqueueEach rest after
    (answer :: answers, last)

/-- Records of which no identifier is taken are filed one after another. -/
theorem enqueueEach_of_free {records : List Record} {store : Store}
    (sound : store.poisoned = false) (free : Jobs.firstTaken? store.value [] records = none) :
    enqueueEach records store =
      (records.map fun record => .ok record.id, ⟨store.value.insertAll records, false⟩) := by
  -- For the records behind it, the first is in the store by then, which is all that they notice.
  induction records generalizing store with
  | nil =>
    show ([], store) = ([], (⟨store.value, false⟩ : Store))
    rw [← sound]
  | cons record rest ih =>
    have first := (Jobs.firstTaken?_eq_none_iff.1 free).1 record List.mem_cons_self
    have others : Jobs.firstTaken? (store.value.insert record) [] rest = none := by
      rw [Jobs.firstTaken?_insert]
      rw [Jobs.firstTaken?, first.1] at free
      exact free
    have filed := @ih ⟨store.value.insert record, false⟩ rfl others
    rw [enqueueEach, enqueue_of_free sound first.1]
    simp only [filed]
    rfl

/-- Of records that are filed one after another, the first that is refused is the first whose
identifier is taken. -/
theorem enqueueEach_of_taken {records : List Record} {store : Store} {id : JobId}
    (sound : store.poisoned = false)
    (taken : Jobs.firstTaken? store.value [] records = some id) :
    (enqueueEach records store).1.findSome? failure? = some (.alreadyExists id) := by
  induction records generalizing store with
  | nil => cases taken
  | cons record rest ih =>
    cases present : store.value.contains record.id with
    | true =>
      rw [Jobs.firstTaken?, present] at taken
      cases taken
      rw [enqueueEach, enqueue_of_taken sound present]
      rfl
    | false =>
      rw [Jobs.firstTaken?, present] at taken
      have others : Jobs.firstTaken? (store.value.insert record) [] rest = some id := by
        rw [Jobs.firstTaken?_insert]
        exact taken
      rw [enqueueEach, enqueue_of_free sound present]
      exact @ih ⟨store.value.insert record, false⟩ rfl others

/-- Whether taking on the records of a list together is taking them on one after another, except
that nothing is taken on if something is refused. -/
structure Bulk (records : List Record) (store : Store) : Prop where
  /-- The records are taken on together exactly if each is taken on. -/
  accepted_iff : (∃ ids, (store.enqueueAll records).1 = .ok ids) ↔
    ∀ answer ∈ (enqueueEach records store).1, ∃ id, answer = .ok id
  /-- Then the identifiers are the same, in order, and so is the store. -/
  accepted : ∀ ids, (store.enqueueAll records).1 = .ok ids →
    ids = records.map Record.id ∧
      enqueueEach records store = (ids.map .ok, (store.enqueueAll records).2)
  /-- Otherwise it is said which identifier is taken, as it would be said of the first record that
  is refused, and the store is as it was. -/
  refused : ∀ reason, (store.enqueueAll records).1 = .error reason →
    (∃ id, reason = .alreadyExists id) ∧
      (enqueueEach records store).1.findSome? failure? = some reason ∧
      (store.enqueueAll records).2 = store

/-- A store that is not poisoned takes on together what it takes on one after another. -/
theorem bulk_of_sound {store : Store} (sound : store.poisoned = false) (records : List Record) :
    Bulk records store := by
  cases taken : Jobs.firstTaken? store.value [] records with
  | none =>
    have together := enqueueAll_of_free sound taken
    have oneByOne := enqueueEach_of_free sound taken
    refine ⟨?_, ?_, ?_⟩
    · rw [together, oneByOne]
      refine ⟨fun _ answer given => ?_, fun _ => ⟨_, rfl⟩⟩
      obtain ⟨record, -, rfl⟩ := List.mem_map.1 given
      exact ⟨record.id, rfl⟩
    · intro ids answered
      rw [together] at answered ⊢
      cases answered
      rw [oneByOne, List.map_map]
      exact ⟨rfl, rfl⟩
    · intro reason answered
      rw [together] at answered
      cases answered
  | some id =>
    have together := enqueueAll_of_taken sound taken
    have first := enqueueEach_of_taken sound taken
    refine ⟨?_, ?_, ?_⟩
    · rw [together]
      constructor
      · rintro ⟨ids, answered⟩
        cases answered
      · intro all
        obtain ⟨answer, given, refused⟩ := List.exists_of_findSome?_eq_some first
        obtain ⟨other, rfl⟩ := all answer given
        cases refused
    · intro ids answered
      rw [together] at answered
      cases answered
    · intro reason answered
      rw [together] at answered ⊢
      cases answered
      exact ⟨⟨id, rfl⟩, first, rfl⟩

end Store

section

variable {Work : Type}

/-- Jobs of which one cannot be saved have no records. What is said is why the first such job cannot
be saved. -/
theorem Craft.toRecords_of_unsaved {σ : Type} {craft : Craft Work σ} {front back : List Work}
    {work : Work} {reason : JobError} (saves : ∀ other ∈ front, craft.Saves other)
    (unsaved : craft.save work = .error reason) (stamps : Nat → Stamp) :
    toRecords craft stamps (front ++ work :: back) = .error reason := by
  have before := Craft.toRecords_of_saves saves stamps
  have here : toRecord craft (stamps front.length) work = .error reason := by
    unfold toRecord
    rw [unsaved]
    rfl
  unfold toRecords at before ⊢
  rw [List.zipIdx_append, List.mapM_append, before, List.zipIdx_cons, List.mapM_cons, Nat.zero_add]
  dsimp only
  rw [here]
  rfl

/-- What comes of jobs and records that are taken on together. -/
structure AllOrNone (craft : Craft Work Store) (store : Store) : Prop where
  /-- A store that is not poisoned takes on records together as it does one after another, except
  that nothing is taken on if something is refused. -/
  bulk : store.poisoned = false → ∀ records, store.Bulk records
  /-- Jobs that can all be saved, under identifiers that are not in use, get one new record each, in
  the order of the list, and their identifiers are answered in this order. -/
  filed : store.poisoned = false → ∀ stamps works, (∀ work ∈ works, craft.Saves work) →
    Unused stamps works.length store.value →
      ∃ jobs : Jobs, jobs.records = store.value.records ++ craft.entries stamps works ∧
        addAll craft stamps works store =
          (.ok ((craft.entries stamps works).map Record.id), ⟨jobs, false⟩)
  /-- Whatever their identifiers are, jobs that can all be saved are taken on or refused as their
  records are. -/
  saved : ∀ stamps works, works ≠ [] → (∀ work ∈ works, craft.Saves work) →
    addAll craft stamps works store =
      ((store.enqueueAll (craft.entries stamps works)).1.mapError JobError.store,
        (store.enqueueAll (craft.entries stamps works)).2)
  /-- If a job cannot be saved, it is said why the first such job cannot be saved, and nothing is
  taken on. -/
  unsaved : ∀ stamps front work back reason, (∀ other ∈ front, craft.Saves other) →
    craft.save work = .error reason →
      addAll craft stamps (front ++ work :: back) store = (.error reason, store)
  /-- A poisoned store refuses records however many they are, and jobs of which there are any. -/
  poisoned : store.poisoned = true →
    (∀ records, store.enqueueAll records = (.error .poisoned, store)) ∧
      ∀ stamps works, works ≠ [] → (∀ work ∈ works, craft.Saves work) →
        addAll craft stamps works store = (.error (.store .poisoned), store)

/-- Jobs and records that are taken on together are taken on all or not at all. -/
theorem all_or_none (craft : Craft Work Store) (store : Store) : AllOrNone craft store where
  bulk sound records := Store.bulk_of_sound sound records
  filed sound stamps works saves new := by
    refine ⟨_, ?_, addAll_entries sound saves new⟩
    exact Table.records_insertAll (craft.entries_unused new) (craft.entries_distinct new)
  saved stamps works some saves := addAll_of_saves saves some stamps store
  unsaved stamps front work back reason saves unsaved := by
    have listed : ¬ (front ++ work :: back).isEmpty = true := by simp
    unfold addAll
    rw [if_neg listed, Craft.toRecords_of_unsaved saves unsaved]
  poisoned broken := by
    have refused : ∀ records, store.enqueueAll records = (.error .poisoned, store) := by
      intro records
      exact Guarded.write_poisoned _ _ broken
    refine ⟨refused, fun stamps works some saves => ?_⟩
    rw [addAll_of_saves saves some, refused]
    rfl

end

/-- The store that broke when the job that was run too often was to run once more. -/
def Store.wornOut : Store :=
  (Store.claimNext default default ⟨Table.empty.insert Jobs.worn, false⟩).2

/-- A broken store refuses to take on no records together. One after another, none is refused. -/
theorem not_bulk_of_nothing :
    (Store.enqueueEach [] Store.wornOut).1 = [] ∧
      (Store.wornOut.enqueueAll []).1 = .error .poisoned ∧ ¬ Store.wornOut.Bulk [] := by
  have refused : (Store.wornOut.enqueueAll []).1 = .error .poisoned := by
    decide +kernel
  refine ⟨rfl, refused, fun bulk => ?_⟩
  obtain ⟨ids, accepted⟩ := bulk.accepted_iff.2 fun answer given => by cases given
  rw [refused] at accepted
  cases accepted

end Mailroom.Job
