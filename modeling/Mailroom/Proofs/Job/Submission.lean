import Mathlib.Data.List.Induction
import Mailroom.Job.Scheduler
import Mailroom.Proofs.Job.Store

/-!
# Submitting jobs

A job that the scheduler takes on is saved in a new record, under a stamp of its own. Whatever is
submitted, a store either stays as it was or keeps new records behind those it had: `Store.TakesOn`.
When every job can be saved and the stamps are fresh, a store that is not poisoned refuses nothing:
jobs that are submitted together leave the same records as jobs submitted one after another under
the same stamps, by `addAll_entries` and `addEach_entries`, and in order of creation they are the
records of the jobs as these were submitted: `Jobs.since_insertAll`.
-/

namespace Mailroom.Job

/-- Whether a record is that of a job that nobody has claimed yet. -/
structure Record.IsNew (record : Record) : Prop where
  pending : record.status = .pending
  uncounted : record.attempt = 0
  unrun : record.history = []

/-- What a store can become when jobs are submitted to it. -/
inductive Store.TakesOn (store : Store) : Store → Prop where
  /-- The jobs are refused. -/
  | refused : TakesOn store store
  /-- New records come last. -/
  | filed (sound : store.poisoned = false) (records : List Record) (jobs : Jobs)
    (fresh : ∀ record ∈ records, record.IsNew)
    (last : jobs.records = store.value.records ++ records) : TakesOn store ⟨jobs, false⟩

section

variable {Work σ : Type} {craft : Craft Work σ}

/-- The record of a job that is taken on is new. -/
theorem isNew_of_toRecord {stamp : Stamp} {work : Work} {record : Record}
    (made : toRecord craft stamp work = .ok record) : record.IsNew := by
  unfold toRecord at made
  cases saved : craft.save work with
  | error reason =>
    rw [saved] at made
    cases made
  | ok payload =>
    rw [saved] at made
    cases made
    exact ⟨rfl, rfl, rfl⟩

/-- The records of jobs that are taken on together are new. -/
theorem isNew_of_toRecords {stamps : Nat → Stamp} {works : List Work} {records : List Record}
    (made : toRecords craft stamps works = .ok records) : ∀ record ∈ records, record.IsNew := by
  unfold toRecords at made
  generalize works.zipIdx = placed at made
  induction placed generalizing records with
  | nil =>
    cases made
    intro record kept
    cases kept
  | cons first rest ih =>
    rw [List.mapM_cons] at made
    cases head : toRecord craft (stamps first.2) first.1 with
    | error reason =>
      simp only [head] at made
      cases made
    | ok record =>
      simp only [head] at made
      cases tail : rest.mapM fun x => toRecord craft (stamps x.2) x.1 with
      | error reason =>
        simp only [tail] at made
        cases made
      | ok others =>
        simp only [tail] at made
        cases made
        intro other kept
        rcases List.mem_cons.1 kept with rfl | behind
        · exact isNew_of_toRecord head
        · exact ih tail other behind

/-- Filing records that are new takes them on. -/
theorem Store.enqueue_takesOn {record : Record} (fresh : record.IsNew) (store : Store) :
    store.TakesOn (store.enqueue record).2 := by
  rcases store.enqueue_cases record with ⟨reason, refused⟩ | ⟨sound, absent, filed⟩
  · rw [refused]
    exact .refused
  · rw [filed]
    refine .filed sound [record] _ ?_ (Table.records_insert_of_absent absent)
    simpa using fresh

theorem Store.enqueueAll_takesOn {records : List Record}
    (fresh : ∀ record ∈ records, record.IsNew) (store : Store) :
    store.TakesOn (store.enqueueAll records).2 := by
  rcases store.enqueueAll_cases records with ⟨reason, refused⟩ | ⟨sound, free, filed⟩
  · rw [refused]
    exact .refused
  · rw [filed]
    obtain ⟨absent, distinct⟩ := Jobs.firstTaken?_eq_none_iff.1 free
    exact .filed sound records _ fresh
      (Table.records_insertAll (fun record held => (absent record held).1) distinct)

end

section

variable {Work : Type} (craft : Craft Work Store)

/-- Submitting a job changes nothing or files its record. -/
theorem add_takesOn (stamp : Stamp) (work : Work) (store : Store) :
    store.TakesOn (add craft stamp work store).2 := by
  unfold add
  cases made : toRecord craft stamp work with
  | error reason => exact .refused
  | ok record => exact Store.enqueue_takesOn (isNew_of_toRecord made) store

/-- Submitting several jobs changes nothing or files all their records. -/
theorem addAll_takesOn (stamps : Nat → Stamp) (works : List Work) (store : Store) :
    store.TakesOn (addAll craft stamps works store).2 := by
  unfold addAll
  split
  · exact .refused
  · cases made : toRecords craft stamps works with
    | error reason => exact .refused
    | ok records => exact Store.enqueueAll_takesOn (isNew_of_toRecords made) store

end

/-- What a store can become when jobs are submitted to it, by anybody and in any number. -/
inductive Store.Submitted (store : Store) : Store → Prop where
  | unchanged : Submitted store store
  | add {later : Store} (submitted : Submitted store later) {Work : Type} (craft : Craft Work Store)
    (stamp : Stamp) (work : Work) : Submitted store (Job.add craft stamp work later).2
  | addAll {later : Store} (submitted : Submitted store later) {Work : Type}
    (craft : Craft Work Store) (stamps : Nat → Stamp) (works : List Work) :
    Submitted store (Job.addAll craft stamps works later).2

/-- Whether jobs use the store that they are kept in only to submit further jobs. -/
structure Craft.OnlySubmits {Work World : Type} (craft : Craft Work (Store × World)) : Prop where
  run : ∀ work (state : Store × World), state.1.Submitted (craft.run work state).2.2.1
  giveUp : ∀ work (state : Store × World), state.1.Submitted (craft.giveUp work state).1

/-- What is submitted after something else was submitted is submitted with it. -/
theorem Store.Submitted.trans {first second third : Store} (left : first.Submitted second)
    (right : second.Submitted third) : first.Submitted third := by
  induction right with
  | unchanged => exact left
  | add _ craft stamp work ih => exact ih.add craft stamp work
  | addAll _ craft stamps works ih => exact ih.addAll craft stamps works

/-- What every way to take on jobs keeps, submitting any number of jobs keeps. -/
theorem Store.Submitted.keeps {store later : Store} {kept : Store → Prop}
    (step : ∀ before after : Store, before.TakesOn after → kept before → kept after)
    (submitted : store.Submitted later) (holds : kept store) : kept later := by
  induction submitted with
  | unchanged => exact holds
  | @add before submitted Work craft stamp work ih =>
    exact step before _ (add_takesOn craft stamp work before) ih
  | @addAll before submitted Work craft stamps works ih =>
    exact step before _ (addAll_takesOn craft stamps works before) ih

/-- A poisoned store takes nothing on. -/
theorem Store.TakesOn.eq_of_poisoned {store later : Store} (taken : store.TakesOn later)
    (poisoned : store.poisoned = true) : later = store := by
  cases taken with
  | refused => rfl
  | filed sound =>
    rw [poisoned] at sound
    cases sound

/-- Whether a stamp comes before another in the order of creation. -/
def Stamp.Before (left right : Stamp) : Prop :=
  left.created < right.created ∨ left.created = right.created ∧ left.id.number < right.id.number

/-- Whether stamps can be given to a number of new jobs of a store: their identifiers are not in use
and all different, and they come in the order of creation. -/
structure Fresh (stamps : Nat → Stamp) (count : Nat) (jobs : Jobs) : Prop where
  unused : ∀ place < count, jobs.contains (stamps place).id = false
  distinct : ∀ left right, left < right → right < count → (stamps left).id ≠ (stamps right).id
  ordered : ∀ left right, left < right → right < count → (stamps left).Before (stamps right)

/-- Whether the identifiers of a number of stamps are not in use and all different. -/
structure Unused (stamps : Nat → Stamp) (count : Nat) (jobs : Jobs) : Prop where
  unused : ∀ place < count, jobs.contains (stamps place).id = false
  distinct : ∀ left right, left < right → right < count → (stamps left).id ≠ (stamps right).id

/-- The identifiers of fresh stamps are not in use. -/
theorem Fresh.toUnused {stamps : Nat → Stamp} {count : Nat} {jobs : Jobs}
    (fresh : Fresh stamps count jobs) : Unused stamps count jobs :=
  ⟨fresh.unused, fresh.distinct⟩

/-- Stamps that are fresh for some jobs are fresh for fewer. -/
theorem Fresh.mono {stamps : Nat → Stamp} {fewer count : Nat} {jobs : Jobs}
    (fresh : Fresh stamps count jobs) (le : fewer ≤ count) : Fresh stamps fewer jobs := by
  refine ⟨fun place lt => ?_, fun left right lt inside => ?_, fun left right lt inside => ?_⟩
  · exact fresh.unused place (Nat.lt_of_lt_of_le lt le)
  · exact fresh.distinct left right lt (Nat.lt_of_lt_of_le inside le)
  · exact fresh.ordered left right lt (Nat.lt_of_lt_of_le inside le)

/-- What a record says about a job apart from its stamp and its runs. -/
def Record.content (record : Record) : String × Parameters × List UInt8 :=
  (record.factoryKey, record.parameters, record.payload)

namespace Craft

variable {Work σ : Type} (craft : Craft Work σ)

/-- Whether a job can be saved. -/
def Saves (work : Work) : Prop := ∃ payload, craft.save work = .ok payload

/-- The payload that a job is saved in, and no bytes if it cannot be saved. -/
def payload (work : Work) : List UInt8 :=
  match craft.save work with
  | .ok payload => payload
  | .error _ => []

/-- What the record of a job says about it. -/
def content (work : Work) : String × Parameters × List UInt8 :=
  (craft.key work, craft.parameters work, craft.payload work)

/-- The record of a job that can be saved, under a stamp. -/
def entry (stamp : Stamp) (work : Work) : Record :=
  .new stamp.id stamp.created (craft.key work) (craft.parameters work) (craft.payload work)

/-- The records of jobs that can be saved. The stamps are given by place in the list. -/
def entries (stamps : Nat → Stamp) (works : List Work) : List Record :=
  works.mapIdx fun place work => craft.entry (stamps place) work

/-- Every job has one record. -/
theorem length_entries (stamps : Nat → Stamp) (works : List Work) :
    (craft.entries stamps works).length = works.length :=
  List.length_mapIdx

/-- The record at a place is that of the job at this place. -/
theorem getElem_entries (stamps : Nat → Stamp) (works : List Work) {place : Nat}
    (_inside : place < (craft.entries stamps works).length) (_held : place < works.length) :
    (craft.entries stamps works)[place] = craft.entry (stamps place) works[place] :=
  List.getElem_mapIdx

/-- The records of jobs say of them what they are, whatever the stamps. -/
theorem map_content_entries (stamps : Nat → Stamp) (works : List Work) :
    (craft.entries stamps works).map Record.content = works.map craft.content := by
  apply List.ext_getElem
  · rw [List.length_map, length_entries, List.length_map]
  · intro place inside held
    rw [List.length_map] at inside held
    rw [List.getElem_map, List.getElem_map, craft.getElem_entries stamps works inside held]
    rfl

variable {stamps : Nat → Stamp} {works : List Work} {jobs : Jobs}

variable {craft} in
/-- A job that can be saved has its record. -/
theorem Saves.toRecord {work : Work} (saves : craft.Saves work) (stamp : Stamp) :
    Job.toRecord craft stamp work = .ok (craft.entry stamp work) := by
  obtain ⟨payload, saved⟩ := saves
  unfold Job.toRecord entry Craft.payload
  rw [saved]
  rfl

variable {craft} in
/-- Jobs that can all be saved have their records. -/
theorem toRecords_of_saves (saves : ∀ work ∈ works, craft.Saves work) (stamps : Nat → Stamp) :
    toRecords craft stamps works = .ok (craft.entries stamps works) := by
  unfold toRecords entries
  rw [List.mapIdx_eq_zipIdx_map]
  have placed : ∀ item ∈ works.zipIdx, craft.Saves item.1 := by
    intro item held
    exact saves item.1 (List.fst_mem_of_mem_zipIdx held)
  generalize works.zipIdx = items at placed
  induction items with
  | nil => rfl
  | cons item rest ih =>
    obtain ⟨work, place⟩ := item
    have first := (placed (work, place) List.mem_cons_self).toRecord (stamps place)
    have others := ih fun other held => placed other (List.mem_cons_of_mem _ held)
    rw [List.mapM_cons, others]
    dsimp only
    rw [first]
    rfl

/-- Under unused stamps, records have new identifiers. -/
theorem entries_unused (new : Unused stamps works.length jobs) :
    ∀ record ∈ craft.entries stamps works, jobs.contains record.id = false := by
  intro record held
  obtain ⟨place, inside, rfl⟩ := List.mem_iff_getElem.1 held
  have within : place < works.length := craft.length_entries stamps works ▸ inside
  rw [craft.getElem_entries stamps works inside within]
  exact new.unused place within

/-- What holds of the records of any two jobs, in the order of the list, holds along the records. -/
theorem pairwise_entries {related : Record → Record → Prop}
    (along : ∀ left right (before : left < right) (inside : right < works.length),
      related (craft.entry (stamps left) works[left]) (craft.entry (stamps right) works[right])) :
    (craft.entries stamps works).Pairwise related := by
  rw [List.pairwise_iff_getElem]
  intro left right leftInside rightInside lt
  have rightWithin : right < works.length := craft.length_entries stamps works ▸ rightInside
  have leftWithin : left < works.length := Nat.lt_trans lt rightWithin
  rw [craft.getElem_entries stamps works leftInside leftWithin,
    craft.getElem_entries stamps works rightInside rightWithin]
  exact along left right lt rightWithin

/-- Under unused stamps, no two records have the same identifier. -/
theorem entries_distinct (new : Unused stamps works.length jobs) :
    ((craft.entries stamps works).map Record.id).Nodup :=
  List.pairwise_map.2 (craft.pairwise_entries new.distinct)

/-- Under fresh stamps, records have different identifiers and come in the order of creation. -/
theorem entries_pairwise (fresh : Fresh stamps works.length jobs) :
    (craft.entries stamps works).Pairwise fun left right =>
      left.id ≠ right.id ∧ left.Before right :=
  craft.pairwise_entries fun left right before inside =>
    ⟨fresh.distinct left right before inside, fresh.ordered left right before inside⟩

end Craft

namespace Jobs

/-- The records of jobs that were submitted since, in the order of creation. -/
def since (before jobs : Jobs) : List Record :=
  jobs.inOrder.filter fun record => !before.contains record.id

/-- No job was submitted since now. -/
theorem since_self (jobs : Jobs) : since jobs jobs = [] := by
  unfold since
  rw [List.filter_eq_nil_iff]
  intro record held
  have filed : jobs.contains record.id = true :=
    Table.contains_iff.2 ⟨record, (List.mergeSort_perm _ _).mem_iff.1 held, rfl⟩
  rw [filed]
  decide

/-- Records that are filed under new identifiers in the order of creation are the jobs submitted
since. -/
theorem since_insertAll {before : Jobs} {records : List Record}
    (unused : ∀ record ∈ records, before.contains record.id = false)
    (ordered : records.Pairwise fun left right => left.id ≠ right.id ∧ left.Before right) :
    since before (before.insertAll records) = records := by
  have distinct : (records.map Record.id).Nodup :=
    List.pairwise_map.2 (ordered.imp And.left)
  have last := Table.records_insertAll unused distinct
  have old : before.records.filter (fun record => !before.contains record.id) = [] := by
    rw [List.filter_eq_nil_iff]
    intro record held
    have filed : before.contains record.id = true := Table.contains_iff.2 ⟨record, held, rfl⟩
    rw [filed]
    decide
  have new : records.filter (fun record => !before.contains record.id) = records := by
    rw [List.filter_eq_self]
    intro record held
    rw [unused record held]
    rfl
  have same : (since before (before.insertAll records)).Perm records := by
    have sorted := (List.mergeSort_perm (before.insertAll records).records Record.precedes).filter
      fun record => !before.contains record.id
    rw [last, List.filter_append, old, new, List.nil_append] at sorted
    unfold since inOrder
    rw [last]
    exact sorted
  have inOrder : (since before (before.insertAll records)).Pairwise fun left right =>
      left.precedes right = true :=
    (List.pairwise_mergeSort Record.precedes_trans Record.precedes_total _).filter _
  have listed : records.Pairwise fun left right => left.precedes right = true := by
    refine ordered.imp fun both => ?_
    rw [Record.precedes_iff]
    have earlier := Record.before_iff.1 both.2
    omega
  refine same.eq_of_pairwise ?_ inOrder listed
  intro left right leftHeld rightHeld forth back
  exact List.inj_on_of_nodup_map distinct (same.mem_iff.1 leftHeld) rightHeld
    (Record.id_eq_of_precedes forth back)

end Jobs

section

variable {Work : Type} {craft : Craft Work Store} {stamps : Nat → Stamp} {works : List Work}
  {store : Store}

/-- What a store becomes when jobs are submitted one after another. The stamps are given by place in
the list. -/
def addEach (craft : Craft Work Store) (stamps : Nat → Stamp) (works : List Work) (store : Store) :
    Store :=
  works.zipIdx.foldl (fun store item => (add craft (stamps item.2) item.1 store).2) store

/-- One more job is submitted to the store that the jobs before it left. -/
theorem addEach_concat (works : List Work) (work : Work) (store : Store) :
    addEach craft stamps (works ++ [work]) store =
      (add craft (stamps works.length) work (addEach craft stamps works store)).2 := by
  unfold addEach
  rw [List.zipIdx_append, List.foldl_append, Nat.zero_add]
  rfl

/-- A poisoned store refuses all jobs. -/
theorem addEach_of_poisoned (poisoned : store.poisoned = true) (works : List Work) :
    addEach craft stamps works store = store := by
  induction works using List.reverseRecOn with
  | nil => rfl
  | append_singleton works work ih =>
    rw [addEach_concat, ih]
    exact (add_takesOn craft _ work store).eq_of_poisoned poisoned

/-- Jobs that can all be saved are taken on as their records are. -/
theorem addAll_of_saves (saves : ∀ work ∈ works, craft.Saves work) (some : works ≠ [])
    (stamps : Nat → Stamp) (store : Store) :
    addAll craft stamps works store =
      ((store.enqueueAll (craft.entries stamps works)).1.mapError JobError.store,
        (store.enqueueAll (craft.entries stamps works)).2) := by
  have listed : ¬ works.isEmpty = true := mt List.isEmpty_iff.1 some
  unfold addAll
  rw [if_neg listed]
  simp only [Craft.toRecords_of_saves saves stamps]
  rfl

/-- Jobs that are submitted together under unused stamps are filed. -/
theorem addAll_entries (sound : store.poisoned = false) (saves : ∀ work ∈ works, craft.Saves work)
    (new : Unused stamps works.length store.value) :
    addAll craft stamps works store =
      (.ok ((craft.entries stamps works).map Record.id),
        ⟨store.value.insertAll (craft.entries stamps works), false⟩) := by
  by_cases none : works = []
  · subst none
    show (_, store) = (_, (⟨store.value, false⟩ : Store))
    rw [← sound]
    rfl
  · have free : Jobs.firstTaken? store.value [] (craft.entries stamps works) = Option.none := by
      rw [Jobs.firstTaken?_eq_none_iff]
      refine ⟨fun record held => ?_, craft.entries_distinct new⟩
      exact ⟨craft.entries_unused new record held, List.not_mem_nil⟩
    rw [addAll_of_saves saves none, Store.enqueueAll_of_free sound free]
    rfl

/-- Jobs that are submitted one after another under fresh stamps are filed. -/
theorem addEach_entries (sound : store.poisoned = false)
    (saves : ∀ work ∈ works, craft.Saves work) (fresh : Fresh stamps works.length store.value) :
    addEach craft stamps works store =
      ⟨store.value.insertAll (craft.entries stamps works), false⟩ := by
  induction works using List.reverseRecOn with
  | nil =>
    show store = ⟨store.value, false⟩
    rw [← sound]
  | append_singleton works work ih =>
    have length : (works ++ [work]).length = works.length + 1 := List.length_append
    have fewer : Fresh stamps works.length store.value := fresh.mono (by omega)
    have before := ih (fun other held => saves other (List.mem_append_left [work] held)) fewer
    have savesLast := saves work (List.mem_append_right works (List.mem_singleton_self work))
    have all : craft.entries stamps (works ++ [work]) =
        craft.entries stamps works ++ [craft.entry (stamps works.length) work] :=
      List.mapIdx_concat
    have unused : (store.value.insertAll (craft.entries stamps works)).contains
        (craft.entry (stamps works.length) work).id = false := by
      have apart := craft.entries_pairwise fresh
      rw [all, List.pairwise_append] at apart
      have last := Table.records_insertAll (craft.entries_unused fewer.toUnused)
        (craft.entries_distinct fewer.toUnused)
      rw [← Bool.not_eq_true, Table.contains_iff, last]
      rintro ⟨record, held, same⟩
      rcases List.mem_append.1 held with old | new
      · have absent := fresh.unused works.length (by omega)
        rw [← Bool.not_eq_true, Table.contains_iff] at absent
        exact absent ⟨record, old, same⟩
      · exact (apart.2.2 record new _ (List.mem_singleton_self _)).1 same
    have filed : (store.value.insertAll (craft.entries stamps works)).insert
        (craft.entry (stamps works.length) work) =
          store.value.insertAll (craft.entries stamps works ++
            [craft.entry (stamps works.length) work]) := by
      unfold Table.insertAll
      rw [List.foldl_append]
      rfl
    rw [addEach_concat, before, all, ← filed]
    unfold add
    rw [savesLast.toRecord]
    show (Store.enqueue _ _).2 = _
    unfold Store.enqueue Guarded.write Jobs.enqueue
    simp only [Bool.false_eq_true, if_false]
    rw [if_neg (Bool.eq_false_iff.1 unused)]

/-- A store after jobs were submitted to it that could all be saved, under fresh stamps. -/
structure Filed (craft : Craft Work Store) (works : List Work) (before after : Store) : Prop where
  /-- What the store had is still there. -/
  kept : ∀ id record, before.value.get? id = some record → after.value.get? id = some record
  /-- The new records are those of the jobs, as they were submitted. A poisoned store has none. -/
  since : (Jobs.since before.value after.value).map Record.content =
    if before.poisoned then [] else works.map craft.content

/-- A poisoned store that takes nothing on. -/
theorem Filed.of_poisoned (poisoned : store.poisoned = true) : Filed craft works store store := by
  refine ⟨fun _ _ found => found, ?_⟩
  rw [Jobs.since_self, if_pos poisoned]
  rfl

/-- A sound store that takes on the records of the jobs. -/
theorem Filed.of_entries (sound : store.poisoned = false)
    (fresh : Fresh stamps works.length store.value) :
    Filed craft works store ⟨store.value.insertAll (craft.entries stamps works), false⟩ := by
  have unused := craft.entries_unused fresh.toUnused
  have last := Table.records_insertAll unused (craft.entries_distinct fresh.toUnused)
  refine ⟨fun id record found => ?_, ?_⟩
  · obtain ⟨held, here⟩ := Table.get?_eq_some_iff.1 found
    refine Table.get?_eq_some_iff.2 ⟨?_, here⟩
    rw [last]
    exact List.mem_append_left _ held
  · rw [Jobs.since_insertAll unused (craft.entries_pairwise fresh), craft.map_content_entries,
      sound]
    rfl

/-- Jobs that are submitted together are filed. -/
theorem addAll_filed (saves : ∀ work ∈ works, craft.Saves work)
    (fresh : Fresh stamps works.length store.value) :
    Filed craft works store (addAll craft stamps works store).2 := by
  cases sound : store.poisoned with
  | true =>
    rw [(addAll_takesOn craft stamps works store).eq_of_poisoned sound]
    exact .of_poisoned sound
  | false =>
    rw [addAll_entries sound saves fresh.toUnused]
    exact .of_entries sound fresh

/-- Jobs that are submitted one after another are filed. -/
theorem addEach_filed (saves : ∀ work ∈ works, craft.Saves work)
    (fresh : Fresh stamps works.length store.value) :
    Filed craft works store (addEach craft stamps works store) := by
  cases sound : store.poisoned with
  | true =>
    rw [addEach_of_poisoned sound]
    exact .of_poisoned sound
  | false =>
    rw [addEach_entries sound saves fresh]
    exact .of_entries sound fresh

end

end Mailroom.Job
