import Mailroom.Proofs.Job.Candidate

/-!
# What the store of jobs lists and counts

A listing holds the records of one kind of status, or all, strictly in the order of their creation,
and a limit cuts it off behind its first records. The listings of the five kinds share nothing, hold
every record once, and merge to the listing of all; their lengths are the counts, which are found in
one pass over the records. `Store.listing_agrees` says so of every store, and that it makes no
difference in which order a pass meets the records.

No two records share an identifier. So the order of creation is strict, and a listing is known from
its records: `Jobs.eq_of_perm_of_ordered`.
-/

namespace Mailroom.Job

namespace StatusKind

/-- The kinds of status. -/
def all : List StatusKind := [.pending, .running, .completed, .retrying, .failed]

/-- There are no other kinds. -/
theorem mem_all (kind : StatusKind) : kind ∈ all := by
  cases kind <;> decide

end StatusKind

namespace Stats

/-- The number of jobs with a status of one kind. -/
def number (stats : Stats) : StatusKind → Nat
  | .pending => stats.pending
  | .running => stats.running
  | .completed => stats.completed
  | .retrying => stats.retrying
  | .failed => stats.failed

/-- Statistics are known from the five numbers. -/
theorem ext_number {left right : Stats} (same : ∀ kind, left.number kind = right.number kind) :
    left = right := by
  obtain ⟨pending, running, completed, retrying, failed⟩ := left
  obtain rfl : pending = right.pending := same .pending
  obtain rfl : running = right.running := same .running
  obtain rfl : completed = right.completed := same .completed
  obtain rfl : retrying = right.retrying := same .retrying
  obtain rfl : failed = right.failed := same .failed
  rfl

/-- The statistics of no jobs. -/
def zero : Stats := ⟨0, 0, 0, 0, 0⟩

/-- Counts one more job where it stands. -/
def add (stats : Stats) : Status → Stats
  | .pending => { stats with pending := stats.pending + 1 }
  | .running => { stats with running := stats.running + 1 }
  | .completed => { stats with completed := stats.completed + 1 }
  | .retrying _ => { stats with retrying := stats.retrying + 1 }
  | .failed _ _ => { stats with failed := stats.failed + 1 }

/-- The statistics that one pass makes over records as it meets them. -/
def ofPass (met : List Record) : Stats :=
  met.foldl (fun stats record => stats.add record.status) zero

/-- Counting a job raises the number of its kind. -/
theorem number_add (stats : Stats) (status : Status) (kind : StatusKind) :
    (stats.add status).number kind = stats.number kind + if status.kind = kind then 1 else 0 := by
  cases status <;> cases kind <;> rfl

/-- A pass raises each number by as many records as it meets of that kind. -/
theorem number_foldl_add (met : List Record) (start : Stats) (kind : StatusKind) :
    (met.foldl (fun stats record => stats.add record.status) start).number kind =
      start.number kind + met.countP fun record => decide (record.status.kind = kind) := by
  induction met generalizing start with
  | nil => rfl
  | cons record rest ih =>
    rw [List.foldl_cons, ih, number_add, List.countP_cons, Nat.add_right_comm, ← Nat.add_assoc]
    simp only [decide_eq_true_eq]

end Stats

namespace Record

/-- Whether a record has a status of the kind asked for; every record has if none is asked for. -/
def IsOf (kind : Option StatusKind) (record : Record) : Prop :=
  ∀ wanted, kind = some wanted → record.status.kind = wanted

/-- Of two records of different jobs, the one that precedes was created before. -/
theorem before_of_precedes {left right : Record} (precedes : left.precedes right = true)
    (different : left.id ≠ right.id) : left.Before right := by
  have apart : left.id.number ≠ right.id.number :=
    fun same => different (JobId.number_injective same)
  rw [precedes_iff] at precedes
  rw [before_iff]
  omega

end Record

namespace Jobs

/-- The listing that is made of records as a pass meets them. -/
def listed (kind : Option StatusKind) (met : List Record) : List Record :=
  (met.filter fun record => kind.all fun kind => decide (record.status.kind = kind)).mergeSort
    Record.precedes

/-- Merges lists that are in the order of creation. -/
def mergeAll (lists : List (List Record)) : List Record :=
  lists.foldr (fun list merged => list.merge merged Record.precedes) []

section

variable {kind : Option StatusKind} {met : List Record}

/-- The test of a listing asks for the kind. -/
theorem isOf_iff {record : Record} :
    (kind.all fun kind => decide (record.status.kind = kind)) = true ↔ record.IsOf kind := by
  rw [Option.all_eq_true]
  simp only [decide_eq_true_eq]
  rfl

/-- A listing has the records of the kind asked for. -/
theorem mem_listed {record : Record} :
    record ∈ listed kind met ↔ record ∈ met ∧ record.IsOf kind := by
  rw [listed, (List.mergeSort_perm _ _).mem_iff, List.mem_filter, isOf_iff]

/-- A listing is in the order of creation. -/
theorem pairwise_listed :
    (listed kind met).Pairwise fun left right => left.precedes right = true :=
  List.pairwise_mergeSort Record.precedes_trans Record.precedes_total _

/-- A listing is not longer than what it is made of. -/
theorem length_listed_le : (listed kind met).length ≤ met.length := by
  rw [listed, List.length_mergeSort]
  exact List.length_filter_le _ _

/-- The length of the listing of a kind is how many records have it. -/
theorem length_listed_some (kind : StatusKind) :
    (listed (some kind) met).length =
      met.countP fun record => decide (record.status.kind = kind) := by
  rw [listed, List.length_mergeSort, List.countP_eq_length_filter]
  rfl

/-- Merging loses nothing. -/
theorem mergeAll_perm (lists : List (List Record)) : (mergeAll lists).Perm lists.flatten := by
  induction lists with
  | nil => exact .refl _
  | cons list rest ih => exact (List.merge_perm_append _).trans (ih.append_left list)

/-- Merging keeps the order of creation. -/
theorem pairwise_mergeAll {lists : List (List Record)}
    (ordered : ∀ list ∈ lists, list.Pairwise fun left right => left.precedes right = true) :
    (mergeAll lists).Pairwise fun left right => left.precedes right = true := by
  induction lists with
  | nil => exact List.Pairwise.nil
  | cons list rest ih =>
    rw [List.forall_mem_cons] at ordered
    exact List.pairwise_merge Record.precedes_trans Record.precedes_total _ _ ordered.1
      (ih ordered.2)

end

variable {jobs : Jobs}

/-- Lists of the same records of a store, both in the order of creation, are the same list. -/
theorem eq_of_perm_of_ordered {left right : List Record} (same : left.Perm right)
    (kept : ∀ record ∈ right, record ∈ jobs.records)
    (hl : left.Pairwise fun former latter => former.precedes latter = true)
    (hr : right.Pairwise fun former latter => former.precedes latter = true) : left = right := by
  -- Records that precede each other are of one job, of which the store keeps one record.
  refine same.eq_of_pairwise (fun former latter inLeft inRight forth back => ?_) hl hr
  exact Table.eq_of_key_eq (kept former (same.mem_iff.1 inLeft)) (kept latter inRight)
    (Record.id_eq_of_precedes forth back)

/-- A store lists the first records of the listing that is made of what it keeps. -/
theorem list_eq (kind : Option StatusKind) (most : Nat) (jobs : Jobs) :
    jobs.list kind most = (listed kind jobs.records).take most :=
  rfl

/-- A limit that no store of its size reaches cuts nothing off. -/
theorem list_of_room {most : Nat} (room : jobs.records.length ≤ most) (kind : Option StatusKind) :
    jobs.list kind most = listed kind jobs.records :=
  List.take_of_length_le (Nat.le_trans length_listed_le room)

/-- In whatever order a pass meets the records of a store, the listing is the same. -/
theorem listed_of_perm {met : List Record} (same : met.Perm jobs.records)
    (kind : Option StatusKind) : listed kind met = listed kind jobs.records := by
  refine eq_of_perm_of_ordered ?_ (fun record held => (mem_listed.1 held).1) pairwise_listed
    pairwise_listed
  exact (List.mergeSort_perm _ _).trans
    ((same.filter _).trans (List.mergeSort_perm _ _).symm)

/-- No record of a store is listed twice. -/
theorem nodup_listed (jobs : Jobs) (kind : Option StatusKind) :
    (listed kind jobs.records).Nodup :=
  (List.mergeSort_perm _ _).nodup_iff.2 ((List.Nodup.of_map _ jobs.distinct).filter _)

/-- The listing of a store is strictly in the order of creation. -/
theorem pairwise_before_listed (jobs : Jobs) (kind : Option StatusKind) :
    (listed kind jobs.records).Pairwise Record.Before := by
  refine (pairwise_listed.and (jobs.nodup_listed kind)).imp_of_mem ?_
  rintro former latter hf hl ⟨precedes, different⟩
  refine Record.before_of_precedes precedes fun same => different ?_
  exact Table.eq_of_key_eq (mem_listed.1 hf).1 (mem_listed.1 hl).1 same

/-- Listings of different kinds share no record. -/
theorem disjoint_listed {met : List Record} {left right : StatusKind} (different : left ≠ right) :
    (listed (some left) met).Disjoint (listed (some right) met) := by
  intro record inLeft inRight
  have isLeft : record.status.kind = left := (mem_listed.1 inLeft).2 left rfl
  have isRight : record.status.kind = right := (mem_listed.1 inRight).2 right rfl
  exact different (isLeft.symm.trans isRight)

/-- The listings of the five kinds together have every record of a store once. -/
theorem perm_listed (jobs : Jobs) :
    (StatusKind.all.flatMap fun kind => listed (some kind) jobs.records).Perm jobs.records := by
  have apart : StatusKind.all.Pairwise
      (Function.onFun List.Disjoint fun kind => listed (some kind) jobs.records) :=
    (show StatusKind.all.Nodup by decide).imp disjoint_listed
  refine (List.perm_ext_iff_of_nodup
    (List.nodup_flatMap.2 ⟨fun kind _ => jobs.nodup_listed (some kind), apart⟩)
    (List.Nodup.of_map _ jobs.distinct)).2 fun record => ?_
  rw [List.mem_flatMap]
  constructor
  · rintro ⟨kind, -, held⟩
    exact (mem_listed.1 held).1
  · intro kept
    exact ⟨record.status.kind, StatusKind.mem_all _,
      mem_listed.2 ⟨kept, fun wanted same => Option.some.inj same⟩⟩

/-- The listings of the five kinds merge to the listing of all. -/
theorem mergeAll_listed (jobs : Jobs) :
    mergeAll (StatusKind.all.map fun kind => listed (some kind) jobs.records) =
      listed none jobs.records := by
  have everything : (listed none jobs.records).Perm jobs.records :=
    (List.mergeSort_perm _ _).trans (.of_eq (List.filter_eq_self.2 fun _ _ => rfl))
  refine eq_of_perm_of_ordered ?_ (fun record held => (mem_listed.1 held).1)
    (pairwise_mergeAll fun list among => ?_) pairwise_listed
  · refine (mergeAll_perm _).trans (.trans ?_ everything.symm)
    rw [← List.flatMap_def]
    exact jobs.perm_listed
  · obtain ⟨kind, -, rfl⟩ := List.mem_map.1 among
    exact pairwise_listed

/-- The number of a kind is how many records have it. -/
theorem number_stats (jobs : Jobs) (kind : StatusKind) :
    jobs.stats.number kind =
      jobs.records.countP fun record => decide (record.status.kind = kind) := by
  cases kind <;> rfl

/-- The counts add up to the number of jobs. -/
theorem total_stats (jobs : Jobs) :
    jobs.stats.pending + jobs.stats.running + jobs.stats.completed + jobs.stats.retrying +
      jobs.stats.failed = jobs.records.length := by
  have length := jobs.perm_listed.length_eq
  simp only [StatusKind.all, List.flatMap_cons, List.flatMap_nil, List.length_append,
    List.length_nil, length_listed_some, ← number_stats, Stats.number] at length
  omega

/-- In whatever order a pass meets the records of a store, it counts what the store counts. -/
theorem ofPass_eq_stats {met : List Record} (same : met.Perm jobs.records) :
    Stats.ofPass met = jobs.stats := by
  refine Stats.ext_number fun kind => ?_
  rw [Stats.ofPass, Stats.number_foldl_add, number_stats, same.countP_eq]
  cases kind <;> exact Nat.zero_add _

/-- Whether the listings and the counts of a store fit what it keeps. -/
structure Overview (jobs : Jobs) : Prop where
  /-- A listing is strictly in the order of creation, with the identifier to decide a tie. -/
  ordered : ∀ kind most, (jobs.list kind most).Pairwise Record.Before
  /-- What is listed is kept and has a status of the kind asked for, whatever its details are. -/
  kept : ∀ kind most, ∀ record ∈ jobs.list kind most,
    record ∈ jobs.records ∧ record.IsOf kind
  /-- A smaller limit leaves the first records of what a larger one leaves. -/
  cut : ∀ kind most more, most ≤ more →
    jobs.list kind most = (jobs.list kind more).take most
  /-- A limit that is not below the number of jobs leaves out nothing of the kind asked for. -/
  complete : ∀ kind most, jobs.records.length ≤ most → ∀ record ∈ jobs.records,
    record.IsOf kind → record ∈ jobs.list kind most
  /-- Different kinds have nothing in common. -/
  disjoint : ∀ left right most, left ≠ right →
    (jobs.list (some left) most).Disjoint (jobs.list (some right) most)
  /-- The five kinds together have every record once. -/
  covered : ∀ most, jobs.records.length ≤ most →
    (StatusKind.all.flatMap fun kind => jobs.list (some kind) most).Perm jobs.records
  /-- The five kinds merge to the listing of all. -/
  merged : ∀ most, jobs.records.length ≤ most →
    mergeAll (StatusKind.all.map fun kind => jobs.list (some kind) most) = jobs.list none most
  /-- As many are listed of each kind as are counted. -/
  counted : ∀ kind most, jobs.records.length ≤ most →
    (jobs.list (some kind) most).length = jobs.stats.number kind
  /-- The counts add up to the number of jobs. -/
  total : jobs.stats.pending + jobs.stats.running + jobs.stats.completed + jobs.stats.retrying +
    jobs.stats.failed = jobs.records.length
  /-- It makes no difference in which order a pass meets the records. -/
  anyOrder : ∀ met : List Record, met.Perm jobs.records →
    (∀ kind most, (listed kind met).take most = jobs.list kind most) ∧
      Stats.ofPass met = jobs.stats

/-- The listings and the counts of every store fit what it keeps. -/
theorem overview (jobs : Jobs) : Overview jobs where
  ordered kind most := (jobs.pairwise_before_listed kind).sublist (List.take_sublist _ _)
  kept kind most record held := mem_listed.1 (List.mem_of_mem_take held)
  cut kind most more smaller := by
    rw [list_eq, list_eq, List.take_take, Nat.min_eq_left smaller]
  complete kind most room record held wanted := by
    rw [list_of_room room]
    exact mem_listed.2 ⟨held, wanted⟩
  disjoint left right most different record inLeft inRight :=
    disjoint_listed different (List.mem_of_mem_take inLeft) (List.mem_of_mem_take inRight)
  covered most room := by
    simp only [list_of_room room]
    exact jobs.perm_listed
  merged most room := by
    simp only [list_of_room room]
    exact jobs.mergeAll_listed
  counted kind most room := by
    rw [list_of_room room, length_listed_some, number_stats]
  total := jobs.total_stats
  anyOrder met same := by
    refine ⟨fun kind most => ?_, ofPass_eq_stats same⟩
    rw [listed_of_perm same, list_eq]

end Jobs

/-- A store lists and counts what it keeps, in a way that fits, unless its lock is poisoned: then it
refuses both. -/
theorem Store.listing_agrees (store : Store) :
    store.value.Overview ∧
      (∀ kind most, store.list kind most =
        if store.poisoned then .error .poisoned else .ok (store.value.list kind most)) ∧
      store.stats = if store.poisoned then .error .poisoned else .ok store.value.stats :=
  ⟨store.value.overview, fun _ _ => rfl, rfl⟩

/-- Of three jobs that were created at one time, those with the smaller identifiers come first. -/
example :
    let job (number : Nat) (status : Status) : Record :=
      { Record.new ⟨⟨.ofNumber 16 number⟩⟩ default "letter" {} [] with status := status }
    let jobs : Jobs := Table.empty.insertAll [job 2 .pending, job 3 .pending, job 1 (.retrying 4)]
    (jobs.list none 2).map (·.id.number) = [1, 2] ∧
      (jobs.list (some .pending) 1).map (·.id.number) = [2] ∧ jobs.stats = ⟨2, 0, 0, 1, 0⟩ := by
  cbv

end Mailroom.Job
