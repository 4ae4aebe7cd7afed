import Mathlib.Data.List.Induction
import Mailroom.Proofs.Job.Store

/-!
# Which job is handed out

Of the claimable jobs a store hands out the one that was created first, and it changes the record
of that job only: `claims_first_claimable`. A job that has no room for one more run breaks the
store, and from then on it refuses whatever it is asked.

The job to run next can be found without sorting. `Jobs.scan` makes one pass for the busy queues,
one for the unfinished job of each queue that was created first, and one for the earliest of the
jobs that are ready and whose queue is free. It does not matter in which order the passes meet the
records: `Jobs.scan_eq_candidate?`.
-/

namespace Mailroom.Job

namespace Store

/-- What can be asked of a store. -/
inductive Request where
  | enqueue (record : Record)
  | enqueueAll (records : List Record)
  | get (id : JobId)
  | update (record : Record)
  | claimNext (now stamp : Instant)
  | list (kind : Option StatusKind) (most : Nat)
  | stats

/-- What went wrong, if anything did. -/
def failure? {ε α : Type} : Except ε α → Option ε
  | .ok _ => none
  | .error reason => some reason

/-- What went wrong with a request, and the store after it. -/
def serve (request : Request) (store : Store) : Option (Fault StoreError) × Store :=
  match request with
  | .enqueue record =>
    let (answer, after) := store.enqueue record
    ((failure? answer).map .error, after)
  | .enqueueAll records =>
    let (answer, after) := store.enqueueAll records
    ((failure? answer).map .error, after)
  | .get id => ((failure? (store.get? id)).map .error, store)
  | .update record =>
    let (answer, after) := store.update record
    ((failure? answer).map .error, after)
  | .claimNext now stamp =>
    let (answer, after) := store.claimNext now stamp
    (failure? answer, after)
  | .list kind most => ((failure? (store.list kind most)).map .error, store)
  | .stats => ((failure? store.stats).map .error, store)

/-- What went wrong with requests that come one after another, and the store after them. -/
def serveAll : List Request → Store → List (Option (Fault StoreError)) × Store
  | [], store => ([], store)
  | request :: rest, store =>
    let (answer, after) := serve request store
    let (answers, last) := serveAll rest after
    (answer :: answers, last)

/-- A poisoned store refuses whatever it is asked and stays as it is. -/
theorem serve_poisoned {store : Store} (poisoned : store.poisoned = true) (request : Request) :
    serve request store = (some (.error .poisoned), store) := by
  cases request with
  | enqueue record => simp [serve, enqueue, Guarded.write_poisoned _ _ poisoned, failure?]
  | enqueueAll records => simp [serve, enqueueAll, Guarded.write_poisoned _ _ poisoned, failure?]
  | get id => simp [serve, get?, Guarded.read, poisoned, failure?]
  | update record => simp [serve, update, Guarded.write_poisoned _ _ poisoned, failure?]
  | claimNext now stamp =>
    simp [serve, claimNext, Guarded.writeRisky_poisoned _ _ poisoned, failure?]
  | list kind most => simp [serve, list, Guarded.read, poisoned, failure?]
  | stats => simp [serve, stats, Guarded.read, poisoned, failure?]

/-- A poisoned store refuses all that follows. -/
theorem serveAll_poisoned {store : Store} (poisoned : store.poisoned = true)
    (requests : List Request) :
    serveAll requests store =
      (List.replicate requests.length (some (.error .poisoned)), store) := by
  induction requests with
  | nil => rfl
  | cons request rest ih =>
    rw [serveAll, serve_poisoned poisoned request]
    simp only [ih, List.length_cons, List.replicate_succ]

/-- Stores that keep the same records, in whatever order, behind locks in the same state. -/
structure Alike (left right : Store) : Prop where
  records : left.value.records.Perm right.value.records
  poisoned : left.poisoned = right.poisoned

end Store

/-- The earlier of a record and one that a pass has kept so far, which is none at the start. -/
def Record.orEarlier (record : Record) : Option Record → Record
  | none => record
  | some kept => if kept.precedes record then kept else record

namespace Record

/-- A record precedes itself. -/
theorem precedes_self (record : Record) : record.precedes record = true :=
  precedes_iff.2 (.inr ⟨rfl, Nat.le_refl _⟩)

/-- The earlier of two records is one of them and precedes both. -/
theorem orEarlier_spec (record kept : Record) :
    (record.orEarlier (some kept) = kept ∨ record.orEarlier (some kept) = record) ∧
      (record.orEarlier (some kept)).precedes kept = true ∧
      (record.orEarlier (some kept)).precedes record = true := by
  by_cases before : kept.precedes record = true
  · have stays : record.orEarlier (some kept) = kept := if_pos before
    rw [stays]
    exact ⟨.inl rfl, kept.precedes_self, before⟩
  · have replaced : record.orEarlier (some kept) = record := if_neg before
    have total := precedes_total kept record
    rw [Bool.eq_false_iff.2 before, Bool.false_or] at total
    rw [replaced]
    exact ⟨.inr rfl, total, record.precedes_self⟩

end Record

namespace Jobs

/-- The record of a list that was created first. -/
def earliest? (records : List Record) : Option Record :=
  records.foldl (fun kept record => some (record.orEarlier kept)) none

/-- The record of each queue that was created first. -/
def heads (records : List Record) : Ledger String Record :=
  records.foldl
    (fun heads record =>
      match record.queue with
      | some queue => Ledger.put heads queue (record.orEarlier (Ledger.find? heads queue))
      | none => heads)
    Table.empty

/-- The queues of the running jobs of a list. -/
def busyAmong (records : List Record) : List String :=
  (records.filter fun record => decide (record.status = .running)).filterMap Record.queue

/-- The unfinished job of each queue that was created first. -/
def openHeads (records : List Record) : Ledger String Record :=
  heads (records.filter fun record => !record.status.isTerminal)

/-- Whether the head of a queue is a record of the same job. -/
def isHead (heads : Ledger String Record) (record : Record) (queue : String) : Bool :=
  (Ledger.find? heads queue).any fun head => decide (head.id = record.id)

/-- Whether a record is ready, and its queue, if it has one, is not busy and has it as its head. -/
def isFree (now : Instant) (busy : List String) (heads : Ledger String Record) (record : Record) :
    Bool :=
  record.isReady now &&
    record.queue.all fun queue => !busy.contains queue && isHead heads record queue

/-- The job to run next, found in passes over the records as they come. -/
def scan (now : Instant) (records : List Record) : Option Record :=
  earliest? (records.filter (isFree now (busyAmong records) (openHeads records)))

/-- A pass goes on with the next record. -/
theorem earliest?_concat (front : List Record) (record : Record) :
    earliest? (front ++ [record]) = some (record.orEarlier (earliest? front)) := by
  rw [earliest?, List.foldl_append]
  rfl

/-- A pass keeps nothing exactly if there is nothing. -/
theorem earliest?_eq_none_iff {records : List Record} :
    earliest? records = none ↔ records = [] := by
  induction records using List.reverseRecOn with
  | nil => exact iff_of_true rfl rfl
  | append_singleton front last =>
    rw [earliest?_concat]
    exact iff_of_false (Option.some_ne_none _) (List.append_ne_nil_of_right_ne_nil _ (by simp))

/-- What a pass keeps is one of the records, and it precedes them all. -/
theorem earliest?_spec {records : List Record} {first : Record}
    (found : earliest? records = some first) :
    first ∈ records ∧ ∀ record ∈ records, first.precedes record = true := by
  induction records using List.reverseRecOn generalizing first with
  | nil => cases found
  | append_singleton front last ih =>
    rw [earliest?_concat] at found
    obtain rfl := Option.some.inj found
    rw [List.forall_mem_append, List.forall_mem_singleton, List.mem_append, List.mem_singleton]
    cases kept : earliest? front with
    | none =>
      obtain rfl := earliest?_eq_none_iff.1 kept
      exact ⟨.inr rfl, List.forall_mem_nil _, last.precedes_self⟩
    | some best =>
      obtain ⟨held, least⟩ := ih kept
      obtain ⟨either, before, beforeLast⟩ := last.orEarlier_spec best
      have place : last.orEarlier (some best) ∈ front ∨ last.orEarlier (some best) = last := by
        rcases either with stays | replaced
        · rw [stays]
          exact .inl held
        · exact .inr replaced
      exact ⟨place, fun other inFront => Record.precedes_trans _ best other before
        (least other inFront), beforeLast⟩

/-- The head of a queue is the earliest of its records. -/
theorem find?_heads (records : List Record) (queue : String) :
    Ledger.find? (heads records) queue =
      earliest? (records.filter fun record => decide (record.queue = some queue)) := by
  induction records using List.reverseRecOn with
  | nil => rfl
  | append_singleton front last ih =>
    have step : heads (front ++ [last]) =
        match last.queue with
        | some other =>
          Ledger.put (heads front) other (last.orEarlier (Ledger.find? (heads front) other))
        | none => heads front := by
      rw [heads, List.foldl_append]
      rfl
    rw [step, List.filter_append, List.filter_singleton]
    cases waits : last.queue with
    | none =>
      simpa using ih
    | some other =>
      by_cases same : other = queue
      · subst same
        simp [Ledger.find?_put, ih, earliest?_concat]
      · simpa [Ledger.find?_put, same] using ih

variable {now : Instant} {jobs : Jobs} {listed : List Record}

/-- A pass finds the busy queues in whatever order it meets the records. -/
theorem mem_busyAmong (same : listed.Perm jobs.records) {queue : String} :
    queue ∈ busyAmong listed ↔ queue ∈ jobs.busyQueues :=
  ((same.filter _).filterMap Record.queue).mem_iff

/-- An unfinished job is the head of its queue exactly if it precedes the unfinished jobs there, in
whatever order a pass meets the records. -/
theorem isHead_iff (same : listed.Perm jobs.records) {record : Record} {queue : String}
    (kept : record ∈ jobs.records) (unended : record.status.isTerminal = false)
    (waits : record.queue = some queue) :
    isHead (openHeads listed) record queue = true ↔
      ∀ other ∈ jobs.records, other.status.isTerminal = false → other.queue = some queue →
        record.precedes other = true := by
  have member : ∀ other, other ∈ (listed.filter fun other => !other.status.isTerminal).filter
      (fun other => decide (other.queue = some queue)) ↔
        other ∈ jobs.records ∧ other.status.isTerminal = false ∧ other.queue = some queue := by
    intro other
    rw [List.mem_filter, List.mem_filter, same.mem_iff, Bool.not_eq_true', decide_eq_true_eq,
      and_assoc]
  have itself := (member record).2 ⟨kept, unended, waits⟩
  rw [isHead, openHeads, find?_heads]
  cases found : earliest? ((listed.filter fun other => !other.status.isTerminal).filter
      fun other => decide (other.queue = some queue)) with
  | none =>
    rw [earliest?_eq_none_iff.1 found] at itself
    cases itself
  | some head =>
    obtain ⟨held, least⟩ := earliest?_spec found
    obtain ⟨keptHead, unendedHead, waitsHead⟩ := (member head).1 held
    rw [Option.any_some, decide_eq_true_eq]
    constructor
    · intro here other keptOther unendedOther waitsOther
      obtain rfl := Table.eq_of_key_eq keptHead kept here
      exact least other ((member other).2 ⟨keptOther, unendedOther, waitsOther⟩)
    · intro first
      have forth := least record itself
      have back := first head keptHead unendedHead waitsHead
      exact Record.id_eq_of_precedes forth back

/-- The records that the last pass looks at are the claimable ones. -/
theorem mem_scanned_iff (same : listed.Perm jobs.records) {record : Record} :
    record ∈ listed.filter (isFree now (busyAmong listed) (openHeads listed)) ↔
      Claimable now jobs record := by
  rw [List.mem_filter, isFree, Bool.and_eq_true, same.mem_iff]
  constructor
  · rintro ⟨kept, ready, free⟩
    have unended := not_isTerminal_of_isReady ready
    refine ⟨kept, ready, ?_, ?_⟩
    · rintro other keptOther running ⟨queue, waits, waitsOther⟩
      rw [waits, Option.all_some, Bool.and_eq_true, Bool.not_eq_true', ← Bool.not_eq_true,
        List.contains_iff_mem, mem_busyAmong same] at free
      exact free.1 (mem_busyQueues.2 ⟨other, keptOther, running, waitsOther⟩)
    · rintro other keptOther unendedOther ⟨queue, waits, waitsOther⟩
      rw [waits, Option.all_some, Bool.and_eq_true, isHead_iff same kept unended waits] at free
      exact free.2 other keptOther unendedOther waitsOther
  · intro claimable
    have unended := not_isTerminal_of_isReady claimable.ready
    refine ⟨claimable.kept, claimable.ready, ?_⟩
    rw [Option.all_eq_true]
    intro queue waits
    rw [Bool.and_eq_true, Bool.not_eq_true', ← Bool.not_eq_true, List.contains_iff_mem,
      mem_busyAmong same, isHead_iff same claimable.kept unended waits]
    constructor
    · intro busy
      obtain ⟨other, keptOther, running, waitsOther⟩ := mem_busyQueues.1 busy
      exact claimable.idle other keptOther running ⟨queue, waits, waitsOther⟩
    · intro other keptOther unendedOther waitsOther
      exact claimable.first other keptOther unendedOther ⟨queue, waits, waitsOther⟩

/-- In whatever order the passes meet the records, they find the job to run next. -/
theorem scan_eq_candidate? (same : listed.Perm jobs.records) :
    scan now listed = jobs.candidate? now := by
  unfold scan
  cases found : earliest? (listed.filter (isFree now (busyAmong listed) (openHeads listed))) with
  | none =>
    refine (candidate?_eq_none_iff.2 fun record claimable => ?_).symm
    have scanned := (mem_scanned_iff same).2 claimable
    rw [earliest?_eq_none_iff.1 found] at scanned
    cases scanned
  | some record =>
    obtain ⟨scanned, least⟩ := earliest?_spec found
    refine (candidate?_eq_some_iff.2 ⟨(mem_scanned_iff same).1 scanned, ?_⟩).symm
    exact fun other claimable => least other ((mem_scanned_iff same).2 claimable)

/-- The claimable record that was created first. -/
structure Foremost (now : Instant) (jobs : Jobs) (record : Record) : Prop where
  claimable : Claimable now jobs record
  least : ∀ other, Claimable now jobs other → record.precedes other = true

/-- The job to run next is the claimable one that was created first. -/
theorem candidate?_eq_some_iff_foremost {record : Record} :
    jobs.candidate? now = some record ↔ Foremost now jobs record := by
  rw [candidate?_eq_some_iff]
  exact ⟨fun first => ⟨first.1, first.2⟩, fun first => ⟨first.claimable, first.least⟩⟩

/-- What a claim on a sound store does. -/
structure ClaimsFirst (now stamp : Instant) (jobs : Jobs) : Prop where
  /-- Nothing is handed out and nothing changes if nothing is claimable. -/
  nothing : (∀ record, ¬ Claimable now jobs record) →
    Store.claimNext now stamp ⟨jobs, false⟩ = (.ok none, ⟨jobs, false⟩)
  /-- If something is claimable, exactly one record is the first of what is. -/
  first : ∀ record, Claimable now jobs record → ∃! first, Foremost now jobs first
  /-- The first is handed out as running and counted, and only its record changes. -/
  claimed : ∀ record, Foremost now jobs record → record.attempt.toNat + 1 < UInt32.size →
    ∃ claim after, Store.claimNext now stamp ⟨jobs, false⟩ = (.ok (some claim), ⟨after, false⟩) ∧
      claim = { record with status := .running, attempt := claim.attempt, updated := stamp } ∧
      claim.attempt.toNat = record.attempt.toNat + 1 ∧
      ∀ id, after.get? id = if id = record.id then some claim else jobs.get? id
  /-- If there is no room to count one more run of the first, the claim crashes, and the store
  refuses all that follows. -/
  full : ∀ record, Foremost now jobs record → record.attempt.toNat + 1 = UInt32.size →
    ∃ after, Store.claimNext now stamp ⟨jobs, false⟩ = (.error (.crash .counterOverflow), after) ∧
      ∀ requests, Store.serveAll requests after =
        (List.replicate requests.length (some (.error .poisoned)), after)
  /-- Passes over the records find the first in whatever order they meet them. -/
  found : ∀ listed : List Record, listed.Perm jobs.records → ∀ record,
    scan now listed = some record ↔ Foremost now jobs record
  /-- The order in which the store keeps its records makes no difference. -/
  ordered : ∀ other : Jobs, other.records.Perm jobs.records →
    (Store.claimNext now stamp ⟨other, false⟩).1 = (Store.claimNext now stamp ⟨jobs, false⟩).1 ∧
      (Store.claimNext now stamp ⟨other, false⟩).2.Alike
        (Store.claimNext now stamp ⟨jobs, false⟩).2

/-- The first of the claimable records is the only one. -/
theorem Foremost.unique {left right : Record} (hl : Foremost now jobs left)
    (hr : Foremost now jobs right) : left = right :=
  Table.eq_of_key_eq hl.claimable.kept hr.claimable.kept
    (Record.id_eq_of_precedes (hl.least right hr.claimable) (hr.least left hl.claimable))

/-- The job to run next is the same in whatever order the records are kept. -/
theorem candidate?_eq_of_perm {other : Jobs} (same : other.records.Perm jobs.records)
    (now : Instant) : other.candidate? now = jobs.candidate? now :=
  (scan_eq_candidate? (.refl other.records)).symm.trans (scan_eq_candidate? same)

/-- Claims on stores that keep the same records have the same answer and leave the same records
behind. -/
theorem claimNext_alike {other : Jobs} (same : other.records.Perm jobs.records) (stamp : Instant) :
    (Store.claimNext now stamp ⟨other, false⟩).1 = (Store.claimNext now stamp ⟨jobs, false⟩).1 ∧
      (Store.claimNext now stamp ⟨other, false⟩).2.Alike
        (Store.claimNext now stamp ⟨jobs, false⟩).2 := by
  have choice := candidate?_eq_of_perm same now
  cases next : jobs.candidate? now with
  | none =>
    rw [Store.claimNext_of_none next, Store.claimNext_of_none (choice.trans next)]
    exact ⟨rfl, same, rfl⟩
  | some record =>
    by_cases room : record.attempt.toNat + 1 < UInt32.size
    · rw [Store.claimNext_of_room next room, Store.claimNext_of_room (choice.trans next) room]
      exact ⟨rfl, Table.records_insert_perm same _, rfl⟩
    · rw [Store.claimNext_of_full next room, Store.claimNext_of_full (choice.trans next) room]
      exact ⟨rfl, Table.records_insert_perm same _, rfl⟩

/-- A store hands out the claimable record that was created first, and nothing if there is none. -/
theorem claims_first_claimable (now stamp : Instant) (jobs : Jobs) :
    ClaimsFirst now stamp jobs where
  nothing idle := Store.claimNext_of_none (candidate?_eq_none_iff.2 idle) stamp
  first record claimable := by
    obtain ⟨first, found, -⟩ := claimable.candidate?
    have foremost := candidate?_eq_some_iff_foremost.1 found
    exact ⟨first, foremost, fun other also => also.unique foremost⟩
  claimed record foremost room := by
    have next := candidate?_eq_some_iff_foremost.2 foremost
    refine ⟨_, _, Store.claimNext_of_room next room stamp, rfl, ?_, fun id => ?_⟩
    · exact Record.toNat_attempt_add_one room
    · rw [Table.get?_insert]
      simp only [eq_comm]
  full record foremost last := by
    have next := candidate?_eq_some_iff_foremost.2 foremost
    have full : ¬ record.attempt.toNat + 1 < UInt32.size := by omega
    refine ⟨_, Store.claimNext_of_full next full stamp, fun requests => ?_⟩
    exact Store.serveAll_poisoned rfl requests
  found listed same record := by
    rw [scan_eq_candidate? same]
    exact candidate?_eq_some_iff_foremost
  ordered other same := claimNext_alike same stamp

/-- A job that has asked for another run as often as runs can be counted. -/
def worn : Record :=
  { Record.new default default "letter" { queue := some "road" } [] with
    status := .retrying 4294967295, attempt := 4294967295 }

/-- The store with that job alone breaks when it is asked for a claim, and refuses all that
follows. -/
theorem claims_first_claimable_worn :
    Foremost default (Table.empty.insert worn) worn ∧
      ∃ after, Store.claimNext default default ⟨Table.empty.insert worn, false⟩ =
          (.error (.crash .counterOverflow), after) ∧
        ∀ requests, Store.serveAll requests after =
          (List.replicate requests.length (some (.error .poisoned)), after) := by
  have foremost : Foremost default (Table.empty.insert worn) worn :=
    candidate?_eq_some_iff_foremost.1 (by cbv)
  exact ⟨foremost, (claims_first_claimable default default _).full worn foremost rfl⟩

end Jobs

end Mailroom.Job
