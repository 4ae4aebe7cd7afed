import Mailroom.Job.Store

/-!
# A store of jobs on a full disk

A store that can be told to refuse its next writes. It also notes how jobs came in: alone, or how
many together.
-/

namespace Mailroom.Rehearsal

/-- A store of jobs that can be told to refuse writes. -/
structure DiskStore where
  store : Job.Store := .empty
  /-- How many of the next changes of records are refused. -/
  refusedUpdates : Nat := 0
  /-- How many of the next jobs, alone or together, are refused. -/
  refusedEnqueues : Nat := 0
  /-- How jobs came in: zero for a job alone, their number for jobs together. -/
  arrivals : List Nat := []

namespace DiskStore

/-- How a write is refused. -/
def diskFull : Job.StoreError := .storage "disk full"

/-- Has the next changes of records refused. -/
def refuseUpdates (times : Nat) (disk : DiskStore) : DiskStore :=
  { disk with refusedUpdates := times }

/-- Has the next jobs refused. -/
def refuseEnqueues (times : Nat) (disk : DiskStore) : DiskStore :=
  { disk with refusedEnqueues := times }

/-- Puts jobs into the store, unless that is to be refused. -/
def arrive {α : Type} (count : Nat)
    (change : Job.Store → Except Job.StoreError α × Job.Store) (disk : DiskStore) :
    Except Job.StoreError α × DiskStore :=
  match disk.refusedEnqueues with
  | times + 1 => (.error diskFull, { disk with refusedEnqueues := times })
  | 0 =>
    match change disk.store with
    | (.ok answer, store) =>
      (.ok answer, { disk with store := store, arrivals := disk.arrivals ++ [count] })
    | (.error reason, store) => (.error reason, { disk with store := store })

/-- Changes a record, unless that is to be refused. -/
def update (record : Job.Record) (disk : DiskStore) : Except Job.StoreError Unit × DiskStore :=
  match disk.refusedUpdates with
  | times + 1 => (.error diskFull, { disk with refusedUpdates := times })
  | 0 =>
    let (answer, store) := disk.store.update record
    (answer, { disk with store := store })

/-- Claims the job to run next. -/
def claimNext (now stamp : Instant) (disk : DiskStore) :
    Except (Fault Job.StoreError) (Option Job.Record) × DiskStore :=
  let (answer, store) := disk.store.claimNext now stamp
  (answer, { disk with store := store })

/-- The job that came in at a place, counted from zero. -/
def idAt? (place : Nat) (disk : DiskStore) : Option Job.JobId :=
  disk.store.value.records[place]?.map Job.Record.id

/-- The place at which a job came in. -/
def placeOf? (id : Job.JobId) (disk : DiskStore) : Option Nat :=
  disk.store.value.records.findIdx? fun record => record.id = id

end DiskStore

instance : Job.JobKeeper DiskStore where
  enqueue record := DiskStore.arrive 0 (Job.Store.enqueue record)
  enqueueAll records := DiskStore.arrive records.length (Job.Store.enqueueAll records)
  update := DiskStore.update
  claimNext := DiskStore.claimNext

end Mailroom.Rehearsal
