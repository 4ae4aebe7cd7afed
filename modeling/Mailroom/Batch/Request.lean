import Mailroom.Batch.Cache

/-!
# Requests to a cache

All that can be asked of a cache, as data: lookups, which need the group lock if the cache is
bound to it, effects, and the flush.
-/

namespace Mailroom.Batch

/-- Something asked of a cache. -/
inductive Request (Work : Type) where
  /-- The parameters and the group of a message. -/
  | messageInfo (message : Incoming)
  /-- The parameters and the group of a key. -/
  | groupInfo (key : MasterKey)
  /-- The state of a group. -/
  | roster (id : GroupId)
  /-- The revision of a group. -/
  | revision (id : GroupId)
  | setRevision (id : GroupId) (revision : UInt32)
  | isQueueEmpty (marker : String)
  | markQueueEmpty (marker : String)
  /-- Whether nothing is remembered. -/
  | isEmpty
  /-- To forget all that is remembered. -/
  | clear
  | addJob (work : Work)
  | addThread (id : ThreadId)
  | flush

/-- What a cache answers. -/
inductive Reply where
  | done
  | flag (value : Bool)
  | info (found : Option (GroupSecret × GroupId))
  /-- The state of a group, and whether it had to be loaded. -/
  | roster (loaded : Bool) (found : Option Roster)
  | revision (found : Option UInt32)
  deriving DecidableEq

section

variable {C Work σ : Type} [Cache C Work]

/-- Looks something up in what a cache remembers. -/
def lookUp {α : Type} (look : Lookups → Except Crash α × Lookups) (reply : α → Reply) (cache : C)
    (state : σ) : Effect BatchError Reply C σ :=
  let (answer, lookups) := look (Cache.lookups cache)
  ⟨(answer.map reply).mapError Fault.crash, Cache.withLookups lookups cache, state⟩

/-- Looks up the state of a group, which may have to be loaded. -/
def lookUpRoster (load : GroupId → σ → Except StorageError (Option Roster) × σ)
    (lock : GroupLock) (id : GroupId) (cache : C) (state : σ) : Effect BatchError Reply C σ :=
  let before := Cache.lookups cache
  let (answer, lookups, state) := before.roster lock load id state
  ⟨(answer.map (.roster (before.rosters.find? id).isNone)).mapError (Fault.map BatchError.threads),
    Cache.withLookups lookups cache, state⟩

/-- An effect that answers nothing but that it is done. -/
def Effect.done (effect : Effect BatchError Unit C σ) : Effect BatchError Reply C σ :=
  ⟨effect.answer.map fun () => .done, effect.cache, effect.state⟩

/-- Answers a request. -/
def perform (outlet : Outlet Work σ) (load : GroupId → σ → Except StorageError (Option Roster) × σ)
    (lock : GroupLock) (request : Request Work) (cache : C) (state : σ) :
    Effect BatchError Reply C σ :=
  match request with
  | .messageInfo message => lookUp (Lookups.messageInfo lock message) .info cache state
  | .groupInfo key =>
    lookUp (Lookups.groupInfo lock key) (fun found => .info (some found)) cache state
  | .roster id => lookUpRoster load lock id cache state
  | .revision id => lookUp (Lookups.revision lock id) .revision cache state
  | .setRevision id revision =>
    lookUp (Lookups.setRevision lock id revision) (fun () => .done) cache state
  | .isQueueEmpty marker => lookUp (Lookups.isQueueEmpty lock marker) .flag cache state
  | .markQueueEmpty marker => lookUp (Lookups.markQueueEmpty lock marker) .flag cache state
  | .isEmpty => ⟨.ok (.flag (Cache.lookups cache).isEmpty), cache, state⟩
  | .clear => ⟨.ok .done, Cache.withLookups (Cache.lookups cache).clear cache, state⟩
  | .addJob work => (Cache.addJob outlet work cache state).done
  | .addThread id => (Cache.addThread outlet id cache state).done
  | .flush => (Cache.flush outlet cache state).done

end

end Mailroom.Batch
