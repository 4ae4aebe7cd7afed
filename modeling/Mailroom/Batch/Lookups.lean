import Mailroom.Batch.Lock
import Mailroom.Conversation.Incoming
import Mailroom.Conversation.Roster
import Mailroom.Fault
import Mailroom.Table

/-!
# Lookups of a batch

While a batch of messages is handled, what was once found out about a group is remembered: the
parameters of its key, its state, its revision, and whether its queue is empty. All of it is
forgotten at the end of the batch; only the number of derivations goes on. Lookups that are bound
to the group lock crash when nobody holds it.
-/

namespace Mailroom.Batch

/-- What is remembered for one batch. -/
structure Lookups where
  /-- The queues that were found empty. -/
  emptyQueues : Table (id : String → String) := .empty
  /-- The revisions of groups. -/
  revisions : Ledger GroupId UInt32 := Table.empty
  /-- The states of groups; a group may be known to have none. -/
  rosters : Ledger GroupId (Option Roster) := Table.empty
  /-- The parameters of keys. -/
  secrets : Ledger MasterKey (GroupSecret × GroupId) := Table.empty
  /-- How many keys were derived so far. A machine counts in 64 bits, which no run lasts long enough
  to use up, so the count has no bound here. -/
  derivations : Nat := 0
  /-- Whether the lookups may be used only while the group lock is held. -/
  bound : Bool := false
  deriving DecidableEq

namespace Lookups

instance : Inhabited Lookups := ⟨{}⟩

/-- Whether the lookups may be used. -/
def allowed (lookups : Lookups) (lock : GroupLock) : Bool := !lookups.bound || lock.held

/-- Uses the lookups if they may be used. -/
def whenAllowed {α : Type} (lock : GroupLock) (use : Lookups → α × Lookups) (lookups : Lookups) :
    Except Crash α × Lookups :=
  if lookups.allowed lock then
    let (answer, lookups) := use lookups
    (.ok answer, lookups)
  else (.error .lockNotHeld, lookups)

/-- The parameters and the group of a key, derived when it is first asked for. -/
def groupInfo (lock : GroupLock) (key : MasterKey) :
    Lookups → Except Crash (GroupSecret × GroupId) × Lookups :=
  whenAllowed lock fun lookups =>
    match lookups.secrets.find? key with
    | some info => (info, lookups)
    | none =>
      let secret := GroupSecret.derive key
      let info := (secret, GroupId.v2 secret.identifier)
      (info,
        { lookups with
          derivations := lookups.derivations + 1
          secrets := lookups.secrets.put key info })

/-- The parameters and the group that a message was sent in; nothing outside groups. -/
def messageInfo (lock : GroupLock) (message : Incoming) (lookups : Lookups) :
    Except Crash (Option (GroupSecret × GroupId)) × Lookups :=
  match message.group with
  | none => (.ok none, lookups)
  | some context =>
    let (answer, lookups) := groupInfo lock context.masterKey lookups
    (answer.map some, lookups)

/-- The state of a group, loaded when it is first asked for. A group without state is remembered
as well; a load that fails is not. -/
def roster {ε σ : Type} (lock : GroupLock) (load : GroupId → σ → Except ε (Option Roster) × σ)
    (id : GroupId) (lookups : Lookups) (state : σ) :
    Except (Fault ε) (Option Roster) × Lookups × σ :=
  if lookups.allowed lock then
    match lookups.rosters.find? id with
    | some roster => (.ok roster, lookups, state)
    | none =>
      match load id state with
      | (.ok roster, state) =>
        (.ok roster, { lookups with rosters := lookups.rosters.put id roster }, state)
      | (.error error, state) => (.error (.error error), lookups, state)
  else (.error (.crash .lockNotHeld), lookups, state)

/-- The revision of a group, if it was set. -/
def revision (lock : GroupLock) (id : GroupId) :
    Lookups → Except Crash (Option UInt32) × Lookups :=
  whenAllowed lock fun lookups => (lookups.revisions.find? id, lookups)

/-- Sets the revision of a group. -/
def setRevision (lock : GroupLock) (id : GroupId) (revision : UInt32) :
    Lookups → Except Crash Unit × Lookups :=
  whenAllowed lock fun lookups =>
    ((), { lookups with revisions := lookups.revisions.put id revision })

/-- Whether a queue was found empty. -/
def isQueueEmpty (lock : GroupLock) (marker : String) : Lookups → Except Crash Bool × Lookups :=
  whenAllowed lock fun lookups => (lookups.emptyQueues.contains marker, lookups)

/-- Remembers that a queue was found empty. The answer is whether this is news. -/
def markQueueEmpty (lock : GroupLock) (marker : String) : Lookups → Except Crash Bool × Lookups :=
  whenAllowed lock fun lookups =>
    (!lookups.emptyQueues.contains marker,
      { lookups with emptyQueues := lookups.emptyQueues.insert marker })

/-- Whether nothing is remembered. -/
def isEmpty (lookups : Lookups) : Bool :=
  lookups.emptyQueues.records.isEmpty && lookups.revisions.records.isEmpty
    && lookups.rosters.records.isEmpty && lookups.secrets.records.isEmpty

/-- Forgets everything but the number of derivations. -/
def clear (lookups : Lookups) : Lookups :=
  { lookups with
    emptyQueues := .empty
    revisions := Table.empty
    rosters := Table.empty
    secrets := Table.empty }

end Lookups

end Mailroom.Batch
