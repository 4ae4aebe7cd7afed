import Mailroom.Guarded
import Mailroom.Log
import Mailroom.Storage.Archive

/-!
# Message storage

Storage is an archive behind a lock. `MessageKeeper` is what the rest of the library asks of a
state that keeps messages; storage is one, and a state that sometimes fails to reach its storage
may be another, which is why asking can change the state.
-/

namespace Mailroom

/-- An archive behind a lock. -/
abbrev Storage : Type := Guarded Archive

namespace Storage

/-- Storage without records. -/
def empty : Storage := ⟨.empty, false⟩

/-- Reads the archive. -/
def look {α : Type} (view : Archive → α) (storage : Storage) : Except StorageError α :=
  storage.read .poisoned fun archive => .ok (view archive)

/-- Changes the archive in a way that cannot fail. -/
def change (edit : Archive → Archive) (storage : Storage) : Except StorageError Unit × Storage :=
  storage.write .poisoned fun archive => (.ok (), edit archive)

/-- Files a thread. -/
def insertThread (thread : Thread) (storage : Storage) :
    Except (Fault StorageError) Unit × Storage :=
  storage.writeRisky .poisoned fun archive =>
    let (answer, archive) := archive.insertThread thread
    (answer.mapError Fault.crash, archive)

/-- Whether the local account is registered. -/
def isRegistered (storage : Storage) : Except StorageError Bool := storage.look Archive.registered

/-- The recipient that stands for the local account. -/
def selfId (storage : Storage) : Except StorageError RecipientId :=
  storage.read .poisoned Archive.selfId?

/-- A message. -/
def message (id : MessageId) (storage : Storage) : Except StorageError Message :=
  storage.read .poisoned (Archive.message? id)

/-- The recipient that a thread is with, if both are known. -/
def conversation (id : ThreadId) (storage : Storage) : Except StorageError (Option Recipient) :=
  storage.look (Archive.conversation? id)

/-- A recipient. -/
def recipient (id : RecipientId) (storage : Storage) : Except StorageError Recipient :=
  storage.read .poisoned (Archive.recipient? id)

/-- The state of a group, if it is known. -/
def group (id : GroupId) (storage : Storage) : Except StorageError (Option Roster) :=
  storage.look fun archive => archive.groups.get? id

/-- Notes who deleted a message for everyone. -/
def markDeleted (id : MessageId) (deleter : RecipientId) (storage : Storage) :
    Except StorageError Unit × Storage :=
  storage.write .poisoned (Archive.markDeleted id deleter)

/-- Notes that the service no longer knows a recipient. -/
def markGone (id : RecipientId) (storage : Storage) : Except StorageError Bool × Storage :=
  storage.write .poisoned (Archive.markGone id)

/-- Moves one thread to the top. -/
def updateThread (id : ThreadId) (unarchive : Bool) (storage : Storage) :
    Except (Fault StorageError) Unit × Storage :=
  storage.writeRisky .poisoned (Archive.updateThread id unarchive)

/-- Moves threads to the top together. -/
def updateThreads (ids : List ThreadId) (unarchive : Bool) (storage : Storage) :
    Except (Fault StorageError) Unit × Storage :=
  storage.writeRisky .poisoned (Archive.updateThreads ids unarchive)

end Storage

/-- A state that keeps messages. -/
class MessageKeeper (σ : Type) where
  /-- Whether the local account is registered. -/
  isRegistered : σ → Except StorageError Bool × σ
  /-- The recipient that stands for the local account. -/
  selfId : σ → Except StorageError RecipientId × σ
  /-- A message. -/
  message : MessageId → σ → Except StorageError Message × σ
  /-- The recipient that a thread is with, if both are known. -/
  conversation : ThreadId → σ → Except StorageError (Option Recipient) × σ
  /-- A recipient. -/
  recipient : RecipientId → σ → Except StorageError Recipient × σ
  /-- The state of a group, if it is known. -/
  group : GroupId → σ → Except StorageError (Option Roster) × σ
  /-- Notes who deleted a message for everyone. -/
  markDeleted : MessageId → RecipientId → σ → Except StorageError Unit × σ
  /-- Notes that the service no longer knows a recipient; answers whether this is news. -/
  markGone : RecipientId → σ → Except StorageError Bool × σ

instance : MessageKeeper Storage where
  isRegistered storage := (storage.isRegistered, storage)
  selfId storage := (storage.selfId, storage)
  message id storage := (storage.message id, storage)
  conversation id storage := (storage.conversation id, storage)
  recipient id storage := (storage.recipient id, storage)
  group id storage := (storage.group id, storage)
  markDeleted := Storage.markDeleted
  markGone := Storage.markGone

/-- The event for a recipient that is newly marked as gone. -/
def goneEvent (id : RecipientId) : LogEvent :=
  .info "marking recipient unregistered" [("recipient_id", id.text)]

end Mailroom
