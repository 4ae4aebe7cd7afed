import Mailroom.Storage.Keeper

/-!
# Storage that can be out of reach

Storage behind a line that can be told to fail. Every kind of call has its own count of failures
still to come; a call that fails never reaches the storage.
-/

namespace Mailroom.Rehearsal

/-- A kind of call to message storage. -/
inductive StorageCall where
  | isRegistered
  | selfId
  | message
  | markDeleted
  | conversation
  | updateThread
  | updateThreads
  | recipient
  | markGone
  | group
  deriving DecidableEq

namespace StorageCall

/-- All kinds of calls. -/
def all : List StorageCall :=
  [.isRegistered, .selfId, .message, .markDeleted, .conversation, .updateThread, .updateThreads,
   .recipient, .markGone, .group]

/-- The name of a call in reports. -/
def name : StorageCall → String
  | .isRegistered => "is_registered"
  | .selfId => "self_id"
  | .message => "message_record"
  | .markDeleted => "mark_deleted_by"
  | .conversation => "recipient_for_thread"
  | .updateThread => "update_thread"
  | .updateThreads => "update_threads"
  | .recipient => "recipient"
  | .markGone => "mark_unregistered"
  | .group => "group"

/-- The call of a name. -/
def ofName? (name : String) : Option StorageCall := all.find? fun call => call.name = name

/-- How a call fails that is told to. -/
def failure (call : StorageCall) : StorageError := .backend ("injected " ++ call.name)

end StorageCall

/-- Storage that can be told to be out of reach. -/
structure RemoteStorage where
  storage : Storage := .empty
  /-- How many of the next calls of each kind fail. -/
  failures : Tally StorageCall := Table.empty

namespace RemoteStorage

/-- Has the next calls of one kind fail. -/
def failNext (call : StorageCall) (times : Nat) (remote : RemoteStorage) : RemoteStorage :=
  { remote with failures := Ledger.put remote.failures call times }

/-- Whether a call reaches the storage; if not, one failure less is to come. -/
def reach (call : StorageCall) (remote : RemoteStorage) : Bool × RemoteStorage :=
  match Tally.count remote.failures call with
  | 0 => (true, remote)
  | times + 1 => (false, remote.failNext call times)

/-- A call that answers or refuses. -/
def ask {α : Type} (call : StorageCall)
    (question : Storage → Except StorageError α × Storage) (remote : RemoteStorage) :
    Except StorageError α × RemoteStorage :=
  match remote.reach call with
  | (false, remote) => (.error call.failure, remote)
  | (true, remote) =>
    let (answer, storage) := question remote.storage
    (answer, { remote with storage := storage })

/-- A call that may crash. -/
def askRisky {α : Type} (call : StorageCall)
    (question : Storage → Except (Fault StorageError) α × Storage) (remote : RemoteStorage) :
    Except (Fault StorageError) α × RemoteStorage :=
  match remote.reach call with
  | (false, remote) => (.error (.error call.failure), remote)
  | (true, remote) =>
    let (answer, storage) := question remote.storage
    (answer, { remote with storage := storage })

/-- Moves one thread to the top. -/
def updateThread (id : ThreadId) (unarchive : Bool) :
    RemoteStorage → Except (Fault StorageError) Unit × RemoteStorage :=
  askRisky .updateThread (Storage.updateThread id unarchive)

/-- Moves threads to the top together. -/
def updateThreads (ids : List ThreadId) (unarchive : Bool) :
    RemoteStorage → Except (Fault StorageError) Unit × RemoteStorage :=
  askRisky .updateThreads (Storage.updateThreads ids unarchive)

end RemoteStorage

instance : MessageKeeper RemoteStorage where
  isRegistered := RemoteStorage.ask .isRegistered MessageKeeper.isRegistered
  selfId := RemoteStorage.ask .selfId MessageKeeper.selfId
  message id := RemoteStorage.ask .message (MessageKeeper.message id)
  conversation id := RemoteStorage.ask .conversation (MessageKeeper.conversation id)
  recipient id := RemoteStorage.ask .recipient (MessageKeeper.recipient id)
  group id := RemoteStorage.ask .group (MessageKeeper.group id)
  markDeleted id deleter := RemoteStorage.ask .markDeleted (MessageKeeper.markDeleted id deleter)
  markGone id := RemoteStorage.ask .markGone (MessageKeeper.markGone id)

end Mailroom.Rehearsal
