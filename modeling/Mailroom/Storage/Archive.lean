import Mailroom.Conversation.Message
import Mailroom.Conversation.Recipient
import Mailroom.Conversation.Roster
import Mailroom.Conversation.Thread
import Mailroom.Fault
import Mailroom.Storage.Error
import Mailroom.Table

/-!
# The archive

The archive holds what is known locally of recipients, groups, threads and messages. A thread
that gets a new message moves to the top of the thread list: it takes the next position, which
lies above every position in use. Positions are words of 64 bits, and an operation that needs a
position past the last one crashes. What the operation had changed by then stays changed.

The archive also counts how often threads were moved, recipients were marked as gone, and groups
of threads were moved together.
-/

namespace Mailroom

/-- The local records of a messenger. -/
structure Archive where
  /-- Whether the local account is registered at the service. -/
  registered : Bool
  /-- The recipient that stands for the local account. -/
  selfId : Option RecipientId
  recipients : Table Recipient.id
  groups : Table Roster.id
  threads : Table Thread.id
  messages : Table Message.id
  /-- The position for the next thread that is moved to the top. -/
  nextPosition : UInt64
  /-- How often each thread was moved to the top. Every move takes a position, so no count outgrows
  the 64 bits of a position. -/
  moves : Tally ThreadId
  /-- How often each recipient was marked as gone. A machine counts in 64 bits, which no run lasts
  long enough to use up, so the count has no bound here. -/
  marks : Tally RecipientId
  /-- How often threads were moved together. It has no bound here, as for the marks. -/
  transactions : Nat
  deriving DecidableEq

namespace Archive

/-- An archive without records. -/
def empty : Archive where
  registered := false
  selfId := none
  recipients := .empty
  groups := .empty
  threads := .empty
  messages := .empty
  nextPosition := 0
  moves := Table.empty
  marks := Table.empty
  transactions := 0

instance : Inhabited Archive := ⟨empty⟩

/-- A position one higher, if there is one. -/
def successor? (position : UInt64) : Option UInt64 :=
  if position.toNat + 1 < UInt64.size then some (position + 1) else none

/-- Registers the local account. -/
def registerSelf (recipient : Recipient) (archive : Archive) : Archive :=
  { archive with
    registered := true
    selfId := some recipient.id
    recipients := archive.recipients.insert recipient.asSelf }

/-- Says whether the local account is registered. -/
def setRegistered (registered : Bool) (archive : Archive) : Archive :=
  { archive with registered := registered }

/-- Files a recipient. -/
def insertRecipient (recipient : Recipient) (archive : Archive) : Archive :=
  { archive with recipients := archive.recipients.insert recipient }

/-- Files the state of a group. -/
def insertGroup (roster : Roster) (archive : Archive) : Archive :=
  { archive with groups := archive.groups.insert roster }

/-- Forgets the state of a group. -/
def removeGroup (id : GroupId) (archive : Archive) : Archive :=
  { archive with groups := archive.groups.erase id }

/-- Files a thread, and keeps the next position above it. -/
def insertThread (thread : Thread) (archive : Archive) : Except Crash Unit × Archive :=
  match successor? thread.position with
  | none => (.error .counterOverflow, archive)
  | some above =>
    (.ok (),
      { archive with
        nextPosition := max archive.nextPosition above
        threads := archive.threads.insert thread })

/-- Forgets a thread. -/
def removeThread (id : ThreadId) (archive : Archive) : Archive :=
  { archive with threads := archive.threads.erase id }

/-- Files a message. -/
def insertMessage (message : Message) (archive : Archive) : Archive :=
  { archive with messages := archive.messages.insert message }

/-- A thread, if it is on file. -/
def thread? (id : ThreadId) (archive : Archive) : Option Thread := archive.threads.get? id

/-- How often a thread was moved to the top. -/
def moveCount (id : ThreadId) (archive : Archive) : Nat := archive.moves.count id

/-- How often a recipient was marked as gone. -/
def markCount (id : RecipientId) (archive : Archive) : Nat := archive.marks.count id

/-- The recipient that stands for the local account. -/
def selfId? (archive : Archive) : Except StorageError RecipientId :=
  match archive.selfId with
  | some id => .ok id
  | none => .error (.notFound "self recipient" "local account")

/-- A message. -/
def message? (id : MessageId) (archive : Archive) : Except StorageError Message :=
  match archive.messages.get? id with
  | some message => .ok message
  | none => .error (.notFound "message" id.text)

/-- A recipient. -/
def recipient? (id : RecipientId) (archive : Archive) : Except StorageError Recipient :=
  match archive.recipients.get? id with
  | some recipient => .ok recipient
  | none => .error (.notFound "recipient" id.text)

/-- The recipient that a thread is with, if both are known. -/
def conversation? (id : ThreadId) (archive : Archive) : Option Recipient :=
  (archive.threads.get? id).bind fun thread => archive.recipients.get? thread.recipientId

/-- Notes who deleted a message for everyone. -/
def markDeleted (id : MessageId) (deleter : RecipientId) (archive : Archive) :
    Except StorageError Unit × Archive :=
  match archive.messages.get? id with
  | none => (.error (.notFound "message" id.text), archive)
  | some message =>
    (.ok (),
      { archive with
        messages := archive.messages.insert { message with deletedBy := some deleter } })

/-- Notes that the service no longer knows a recipient. The answer is whether this is news. -/
def markGone (id : RecipientId) (archive : Archive) : Except StorageError Bool × Archive :=
  match archive.recipients.get? id with
  | none => (.error (.notFound "recipient" id.text), archive)
  | some recipient =>
    (.ok (decide (recipient.registered ≠ .notRegistered)),
      { archive with
        recipients := archive.recipients.insert { recipient with registered := .notRegistered }
        marks := archive.marks.add id })

/-- Moves a thread to the top. The thread takes its place before the next position is raised, so a
position without successor is taken by the thread that crashes on it. A thread that is not there
is passed over. -/
def moveToTop (unarchive : Bool) (id : ThreadId) (archive : Archive) :
    Except Crash Unit × Archive :=
  match archive.threads.get? id with
  | none => (.ok (), archive)
  | some thread =>
    let placed := { archive with
      threads := archive.threads.insert
        { thread with
          archived := thread.archived && !unarchive
          position := archive.nextPosition } }
    match successor? archive.nextPosition with
    | none => (.error .counterOverflow, placed)
    | some next => (.ok (), { placed with nextPosition := next, moves := placed.moves.add id })

/-- Moves threads to the top one after another, until one crashes. -/
def moveAllToTop (unarchive : Bool) : List ThreadId → Archive → Except Crash Unit × Archive
  | [], archive => (.ok (), archive)
  | id :: rest, archive =>
    match moveToTop unarchive id archive with
    | (.ok (), archive) => moveAllToTop unarchive rest archive
    | crashed => crashed

/-- Moves one thread to the top. -/
def updateThread (id : ThreadId) (unarchive : Bool) (archive : Archive) :
    Except (Fault StorageError) Unit × Archive :=
  if archive.threads.contains id then
    let (answer, archive) := moveToTop unarchive id archive
    (answer.mapError Fault.crash, archive)
  else (.error (.error (.notFound "thread" id.text)), archive)

/-- Moves threads to the top together. A thread that is not there leaves everything as it was. -/
def updateThreads (ids : List ThreadId) (unarchive : Bool) (archive : Archive) :
    Except (Fault StorageError) Unit × Archive :=
  match ids.find? fun id => !archive.threads.contains id with
  | some missing => (.error (.error (.notFound "thread" missing.text)), archive)
  | none =>
    match moveAllToTop unarchive ids archive with
    | (.ok (), archive) => (.ok (), { archive with transactions := archive.transactions + 1 })
    | (.error cause, archive) => (.error (.crash cause), archive)

end Archive

end Mailroom
