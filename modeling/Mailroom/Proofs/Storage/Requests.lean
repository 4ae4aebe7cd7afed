import Mailroom.Proofs.Storage.Threads

/-!
# What storage can be asked

A `Request` is anything that storage can be asked, and `serveAll` answers requests that come one
after another. Only whether a request is answered counts here, and not what is read.

Whatever is asked, crashes included, the next position never falls, and a thread is counted as moved
at most as often as positions were taken: `serveAll_advance`. So no count of moves outgrows the
64 bits of a position. Storage that a crash has left half done refuses all that follows:
`serveAll_poisoned`.
-/

namespace Mailroom

namespace Guarded

variable {α β ε : Type} {guarded : Guarded α} {refusal : ε}

/-- A write leaves the value as it was, or as its change leaves it. -/
theorem value_write {change : α → Except ε β × α} {kept : α → Prop} (before : kept guarded.value)
    (step : kept (change guarded.value).2) : kept (guarded.write refusal change).2.value := by
  unfold write
  by_cases poisoned : guarded.poisoned = true
  · rw [if_pos poisoned]
    exact before
  · rw [if_neg poisoned]
    exact step

/-- A risky write leaves the value as it was, or as its change leaves it. -/
theorem value_writeRisky {change : α → Except (Fault ε) β × α} {kept : α → Prop}
    (before : kept guarded.value) (step : kept (change guarded.value).2) :
    kept (guarded.writeRisky refusal change).2.value := by
  unfold writeRisky
  by_cases poisoned : guarded.poisoned = true
  · rw [if_pos poisoned]
    exact before
  · rw [if_neg poisoned]
    rcases made : change guarded.value with ⟨(reason | cause) | answer, value⟩
    · rw [made] at step
      exact step
    · rw [made] at step
      exact step
    · rw [made] at step
      exact step

end Guarded

namespace Archive

/-- How an archive goes on: the next position does not fall, and no thread is counted as moved more
often than positions were taken. -/
structure Advance (before after : Archive) : Prop where
  position : before.nextPosition ≤ after.nextPosition
  counted : ∀ id, after.moveCount id + before.nextPosition.toNat ≤
    before.moveCount id + after.nextPosition.toNat

namespace Advance

variable {before between after archive : Archive}

/-- Nothing goes on where positions and counts stay. -/
theorem of_eq (position : after.nextPosition = before.nextPosition)
    (moves : after.moves = before.moves) : Advance before after := by
  refine ⟨UInt64.le_of_eq position.symm, fun id => ?_⟩
  rw [moveCount, moves, position]
  exact Nat.le_refl _

theorem refl (archive : Archive) : Advance archive archive := .of_eq rfl rfl

theorem trans (first : Advance before between) (second : Advance between after) :
    Advance before after := by
  refine ⟨UInt64.le_trans first.position second.position, fun id => ?_⟩
  have early := first.counted id
  have late := second.counted id
  omega

/-- Moving a thread goes on, even if it crashes. -/
theorem moveToTop (unarchive : Bool) (id : ThreadId) (archive : Archive) :
    Advance archive (Archive.moveToTop unarchive id archive).2 := by
  unfold Archive.moveToTop
  cases archive.threads.get? id with
  | none => exact .refl archive
  | some thread =>
    unfold successor?
    by_cases room : archive.nextPosition.toNat + 1 < UInt64.size
    · have next : (archive.nextPosition + 1).toNat = archive.nextPosition.toNat + 1 := by
        rw [UInt64.toNat_add]
        exact Nat.mod_eq_of_lt room
      simp only [if_pos room]
      refine ⟨?_, fun other => ?_⟩
      · rw [UInt64.le_iff_toNat_le, next]
        omega
      · show (archive.moves.add id).count other + archive.nextPosition.toNat ≤
          archive.moves.count other + (archive.nextPosition + 1).toNat
        rw [Tally.count_add, next]
        split <;> omega
    · -- The thread has taken its place, but no position is used up and no move is counted.
      simp only [if_neg room]
      exact .of_eq rfl rfl

/-- Moving threads goes on, even if it crashes. -/
theorem moveAllToTop (unarchive : Bool) (ids : List ThreadId) (archive : Archive) :
    Advance archive (Archive.moveAllToTop unarchive ids archive).2 := by
  induction ids generalizing archive with
  | nil => exact .refl archive
  | cons id rest ih =>
    have first := moveToTop unarchive id archive
    rw [Archive.moveAllToTop]
    rcases made : Archive.moveToTop unarchive id archive with ⟨cause | moved, between⟩
    · rw [made] at first
      exact first
    · rw [made] at first
      exact first.trans (ih between)

/-- Filing a thread goes on. -/
theorem insertThread (thread : Thread) (archive : Archive) :
    Advance archive (archive.insertThread thread).2 := by
  unfold Archive.insertThread
  cases successor? thread.position with
  | none => exact .refl archive
  | some above =>
    have raised : archive.nextPosition ≤ max archive.nextPosition above := by
      show archive.nextPosition ≤
        if archive.nextPosition ≤ above then above else archive.nextPosition
      split
      · assumption
      · exact UInt64.le_refl _
    refine ⟨raised, fun id => ?_⟩
    rw [UInt64.le_iff_toNat_le] at raised
    exact Nat.add_le_add_left raised _

theorem updateThread (id : ThreadId) (unarchive : Bool) (archive : Archive) :
    Advance archive (archive.updateThread id unarchive).2 := by
  unfold Archive.updateThread
  split
  · exact moveToTop unarchive id archive
  · exact .refl archive

theorem updateThreads (ids : List ThreadId) (unarchive : Bool) (archive : Archive) :
    Advance archive (archive.updateThreads ids unarchive).2 := by
  unfold Archive.updateThreads
  cases ids.find? fun id => !archive.threads.contains id with
  | some missing => exact .refl archive
  | none =>
    have moved := moveAllToTop unarchive ids archive
    rcases made : Archive.moveAllToTop unarchive ids archive with ⟨cause | answer, after⟩
    · rw [made] at moved
      exact moved
    · rw [made] at moved
      exact moved.trans (.of_eq rfl rfl)

end Advance

end Archive

namespace Storage

/-- Anything that storage can be asked. -/
inductive Request where
  | registerSelf (recipient : Recipient)
  | setRegistered (registered : Bool)
  | insertRecipient (recipient : Recipient)
  | insertGroup (roster : Roster)
  | removeGroup (id : GroupId)
  | insertThread (thread : Thread)
  | removeThread (id : ThreadId)
  | insertMessage (message : Message)
  | thread (id : ThreadId)
  | moveCount (id : ThreadId)
  | markCount (id : RecipientId)
  | transactions
  | isRegistered
  | selfId
  | message (id : MessageId)
  | markDeleted (id : MessageId) (deleter : RecipientId)
  | conversation (id : ThreadId)
  | updateThread (id : ThreadId) (unarchive : Bool)
  | updateThreads (ids : List ThreadId) (unarchive : Bool)
  | recipient (id : RecipientId)
  | markGone (id : RecipientId)
  | group (id : GroupId)

/-- An answer without what was asked for. -/
def plain {α : Type} : Except StorageError α → Except (Fault StorageError) Unit
  | .ok _ => .ok ()
  | .error reason => .error (.error reason)

/-- Answers a request. -/
def serve (request : Request) (storage : Storage) : Except (Fault StorageError) Unit × Storage :=
  match request with
  | .registerSelf recipient =>
    let (answer, after) := storage.change (Archive.registerSelf recipient)
    (plain answer, after)
  | .setRegistered registered =>
    let (answer, after) := storage.change (Archive.setRegistered registered)
    (plain answer, after)
  | .insertRecipient recipient =>
    let (answer, after) := storage.change (Archive.insertRecipient recipient)
    (plain answer, after)
  | .insertGroup roster =>
    let (answer, after) := storage.change (Archive.insertGroup roster)
    (plain answer, after)
  | .removeGroup id =>
    let (answer, after) := storage.change (Archive.removeGroup id)
    (plain answer, after)
  | .insertThread thread => storage.insertThread thread
  | .removeThread id =>
    let (answer, after) := storage.change (Archive.removeThread id)
    (plain answer, after)
  | .insertMessage message =>
    let (answer, after) := storage.change (Archive.insertMessage message)
    (plain answer, after)
  | .thread id => (plain (storage.look (Archive.thread? id)), storage)
  | .moveCount id => (plain (storage.look (Archive.moveCount id)), storage)
  | .markCount id => (plain (storage.look (Archive.markCount id)), storage)
  | .transactions => (plain (storage.look Archive.transactions), storage)
  | .isRegistered => (plain storage.isRegistered, storage)
  | .selfId => (plain storage.selfId, storage)
  | .message id => (plain (storage.message id), storage)
  | .markDeleted id deleter =>
    let (answer, after) := storage.markDeleted id deleter
    (plain answer, after)
  | .conversation id => (plain (storage.conversation id), storage)
  | .updateThread id unarchive => storage.updateThread id unarchive
  | .updateThreads ids unarchive => storage.updateThreads ids unarchive
  | .recipient id => (plain (storage.recipient id), storage)
  | .markGone id =>
    let (answer, after) := storage.markGone id
    (plain answer, after)
  | .group id => (plain (storage.group id), storage)

/-- Answers requests that come one after another. -/
def serveAll : List Request → Storage → List (Except (Fault StorageError) Unit) × Storage
  | [], storage => ([], storage)
  | request :: rest, storage =>
    let (answer, after) := serve request storage
    let (answers, last) := serveAll rest after
    (answer :: answers, last)

/-- Storage that a crash has left half done refuses whatever it is asked and stays as it is. -/
theorem serve_poisoned {storage : Storage} (poisoned : storage.poisoned = true)
    (request : Request) : serve request storage = (.error (.error .poisoned), storage) := by
  cases request with
  | registerSelf | setRegistered | insertRecipient | insertGroup | removeGroup | removeThread
  | insertMessage =>
    simp only [serve, change, Guarded.write_poisoned _ _ poisoned, plain]
  | markDeleted | markGone =>
    simp only [serve, markDeleted, markGone, Guarded.write_poisoned _ _ poisoned, plain]
  | insertThread | updateThread | updateThreads =>
    simp only [serve, insertThread, updateThread, updateThreads,
      Guarded.writeRisky_poisoned _ _ poisoned]
  | thread | moveCount | markCount | transactions | isRegistered | conversation | group =>
    simp only [serve, isRegistered, conversation, group, look, Guarded.read, poisoned, if_true,
      plain]
  | selfId | message | recipient =>
    simp only [serve, selfId, message, recipient, Guarded.read, poisoned, if_true, plain]

/-- Storage that a crash has left half done refuses all that follows. -/
theorem serveAll_poisoned {storage : Storage} (poisoned : storage.poisoned = true)
    (requests : List Request) :
    serveAll requests storage =
      (List.replicate requests.length (.error (.error .poisoned)), storage) := by
  induction requests with
  | nil => rfl
  | cons request rest ih =>
    rw [serveAll, serve_poisoned poisoned request]
    simp only [ih, List.length_cons, List.replicate_succ]

/-- Where no crash has left storage half done after some requests, none had after the first. -/
theorem sound_of_serveAll {request : Request} {rest : List Request} {storage : Storage}
    (sound : (serveAll (request :: rest) storage).2.poisoned = false) :
    (serve request storage).2.poisoned = false := by
  rw [← Bool.not_eq_true]
  intro poisoned
  have refused := serveAll_poisoned poisoned rest
  have last : (serveAll (request :: rest) storage).2 =
    (serveAll rest (serve request storage).2).2 := rfl
  rw [last, refused, poisoned] at sound
  cases sound

/-- What storage becomes when it is used from the start, further requests make of it too. -/
theorem Reachable.serve {storage : Storage} (reached : storage.Reachable) (request : Request) :
    (Storage.serve request storage).2.Reachable := by
  cases request with
  | registerSelf recipient => exact reached.registerSelf recipient
  | setRegistered registered => exact reached.setRegistered registered
  | insertRecipient recipient => exact reached.insertRecipient recipient
  | insertGroup roster => exact reached.insertGroup roster
  | removeGroup id => exact reached.removeGroup id
  | insertThread thread => exact reached.insertThread thread
  | removeThread id => exact reached.removeThread id
  | insertMessage message => exact reached.insertMessage message
  | markDeleted id deleter => exact reached.markDeleted id deleter
  | updateThread id unarchive => exact reached.updateThread id unarchive
  | updateThreads ids unarchive => exact reached.updateThreads ids unarchive
  | markGone id => exact reached.markGone id
  | thread | moveCount | markCount | transactions | isRegistered | selfId | message | conversation
  | recipient | group => exact reached

/-- Whatever is asked of storage from the start, it becomes what it can become. -/
theorem Reachable.serveAll {storage : Storage} (reached : storage.Reachable)
    (requests : List Request) : (Storage.serveAll requests storage).2.Reachable := by
  induction requests generalizing storage with
  | nil => exact reached
  | cons request rest ih => exact ih (reached.serve request)

/-- A change of the archive that goes on does so behind the lock. -/
theorem change_advance {edit : Archive → Archive} {storage : Storage}
    (step : storage.value.Advance (edit storage.value)) :
    storage.value.Advance (storage.change edit).2.value :=
  Guarded.value_write (.refl storage.value) step

/-- Noting who deleted a message goes on. -/
theorem markDeleted_advance (id : MessageId) (deleter : RecipientId) (storage : Storage) :
    storage.value.Advance (storage.markDeleted id deleter).2.value := by
  have still := Archive.Advance.refl storage.value
  have step : storage.value.Advance (storage.value.markDeleted id deleter).2 := by
    unfold Archive.markDeleted
    cases storage.value.messages.get? id with
    | none => exact still
    | some message => exact .of_eq rfl rfl
  exact Guarded.value_write still step

/-- Marking a recipient goes on. -/
theorem markGone_advance (id : RecipientId) (storage : Storage) :
    storage.value.Advance (storage.markGone id).2.value := by
  have still := Archive.Advance.refl storage.value
  have step : storage.value.Advance (storage.value.markGone id).2 := by
    unfold Archive.markGone
    cases storage.value.recipients.get? id with
    | none => exact still
    | some recipient => exact .of_eq rfl rfl
  exact Guarded.value_write still step

/-- Answering a request goes on, even if it crashes. -/
theorem serve_advance (request : Request) (storage : Storage) :
    storage.value.Advance (serve request storage).2.value := by
  have still := Archive.Advance.refl storage.value
  cases request with
  | registerSelf | setRegistered | insertRecipient | insertGroup | removeGroup | removeThread
  | insertMessage => exact change_advance (.of_eq rfl rfl)
  | markDeleted id deleter => exact markDeleted_advance id deleter storage
  | markGone id => exact markGone_advance id storage
  | insertThread thread =>
    exact Guarded.value_writeRisky still (Archive.Advance.insertThread thread storage.value)
  | updateThread id unarchive =>
    exact Guarded.value_writeRisky still (Archive.Advance.updateThread id unarchive storage.value)
  | updateThreads ids unarchive =>
    exact Guarded.value_writeRisky still
      (Archive.Advance.updateThreads ids unarchive storage.value)
  | thread | moveCount | markCount | transactions | isRegistered | selfId | message | conversation
  | recipient | group => exact still

/-- Answering requests goes on. -/
theorem serveAll_advance (requests : List Request) (storage : Storage) :
    Archive.Advance storage.value (serveAll requests storage).2.value := by
  induction requests generalizing storage with
  | nil => exact .refl storage.value
  | cons request rest ih => exact (serve_advance request storage).trans (ih _)

end Storage

end Mailroom
