import Mailroom.Proofs.Storage.Consulted
import Mailroom.Proofs.Table
import Mailroom.Rehearsal.Storage

/-!
# Directories

Storage looks recipients up in a directory: who is found carries the identifier that was asked for,
who is said to be missing is not on file, and looking somebody up changes nothing about who is.
Storage may refuse any lookup for another reason. `Directory` states this of any state that keeps
messages; storage behind a lock, storage that can be out of reach and storage that is consulted have
one.
-/

namespace Mailroom

/-- What a state that keeps messages has on file of recipients. -/
class Directory (σ : Type) [MessageKeeper σ] where
  /-- The recipient on file under an identifier. -/
  onFile : σ → RecipientId → Option Recipient
  /-- Recipients are filed under their own identifiers. -/
  id_of_onFile : ∀ {storage id recipient}, onFile storage id = some recipient → recipient.id = id
  /-- Who is found is on file. -/
  found : ∀ {storage id recipient},
    (MessageKeeper.recipient id storage).1 = .ok recipient → onFile storage id = some recipient
  /-- Who is missing is not on file. -/
  missing : ∀ {storage id error}, (MessageKeeper.recipient id storage).1 = .error error →
    error.isNotFound = true → onFile storage id = none
  /-- Looking somebody up leaves everybody on file. -/
  kept : ∀ storage id, onFile (MessageKeeper.recipient id storage).2 = onFile storage

/-- Storage behind a lock has a directory. -/
instance : Directory Storage where
  onFile storage := storage.value.recipients.get?
  id_of_onFile found := Table.key_of_get? found
  found {storage id recipient} answered := by
    obtain ⟨archive, poisoned⟩ := storage
    cases poisoned with
    | true => cases answered
    | false =>
      change archive.recipient? id = .ok recipient at answered
      show archive.recipients.get? id = some recipient
      cases filed : archive.recipients.get? id with
      | none =>
        rw [Archive.recipient?, filed] at answered
        cases answered
      | some other =>
        rw [Archive.recipient?, filed] at answered
        cases answered
        rfl
  missing {storage id error} answered absent := by
    obtain ⟨archive, poisoned⟩ := storage
    cases poisoned with
    | true =>
      cases answered
      cases absent
    | false =>
      change archive.recipient? id = .error error at answered
      show archive.recipients.get? id = none
      cases filed : archive.recipients.get? id with
      | none => rfl
      | some other =>
        rw [Archive.recipient?, filed] at answered
        cases answered
  kept _ _ := rfl

namespace Rehearsal.RemoteStorage

/-- A call reaches the storage or fails on the way, and then the storage is as it was. -/
theorem ask_cases {α : Type} (call : StorageCall)
    (question : Storage → Except StorageError α × Storage) (remote : RemoteStorage) :
    ((remote.ask call question).1 = (question remote.storage).1 ∧
        (remote.ask call question).2.storage = (question remote.storage).2) ∨
      (remote.ask call question).1 = .error call.failure ∧
        (remote.ask call question).2.storage = remote.storage := by
  unfold ask reach
  cases Tally.count remote.failures call with
  | zero => exact .inl ⟨rfl, rfl⟩
  | succ times => exact .inr ⟨rfl, rfl⟩

end Rehearsal.RemoteStorage

/-- Storage that can be out of reach has the directory of the storage behind the line. -/
instance : Directory Rehearsal.RemoteStorage where
  onFile remote := Directory.onFile remote.storage
  id_of_onFile := Directory.id_of_onFile
  found {remote id recipient} answered := by
    rcases remote.ask_cases .recipient (MessageKeeper.recipient id) with ⟨same, -⟩ | ⟨failed, -⟩
    · exact Directory.found (same.symm.trans answered)
    · cases failed.symm.trans answered
  missing {remote id error} answered absent := by
    rcases remote.ask_cases .recipient (MessageKeeper.recipient id) with ⟨same, -⟩ | ⟨failed, -⟩
    · exact Directory.missing (same.symm.trans answered) absent
    · cases failed.symm.trans answered
      cases absent
  kept remote id := by
    show Directory.onFile (remote.ask .recipient (MessageKeeper.recipient id)).2.storage =
      Directory.onFile remote.storage
    rcases remote.ask_cases .recipient (MessageKeeper.recipient id) with ⟨-, same⟩ | ⟨-, same⟩
    · rw [same]
      exact Directory.kept remote.storage id
    · rw [same]

/-- Storage that is consulted has the directory of the storage inside. -/
instance {σ : Type} [MessageKeeper σ] [Directory σ] : Directory (Consulted σ) where
  onFile consulted := Directory.onFile consulted.storage
  id_of_onFile := Directory.id_of_onFile
  found answered := Directory.found answered
  missing answered absent := Directory.missing answered absent
  kept consulted id := Directory.kept consulted.storage id

end Mailroom
