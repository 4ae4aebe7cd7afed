import Mailroom.Storage.Keeper

/-!
# Consulted storage

A consulted storage hands every question on to the storage inside and keeps what came of it, behind
what came of the questions before: something was found, nothing is on file, or the storage itself
was in trouble. That nothing is on file may be an empty answer or a refusal, as the question has it.
Changes are handed on as well; they ask nothing, so nothing of them is kept.
-/

namespace Mailroom

/-- A question about what is on file. -/
inductive Question where
  | registered
  | self
  | message (id : MessageId)
  | conversation (id : ThreadId)
  | recipient (id : RecipientId)
  | group (id : GroupId)
  deriving DecidableEq

/-- What came of a question. -/
inductive Finding where
  | found
  | missing
  | failed (reason : String)
  deriving DecidableEq

namespace Finding

variable {α : Type}

/-- What came of a question that is refused where nothing is on file. -/
def ofAnswer : Except StorageError α → Finding
  | .ok _ => .found
  | .error (.notFound _ _) => .missing
  | .error (.backend reason) => .failed reason

/-- What came of a question that is answered with nothing where nothing is on file. -/
def ofOptional : Except StorageError (Option α) → Finding
  | .ok none => .missing
  | answer => ofAnswer answer

/-- What comes of looking something up. -/
def ofFound (found : Option α) : Finding := if found.isSome then .found else .missing

end Finding

/-- A question that was asked, with what came of it. -/
structure Reading where
  question : Question
  finding : Finding
  deriving DecidableEq

/-- A storage and what came of the questions to it. -/
structure Consulted (σ : Type) where
  /-- The storage inside. -/
  storage : σ
  /-- What came of the questions so far, in order. -/
  readings : List Reading := []

namespace Consulted

variable {σ α : Type}

/-- Asks the storage inside and keeps what came of it. -/
def ask (question : Question) (finding : Except StorageError α → Finding)
    (read : σ → Except StorageError α × σ) (consulted : Consulted σ) :
    Except StorageError α × Consulted σ :=
  let (answer, storage) := read consulted.storage
  (answer, ⟨storage, consulted.readings ++ [⟨question, finding answer⟩]⟩)

/-- Changes the storage inside. -/
def change (write : σ → Except StorageError α × σ) (consulted : Consulted σ) :
    Except StorageError α × Consulted σ :=
  let (answer, storage) := write consulted.storage
  (answer, ⟨storage, consulted.readings⟩)

instance [MessageKeeper σ] : MessageKeeper (Consulted σ) where
  isRegistered := ask .registered .ofAnswer MessageKeeper.isRegistered
  selfId := ask .self .ofAnswer MessageKeeper.selfId
  message id := ask (.message id) .ofAnswer (MessageKeeper.message id)
  conversation id := ask (.conversation id) .ofOptional (MessageKeeper.conversation id)
  recipient id := ask (.recipient id) .ofAnswer (MessageKeeper.recipient id)
  group id := ask (.group id) .ofOptional (MessageKeeper.group id)
  markDeleted id deleter := change (MessageKeeper.markDeleted id deleter)
  markGone id := change (MessageKeeper.markGone id)

end Consulted

end Mailroom
