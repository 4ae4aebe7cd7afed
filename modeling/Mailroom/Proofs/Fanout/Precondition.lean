import Mailroom.Fanout.Precondition
import Mailroom.Proofs.Storage.Archive

/-!
# What the preconditions ask of an archive

Over storage a check of the conditions changes nothing, and its answer is read off the archive.
`targetIn` is that answer; `Answers` relates the two, step by step. Marks of recipients do not
change the answer.
-/

namespace Mailroom.Fanout

/-- Something that must be there, or the condition that is not met. -/
def need {α : Type} (condition : Precondition) : Option α → Except Halt α
  | some value => .ok value
  | none => .error (.unmet condition)

/-- The target of a delete, or the first reason in an archive against sending it. -/
def targetIn (target : MessageId) (archive : Archive) : Except Halt Target := do
  need .registered (if archive.registered then some () else none)
  let message ← need .messageKnown (archive.messages.get? target)
  let author ← need .authorAddressable (archive.recipients.get? message.sender)
  let serviceId ← need .authorAddressable author.serviceId
  let conversation ← need .conversationKnown (archive.conversation? message.threadId)
  let groupId ← need .v2Group (conversation.groupId?.filter GroupId.isV2)
  let roster ← need .groupKnown (archive.groups.get? groupId)
  let self ← archive.selfId?.mapError Halt.storage
  need .admin (if roster.isAdmin self then some () else none)
  pure ⟨groupId, ⟨serviceId, message.dateSent⟩⟩

/-- Something that was looked up, or the answer that it is not there. -/
def foundOr {α : Type} (kind id : String) : Option α → Except StorageError α
  | some value => .ok value
  | none => .error (.notFound kind id)

/-- On an archive that can be read, a check answers as said and changes nothing. -/
def Answers {α : Type} (archive : Archive) (check : Check Storage α) (answer : Except Halt α) :
    Prop :=
  check (⟨archive, false⟩ : Storage) = (answer, ⟨archive, false⟩)

namespace Answers

variable {α β : Type} {archive : Archive}

/-- Checks one after the other answer one after the other. -/
theorem bind {check : Check Storage α} {next : α → Check Storage β} {answer : Except Halt α}
    {later : α → Except Halt β} (first : Answers archive check answer)
    (second : ∀ value, Answers archive (next value) (later value)) :
    Answers archive (check >>= next) (answer >>= later) := by
  show (match check _ with | (answer, state) => ExceptT.bindCont next answer state) = _
  rw [show check _ = _ from first]
  cases answer with
  | error halt => rfl
  | ok value => exact second value

/-- A demand answers with what is there. -/
theorem demand (condition : Precondition) (value : Option α) :
    Answers archive (demand condition value) (need condition value) := by
  cases value <;> rfl

/-- A question about what must be there answers with what is there. -/
theorem askFor {condition : Precondition} {question : Storage → Except StorageError α × Storage}
    {found : Option α} {kind id : String}
    (asked : question ⟨archive, false⟩ = (foundOr kind id found, ⟨archive, false⟩)) :
    Answers archive (askFor condition question) (need condition found) := by
  unfold Answers Fanout.askFor
  rw [asked]
  cases found <;> rfl

/-- A question answers with its answer, and one that is refused halts. -/
theorem ask {question : Storage → Except StorageError α × Storage} {answer : Except StorageError α}
    (asked : question ⟨archive, false⟩ = (answer, ⟨archive, false⟩)) :
    Answers archive (ask question) (answer.mapError Halt.storage) := by
  unfold Answers Fanout.ask
  rw [asked]
  cases answer <;> rfl

/-- What comes after a question that is not refused goes on with its answer. -/
theorem ask_bind {question : Storage → Except StorageError α × Storage} (answer : α)
    {next : α → Check Storage β} {later : Except Halt β}
    (asked : question ⟨archive, false⟩ = (.ok answer, ⟨archive, false⟩))
    (second : Answers archive (next answer) later) :
    Answers archive (Fanout.ask question >>= next) later := by
  show (match Fanout.ask question _ with
    | (answer, state) => ExceptT.bindCont next answer state) = _
  rw [Fanout.ask, asked]
  exact second

end Answers

/-- Storage that can be read gives a message of its archive. -/
theorem message_of_archive (id : MessageId) (archive : Archive) :
    MessageKeeper.message id (⟨archive, false⟩ : Storage) =
      (foundOr "message" id.text (archive.messages.get? id), ⟨archive, false⟩) := by
  show (archive.message? id, _) = _
  rw [Archive.message?]
  cases archive.messages.get? id <;> rfl

/-- Storage that can be read gives a recipient of its archive. -/
theorem recipient_of_archive (id : RecipientId) (archive : Archive) :
    MessageKeeper.recipient id (⟨archive, false⟩ : Storage) =
      (foundOr "recipient" id.text (archive.recipients.get? id), ⟨archive, false⟩) := by
  show (archive.recipient? id, _) = _
  rw [Archive.recipient?]
  cases archive.recipients.get? id <;> rfl

/-- Over an archive that can be read, the check of all conditions answers `targetIn`. -/
theorem checkTarget_answers (target : MessageId) (archive : Archive) :
    Answers archive (checkTarget target) (targetIn target archive) := by
  refine .ask_bind archive.registered rfl ?_
  refine .bind (.demand _ _) fun _ => ?_
  refine .bind (.askFor (message_of_archive target archive)) fun message => ?_
  refine .bind (.askFor (recipient_of_archive message.sender archive)) fun author => ?_
  refine .bind (.demand _ _) fun serviceId => ?_
  refine .ask_bind (archive.conversation? message.threadId) rfl ?_
  refine .bind (.demand _ _) fun conversation => ?_
  refine .bind (.demand _ _) fun groupId => ?_
  refine .ask_bind (archive.groups.get? groupId) rfl ?_
  refine .bind (.demand _ _) fun roster => ?_
  refine .bind (.ask rfl) fun self => ?_
  exact .bind (.demand _ _) fun _ => rfl

/-- Marks of recipients change nothing that the conditions ask for. -/
theorem targetIn_markAll (target : MessageId) (ids : List RecipientId) (archive : Archive) :
    targetIn target (archive.markAll ids) = targetIn target archive := by
  have known := archive.get?_markAll ids
  obtain ⟨recipients, marks, marked⟩ := archive.markAll_frame ids
  rw [marked] at known ⊢
  unfold targetIn Archive.conversation? Archive.selfId?
  simp only [known]
  refine bind_congr fun _ => bind_congr fun message => ?_
  cases archive.recipients.get? message.sender with
  | none => rfl
  | some author =>
    show (need _ (if message.sender ∈ ids then author.gone else author).serviceId >>= _) =
      (need _ author.serviceId >>= _)
    rw [Recipient.serviceId_gone_or]
    refine bind_congr fun serviceId => ?_
    cases archive.threads.get? message.threadId with
    | none => rfl
    | some thread =>
      cases found : archive.recipients.get? thread.recipientId with
      | none =>
        rw [Option.bind_some, Option.bind_some, found]
        rfl
      | some conversation =>
        rw [Option.bind_some, Option.bind_some, found]
        show (need _ (Option.filter _ (Recipient.groupId? (if thread.recipientId ∈ ids then
          conversation.gone else conversation))) >>= _) = _
        rw [Recipient.groupId?_gone_or]
        rfl

/-- Poisoned storage halts every check. -/
theorem checkTarget_poisoned (target : MessageId) (archive : Archive) :
    checkTarget target (⟨archive, true⟩ : Storage) =
      (.error (.storage .poisoned), ⟨archive, true⟩) := by
  rfl

end Mailroom.Fanout
