import Mailroom.Fanout.Run

/-!
# Scheduling a fan-out

Deleting a message for everyone is first noted locally; then a fan-out to all participants of the
conversation is handed to the scheduler. If the conversation is gone, the note stays and nothing
is sent.
-/

namespace Mailroom.Fanout

/-- How long a fan-out may still run after its creation. -/
def lifespan : Span := .ofSeconds 86400

/-- The scheduling of a fan-out: one at a time per conversation, only with a network, for a day
and as often as it takes. -/
def parametersFor (conversation : Recipient) : Job.Parameters where
  queue := some conversation.id.queueKey
  constraints := [Job.networkConstraint]
  lifespan := some lifespan
  limit := .unlimited
  retryPolicy := none

/-- A fan-out to all participants of a conversation. -/
def start (target : MessageId) (conversation : Recipient) : Fanout where
  progress :=
    { target := target
      remaining := conversation.participants
      initialCount := Progress.capped conversation.participants.length }
  parameters := parametersFor conversation

/-- A fan-out for a message, unless its conversation is gone. -/
def create {σ : Type} [MessageKeeper σ] (target : MessageId) (storage : σ) :
    Except StorageError (Option Fanout) × σ :=
  match MessageKeeper.message target storage with
  | (.error error, storage) => (.error error, storage)
  | (.ok message, storage) =>
    let (answer, storage) := MessageKeeper.conversation message.threadId storage
    (answer.map fun conversation => conversation.map (start target), storage)

/-- Why a delete could not be scheduled. -/
inductive ScheduleError where
  | storage (error : StorageError)
  | job (error : Job.JobError)
  deriving DecidableEq

/-- The wording of the failure. -/
def ScheduleError.message : ScheduleError → String
  | .storage error => error.message
  | .job error => error.message

/-- What scheduling a delete led to. -/
structure Scheduling (σ Keeper : Type) where
  /-- The job, unless there is nobody to send to. -/
  answer : Except ScheduleError (Option Job.JobId)
  storage : σ
  keeper : Keeper
  log : Log

/-- Notes a delete and schedules its fan-out. `add` hands a fan-out to a scheduler. -/
def schedule {σ Keeper : Type} [MessageKeeper σ]
    (add : Fanout → Keeper → Except Job.JobError Job.JobId × Keeper)
    (target : MessageId) (deleter : RecipientId) (storage : σ) (keeper : Keeper) :
    Scheduling σ Keeper :=
  match MessageKeeper.markDeleted target deleter storage with
  | (.error error, storage) => ⟨.error (.storage error), storage, keeper, []⟩
  | (.ok (), storage) =>
    match create target storage with
    | (.error error, storage) => ⟨.error (.storage error), storage, keeper, []⟩
    | (.ok none, storage) =>
      ⟨.ok none, storage, keeper,
        [.warn "no conversation for deleted message, nothing to send"
          [("message_id", target.text)]]⟩
    | (.ok (some fanout), storage) =>
      match add fanout keeper with
      | (.error error, keeper) => ⟨.error (.job error), storage, keeper, []⟩
      | (.ok id, keeper) =>
        ⟨.ok (some id), storage, keeper,
          [.info "admin delete scheduled"
            [("message_id", target.text),
             ("recipients", toString fanout.progress.remaining.length)]]⟩

end Mailroom.Fanout
