import Mailroom.Delivery.Classification
import Mailroom.Delivery.Eligibility
import Mailroom.Fanout.Precondition
import Mailroom.Fanout.Progress
import Mailroom.Job.Scheduler

/-!
# One run of a fan-out

A run checks the conditions, looks up everybody who remains, drops those who are unknown or out of
reach, sends one message to the others, and drops those who were reached and those who turn out
to be gone. The local account is reached by a copy to its own devices, after the group and only if
the call to the group did not fail. The run is done once nobody remains.
-/

namespace Mailroom

/-- A fan-out in memory. -/
structure Fanout where
  /-- What it remembers between runs. -/
  progress : Fanout.Progress
  /-- Its scheduling. -/
  parameters : Job.Parameters

namespace Fanout

/-- Looks recipients up. Those that storage does not know are given apart. -/
def resolve {σ : Type} [MessageKeeper σ] :
    List RecipientId → σ → Except StorageError (List Recipient × List RecipientId) × σ
  | [], storage => (.ok ([], []), storage)
  | id :: rest, storage =>
    match MessageKeeper.recipient id storage with
    | (.ok recipient, storage) =>
      let (answer, storage) := resolve rest storage
      (answer.map fun (known, unknown) => (recipient :: known, unknown), storage)
    | (.error error, storage) =>
      if error.isNotFound then
        let (answer, storage) := resolve rest storage
        (answer.map fun (known, unknown) => (known, id :: unknown), storage)
      else (.error error, storage)

/-- What came of the calls of a run. -/
structure Delivery where
  /-- The results, those of the group first. -/
  results : List SendResult
  /-- Why the copy to the own devices failed, if it did. -/
  copyError : Option TransportError

/-- Sends to the members of a group, if there are any. -/
def sendToOthers {τ : Type} [GroupSender τ] (target : Target) (about : MessageId)
    (message : Outgoing) (others : List Recipient) (transport : τ) :
    Except TransportError (List SendResult) × τ :=
  if others.isEmpty then (.ok [], transport)
  else GroupSender.sendToGroup target.groupId others about message transport

/-- Sends a copy to the own devices for the first recipient that is the local account. -/
def sendToOwn {τ : Type} [GroupSender τ] (message : Outgoing) (results : List SendResult)
    (own : List Recipient) (transport : τ) : Delivery × τ :=
  match own with
  | [] => (⟨results, none⟩, transport)
  | self :: _ =>
    match GroupSender.sendToSelf message transport with
    | (.ok status, transport) => (⟨results ++ [⟨self.id, status⟩], none⟩, transport)
    | (.error error, transport) => (⟨results, some error⟩, transport)

/-- The message of a fan-out. -/
def Target.message (target : Target) (now : Instant) : Outgoing :=
  .ofDelete (Int64.ofInt now.toMillis) target.groupId target.delete

/-- Sends to everybody in a list. A call to the group that fails ends the delivery. -/
def deliver {τ : Type} [GroupSender τ] (now : Instant) (target : Target) (about : MessageId)
    (destinations : List Recipient) (transport : τ) : Except TransportError Delivery × τ :=
  let message := target.message now
  let (own, others) := destinations.partition Recipient.isSelf
  match sendToOthers target about message others transport with
  | (.error error, transport) => (.error error, transport)
  | (.ok results, transport) =>
    let (delivery, transport) := sendToOwn message results own transport
    (.ok delivery, transport)

/-- What marking recipients as gone led to. -/
structure Marking (σ : Type) where
  /-- Who could be marked. -/
  marked : List RecipientId
  storage : σ
  log : Log

/-- Marks recipients as gone, one after another. Who cannot be marked is reported and left out. -/
def markGone {σ : Type} [MessageKeeper σ] : List RecipientId → σ → Marking σ
  | [], storage => ⟨[], storage, []⟩
  | id :: rest, storage =>
    match MessageKeeper.markGone id storage with
    | (.ok isNews, storage) =>
      let later := markGone rest storage
      ⟨id :: later.marked, later.storage, (if isNews then [goneEvent id] else []) ++ later.log⟩
    | (.error error, storage) =>
      let later := markGone rest storage
      ⟨later.marked, later.storage,
        .warn "failed to mark recipient unregistered"
          [("recipient_id", id.text), ("error", error.message)] :: later.log⟩

/-- What a run led to. -/
structure Attempt (σ τ : Type) where
  outcome : Job.Outcome
  progress : Progress
  storage : σ
  transport : τ
  log : Log

/-- A report about the message of a fan-out. -/
def warning (target : MessageId) (message field value : String) : LogEvent :=
  .warn message [("message_id", target.text), (field, value)]

/-- What a run asks for after a call that did not fail as a whole, and what it reports. -/
def conclude (progress : Progress) : Option TransportError → Job.Outcome × Log
  | some error =>
    if error.isRetryable then
      (.retry, [warning progress.target "sync copy failed, retrying" "error" error.message])
    else
      (.permanentFailure error.message,
        [warning progress.target "sync copy rejected" "error" error.message])
  | none => (if progress.remaining.isEmpty then .success else .retry, [])

/-- The report at the end of a run that reached the transport. -/
def finishedEvent (target : MessageId) (completed unregistered skipped remaining : Nat) :
    LogEvent :=
  .info "admin delete send attempt finished"
    [("message_id", target.text), ("completed", toString completed),
     ("unregistered", toString unregistered), ("skipped", toString skipped),
     ("remaining", toString remaining)]

section

variable {σ τ : Type} [MessageKeeper σ] [GroupSender τ]

/-- Draws the results of a delivery into the progress. -/
def account (progress : Progress) (eligible : List RecipientId) (dropped : Nat)
    (delivery : Delivery) (storage : σ) (transport : τ) : Attempt σ τ :=
  let sends := classify eligible delivery.results
  let marking := markGone sends.unregistered storage
  let progress := (progress.drop sends.completed).drop marking.marked
  let event := finishedEvent progress.target sends.completed.length marking.marked.length
    (dropped + sends.skipped.length) progress.remaining.length
  let (outcome, report) := conclude progress delivery.copyError
  ⟨outcome, progress, marking.storage, transport, marking.log ++ event :: report⟩

/-- Sends to everybody who remains and can be reached. -/
def sendOut (now : Instant) (target : Target) (progress : Progress) (known : List Recipient)
    (unknown : List RecipientId) (storage : σ) (transport : τ) : Attempt σ τ :=
  let (eligible, ineligible) := Recipient.splitEligible known
  let dropped := ineligible.map Recipient.id ++ unknown
  let progress := progress.drop dropped
  match deliver now target progress.target eligible transport with
  | (.error error, transport) =>
    if error.isRetryable then
      ⟨.retry, progress, storage, transport,
        [warning progress.target "send failed, retrying" "error" error.message]⟩
    else
      ⟨.permanentFailure error.message, progress, storage, transport,
        [warning progress.target "send rejected" "error" error.message]⟩
  | (.ok delivery, transport) =>
    account progress (eligible.map Recipient.id) dropped.length delivery storage transport

/-- One run of a fan-out at a given time. -/
def attempt (now : Instant) (progress : Progress) (storage : σ) (transport : τ) : Attempt σ τ :=
  match checkTarget progress.target storage with
  | (.error (.unmet condition), storage) =>
    ⟨.permanentFailure condition.message, progress, storage, transport,
      [warning progress.target "cannot send admin delete" "reason" condition.message]⟩
  | (.error (.storage error), storage) =>
    ⟨.retry, progress, storage, transport,
      [warning progress.target "storage unavailable, retrying" "error" error.message]⟩
  | (.ok target, storage) =>
    match resolve progress.remaining storage with
    | (.error error, storage) =>
      ⟨.retry, progress, storage, transport,
        [warning progress.target "failed to resolve recipients, retrying" "error" error.message]⟩
    | (.ok (known, unknown), storage) =>
      sendOut now target progress known unknown storage transport

end

/-- The report when a fan-out is given up: how many were dealt with, of how many. -/
def failureEvent (progress : Progress) : LogEvent :=
  .warn
    ("failed to send admin delete to all recipients! " ++ toString progress.reached.toInt ++ " / "
      ++ toString progress.initialCount.toInt)
    [("message_id", progress.target.text)]

/-- Rebuilds a fan-out. -/
def restore (parameters : Job.Parameters) (payload : List UInt8) : Except Job.JobError Fanout :=
  (Progress.decode payload).map fun progress => ⟨progress, parameters⟩

/-- What is shown of a fan-out. -/
def shown (fanout : Fanout) : String :=
  "AdminDeleteSendJob \x7b data: " ++ fanout.progress.shown ++ ", parameters: "
    ++ fanout.parameters.shown ++ ", .. \x7d"

end Fanout

end Mailroom
