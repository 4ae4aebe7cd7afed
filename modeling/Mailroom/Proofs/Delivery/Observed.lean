import Mailroom.Delivery.Script

/-!
# Observed transports

An observed transport hands every call on to the transport inside and keeps it, with its answer,
behind the calls before it. What was sent to whom is read off the calls, whatever the transport
inside does; a call that failed as a whole is kept too. A scripted transport inside reports on
those that it was asked to send to and on nobody else.
-/

namespace Mailroom

/-- A call to a transport, with what was answered. -/
inductive Call where
  /-- A message to members of a group. -/
  | group (groupId : GroupId) (recipients : List Recipient) (about : MessageId)
    (message : Outgoing) (answer : Except TransportError (List SendResult))
  /-- A copy to the own devices. -/
  | copy (message : Outgoing) (answer : Except TransportError SendStatus)

namespace Call

/-- The members that a call addresses. -/
def addressees : Call → List RecipientId
  | .group _ recipients _ _ _ => recipients.map Recipient.id
  | .copy _ _ => []

/-- What a call to a group reports for its members. -/
def results : Call → List SendResult
  | .group _ _ _ _ (.ok results) => results
  | _ => []

/-- Why a call failed as a whole, if it did. -/
def error? : Call → Option TransportError
  | .group _ _ _ _ (.error error) => some error
  | .copy _ (.error error) => some error
  | _ => none

/-- What a call reports about anybody, a copy about the local account. -/
def reports (self : Option Recipient) : Call → List SendResult
  | .group _ _ _ _ (.ok results) => results
  | .copy _ (.ok status) => self.toList.map fun recipient => ⟨recipient.id, status⟩
  | _ => []

/-- Whether one of several calls is to a group and failed as a whole. -/
def GroupFailed (calls : List Call) : Prop :=
  ∃ groupId recipients about message error,
    Call.group groupId recipients about message (.error error) ∈ calls

/-- Whether one of several calls was rejected. -/
def Rejected (calls : List Call) : Prop :=
  ∃ call ∈ calls, ∃ reason, call.error? = some (.rejected reason)

end Call

/-- A transport and the calls that were made to it. -/
structure Observed (τ : Type) where
  /-- The transport inside. -/
  transport : τ
  /-- The calls so far, in order. -/
  calls : List Call := []

namespace Observed

variable {τ : Type} [GroupSender τ]

/-- Sends to members of a group and keeps the call. -/
def sendToGroup (groupId : GroupId) (recipients : List Recipient) (about : MessageId)
    (message : Outgoing) (observed : Observed τ) :
    Except TransportError (List SendResult) × Observed τ :=
  let (answer, transport) :=
    GroupSender.sendToGroup groupId recipients about message observed.transport
  (answer, ⟨transport, observed.calls ++ [.group groupId recipients about message answer]⟩)

/-- Sends a copy to the own devices and keeps the call. -/
def sendToSelf (message : Outgoing) (observed : Observed τ) :
    Except TransportError SendStatus × Observed τ :=
  let (answer, transport) := GroupSender.sendToSelf message observed.transport
  (answer, ⟨transport, observed.calls ++ [.copy message answer]⟩)

instance : GroupSender (Observed τ) where
  sendToGroup := sendToGroup
  sendToSelf := sendToSelf

end Observed

namespace Script

/-- The next results are for the recipients asked for, in their order. -/
theorem recipients_nextResults (ids : List RecipientId) (script : Script) :
    (nextResults ids script).1.map SendResult.recipient = ids := by
  induction ids generalizing script with
  | nil => rfl
  | cons id rest ih => exact congrArg (id :: ·) (ih (script.nextStatus id).2)

/-- A group call that is answered is answered for its recipients, in their order. -/
theorem recipients_of_sendToGroup {groupId : GroupId} {recipients : List Recipient}
    {about : MessageId} {message : Outgoing} {script : Script} {results : List SendResult}
    (answered : (GroupSender.sendToGroup groupId recipients about message script).1 = .ok results) :
    results.map SendResult.recipient = recipients.map Recipient.id := by
  change (script.sendToGroup groupId (recipients.map Recipient.id) message).1 = _ at answered
  unfold sendToGroup at answered
  cases failing : script.callError with
  | some error =>
    rw [failing] at answered
    cases answered
  | none =>
    rw [failing] at answered
    cases answered
    exact recipients_nextResults _ _

end Script

end Mailroom
