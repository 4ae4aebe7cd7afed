import Mailroom.Delivery.Transport
import Mailroom.Table

/-!
# Scripted transport

A transport that answers as it is told. Every recipient has a list of statuses that are used up
one by one, except that the last one stays. Who has none is reached. A call that is told to fail
does so once and is not kept; the calls that reach somebody are kept in order.
-/

namespace Mailroom

/-- A call that sent a message to members of a group. -/
structure GroupCall where
  groupId : GroupId
  recipients : List RecipientId
  message : Outgoing
  deriving DecidableEq

/-- What a scripted transport will answer, and what it was asked. -/
structure Script where
  /-- The statuses still to come for each recipient. -/
  statuses : Ledger RecipientId (List SendStatus) := Table.empty
  /-- How the next group call fails. -/
  callError : Option TransportError := none
  /-- How copies to the own devices go. -/
  selfStatus : Option SendStatus := none
  /-- How the next copy fails. -/
  selfError : Option TransportError := none
  /-- The group calls that reached somebody. -/
  sent : List GroupCall := []
  /-- The copies that were sent. -/
  copies : List Outgoing := []

namespace Script

instance : Inhabited Script := ⟨{}⟩

/-- Plans the statuses for a recipient. -/
def plan (id : RecipientId) (statuses : List SendStatus) (script : Script) : Script :=
  { script with statuses := script.statuses.put id statuses }

/-- Has the next group call fail. -/
def failCall (error : TransportError) (script : Script) : Script :=
  { script with callError := some error }

/-- Plans how copies to the own devices go. -/
def planCopies (status : SendStatus) (script : Script) : Script :=
  { script with selfStatus := some status }

/-- Has the next copy to the own devices fail. -/
def failCopy (error : TransportError) (script : Script) : Script :=
  { script with selfError := some error }

/-- The next status for a recipient. -/
def nextStatus (id : RecipientId) (script : Script) : SendStatus × Script :=
  match script.statuses.find? id with
  | none => (.delivered, script)
  | some [] => (.delivered, script)
  | some [last] => (last, script)
  | some (status :: rest) => (status, { script with statuses := script.statuses.put id rest })

/-- The next status for each of several recipients, one after another. -/
def nextResults : List RecipientId → Script → List SendResult × Script
  | [], script => ([], script)
  | id :: rest, script =>
    let (status, script) := nextStatus id script
    let (results, script) := nextResults rest script
    (⟨id, status⟩ :: results, script)

/-- Answers a group call. -/
def sendToGroup (groupId : GroupId) (recipients : List RecipientId) (message : Outgoing)
    (script : Script) : Except TransportError (List SendResult) × Script :=
  match script.callError with
  | some error => (.error error, { script with callError := none })
  | none =>
    let (results, script) :=
      nextResults recipients { script with sent := script.sent ++ [⟨groupId, recipients, message⟩] }
    (.ok results, script)

/-- Answers a copy to the own devices. -/
def sendToSelf (message : Outgoing) (script : Script) :
    Except TransportError SendStatus × Script :=
  match script.selfError with
  | some error => (.error error, { script with selfError := none })
  | none =>
    (.ok (script.selfStatus.getD .delivered), { script with copies := script.copies ++ [message] })

/-- How many group calls reached a recipient. -/
def callsTo (id : RecipientId) (script : Script) : Nat :=
  script.sent.countP fun call => call.recipients.contains id

end Script

instance : GroupSender Script where
  sendToGroup groupId recipients _ message script :=
    script.sendToGroup groupId (recipients.map Recipient.id) message
  sendToSelf message script := script.sendToSelf message

end Mailroom
