import Mailroom.Identity.RowId

/-!
# Stored messages
-/

namespace Mailroom

/-- A message of a conversation. -/
structure Message where
  /-- The row of the message. -/
  id : MessageId
  /-- The conversation it is in. -/
  threadId : ThreadId
  /-- Who sent it. -/
  sender : RecipientId
  /-- When the sender sent it, in milliseconds; it names the message on the wire. -/
  dateSent : Int64
  /-- Who deleted it for everyone, if anyone did. -/
  deletedBy : Option RecipientId
  deriving DecidableEq

namespace Message

/-- A message as a record. -/
def toJson (message : Message) : Json :=
  .record
    [("id", message.id.toJson),
     ("thread_id", message.threadId.toJson),
     ("from_recipient", message.sender.toJson),
     ("date_sent", .int message.dateSent.toInt),
     ("deleted_by", .option RowId.toJson message.deletedBy)]

/-- The message that a record holds. -/
def ofJson? (value : Json) : Option Message := do
  match ← value.fields? ["id", "thread_id", "from_recipient", "date_sent", "deleted_by"] with
  | [id, threadId, sender, dateSent, deletedBy] =>
    some
      { id := ← Json.required RowId.ofJson? id
        threadId := ← Json.required RowId.ofJson? threadId
        sender := ← Json.required RowId.ofJson? sender
        dateSent := ← Json.required Json.toInt64? dateSent
        deletedBy := ← Json.optional RowId.ofJson? deletedBy }
  | _ => none

end Message

end Mailroom
