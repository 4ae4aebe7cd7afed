import Mailroom.Identity.Group
import Mailroom.Identity.Uuid

/-!
# Outgoing messages

A message to a group. The only content so far is an admin delete, which asks every member to
delete one message of the group.
-/

namespace Mailroom

/-- Names the message to delete by its author and the time it was sent. -/
structure AdminDelete where
  /-- Who wrote the message. -/
  author : ServiceId
  /-- When it was sent. -/
  sentTimestamp : Int64
  deriving DecidableEq

namespace AdminDelete

/-- A delete as a record. -/
def toJson (delete : AdminDelete) : Json :=
  .record
    [("target_author", delete.author.toJson),
     ("target_sent_timestamp", .int delete.sentTimestamp.toInt)]

/-- The delete that a record holds. -/
def ofJson? (value : Json) : Option AdminDelete := do
  match ← value.fields? ["target_author", "target_sent_timestamp"] with
  | [author, sentTimestamp] =>
    some
      { author := ← Json.required ServiceId.ofJson? author
        sentTimestamp := ← Json.required Json.toInt64? sentTimestamp }
  | _ => none

end AdminDelete

/-- A message to a group. -/
structure Outgoing where
  /-- When it is sent, in milliseconds. -/
  timestamp : Int64
  /-- The group that it goes to. -/
  groupId : Option GroupId
  /-- The delete that it carries. -/
  adminDelete : Option AdminDelete
  deriving DecidableEq

namespace Outgoing

/-- A message that carries a delete to a group. -/
def ofDelete (timestamp : Int64) (groupId : GroupId) (delete : AdminDelete) : Outgoing :=
  ⟨timestamp, some groupId, some delete⟩

/-- A message as a record. -/
def toJson (message : Outgoing) : Json :=
  .record
    [("timestamp", .int message.timestamp.toInt),
     ("group_id", .option GroupId.toJson message.groupId),
     ("admin_delete", .option AdminDelete.toJson message.adminDelete)]

/-- The message that a record holds. -/
def ofJson? (value : Json) : Option Outgoing := do
  match ← value.fields? ["timestamp", "group_id", "admin_delete"] with
  | [timestamp, groupId, adminDelete] =>
    some
      { timestamp := ← Json.required Json.toInt64? timestamp
        groupId := ← Json.optional GroupId.ofJson? groupId
        adminDelete := ← Json.optional AdminDelete.ofJson? adminDelete }
  | _ => none

end Outgoing

end Mailroom
