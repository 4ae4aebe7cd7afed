import Mailroom.Identity.RowId

/-!
# Threads

A thread is the place of a conversation in the thread list.
-/

namespace Mailroom

/-- A conversation in the thread list. -/
structure Thread where
  /-- The row of the thread. -/
  id : ThreadId
  /-- The recipient that the conversation is with. -/
  recipientId : RecipientId
  /-- Whether the conversation is put away. -/
  archived : Bool
  /-- The place in the list; what is higher stands first. -/
  position : UInt64
  deriving DecidableEq

namespace Thread

/-- A thread as a record. -/
def toJson (thread : Thread) : Json :=
  .record
    [("id", thread.id.toJson),
     ("recipient_id", thread.recipientId.toJson),
     ("archived", .bool thread.archived),
     ("sort_position", .int thread.position.toNat)]

/-- The thread that a record holds. -/
def ofJson? (value : Json) : Option Thread := do
  match ← value.fields? ["id", "recipient_id", "archived", "sort_position"] with
  | [id, recipientId, archived, position] =>
    some
      { id := ← Json.required RowId.ofJson? id
        recipientId := ← Json.required RowId.ofJson? recipientId
        archived := ← Json.required Json.toBool? archived
        position := ← Json.required Json.toUInt64? position }
  | _ => none

end Thread

end Mailroom
