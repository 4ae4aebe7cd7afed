import Mailroom.Identity.Group
import Mailroom.Identity.RowId
import Mailroom.Identity.Uuid

/-!
# Incoming messages

A decrypted message on its way into the store. A message of a group of the second version carries
the group's master key and the revision its sender was on.
-/

namespace Mailroom

/-- The group that a message was sent in. -/
structure GroupContext where
  /-- The key of the group. -/
  masterKey : MasterKey
  /-- The revision that the sender was on. -/
  revision : UInt32
  deriving DecidableEq

namespace GroupContext

/-- A context as a record. -/
def toJson (context : GroupContext) : Json :=
  .record
    [("master_key", context.masterKey.toJson), ("revision", .int context.revision.toNat)]

/-- The context that a record holds. -/
def ofJson? (value : Json) : Option GroupContext := do
  match ← value.fields? ["master_key", "revision"] with
  | [masterKey, revision] =>
    some
      { masterKey := ← Json.required MasterKey.ofJson? masterKey
        revision := ← Json.required Json.toUInt32? revision }
  | _ => none

end GroupContext

/-- A decrypted message as the batch loop sees it. -/
structure Incoming where
  /-- Who sent it. -/
  sender : ServiceId
  /-- The thread that it was put into. -/
  threadId : ThreadId
  /-- When the sender sent it, in milliseconds. -/
  sentTimestamp : Int64
  /-- What it says, if anything. -/
  body : Option String
  /-- The group that it was sent in, if any. -/
  group : Option GroupContext
  deriving DecidableEq

namespace Incoming

/-- Whether the message was sent in a group. -/
def hasGroup (message : Incoming) : Bool := message.group.isSome

/-- A message as a record. -/
def toJson (message : Incoming) : Json :=
  .record
    [("sender", message.sender.toJson),
     ("thread_id", message.threadId.toJson),
     ("sent_timestamp", .int message.sentTimestamp.toInt),
     ("body", .option Json.text message.body),
     ("group_v2", .option GroupContext.toJson message.group)]

/-- The message that a record holds. -/
def ofJson? (value : Json) : Option Incoming := do
  match ← value.fields? ["sender", "thread_id", "sent_timestamp", "body", "group_v2"] with
  | [sender, threadId, sentTimestamp, body, group] =>
    some
      { sender := ← Json.required ServiceId.ofJson? sender
        threadId := ← Json.required RowId.ofJson? threadId
        sentTimestamp := ← Json.required Json.toInt64? sentTimestamp
        body := ← Json.optional Json.toText? body
        group := ← Json.optional GroupContext.ofJson? group }
  | _ => none

end Incoming

end Mailroom
