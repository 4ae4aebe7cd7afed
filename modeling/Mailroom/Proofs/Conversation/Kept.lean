import Mailroom.Conversation.Incoming
import Mailroom.Conversation.Message
import Mailroom.Conversation.Outgoing
import Mailroom.Conversation.Recipient
import Mailroom.Conversation.Roster
import Mailroom.Conversation.Thread
import Mailroom.Proofs.Identity.Kept

/-!
# Conversations are kept in JSON

What is stored of conversations and what is sent between them is read back from its JSON form as an
equal value: recipients, rosters, messages, threads, and the messages that come in and go out. None
of them has a condition on its fields, so the forms are faithful: `records_faithful`.
-/

namespace Mailroom

/-- A form in which every value is read back, and no two values are written alike. -/
structure Json.Faithful {α : Type} (encode : α → Json) (decode : Json → Option α) : Prop where
  /-- What is written of a value is read as the value. -/
  back : ∀ value, (Json.read? (encode value).write).bind decode = some value
  /-- Different values are written differently. -/
  apart : ∀ left right, left ≠ right → (encode left).write ≠ (encode right).write

/-- A form that keeps every value is faithful. -/
theorem Json.Faithful.of_kept {α : Type} {encode : α → Json} {decode : Json → Option α}
    (kept : ∀ value, Kept encode decode value) : Faithful encode decode := by
  have back : ∀ value, (read? (encode value).write).bind decode = some value := by
    intro value
    rw [read?_write (kept value).written, Option.bind_some, (kept value).back]
  refine ⟨back, fun left right differ alike => differ ?_⟩
  apply Option.some.inj
  rw [← back left, ← back right, alike]

/-! ## Recipients and rosters -/

/-- The states of registration are kept. -/
theorem Registration.kept (state : Registration) : Json.Kept toJson ofJson? state := by
  cases state with
  | unknown => exact ⟨Json.written_text _, nofun, by decide⟩
  | registered => exact ⟨Json.written_text _, nofun, by decide⟩
  | notRegistered => exact ⟨Json.written_text _, nofun, by decide⟩

/-- The kinds of conversations are kept. -/
theorem ConversationKind.kept (kind : ConversationKind) : Json.Kept toJson ofJson? kind := by
  cases kind with
  | individual => exact ⟨Json.written_text _, nofun, rfl⟩
  | group id =>
    constructor
    case written => exact Json.written_record (by simpa using id.kept.written)
    case solid => exact nofun
    case back =>
      rw [ofJson?, toJson, Json.choice?_record]
      simp only [Option.bind_eq_bind, Option.bind_some]
      rw [id.kept.back, Option.map_some]

/-- Recipients are kept. -/
theorem Recipient.kept (recipient : Recipient) : Json.Kept toJson ofJson? recipient where
  written := by
    apply Json.written_record
    simp only [List.forall_mem_cons]
    exact ⟨recipient.id.kept.written, Json.written_option fun id _ => ServiceId.kept id,
      recipient.registered.kept.written, recipient.kind.kept.written,
      (RowId.kept_list recipient.participants).written, Json.written_bool _, nofun⟩
  solid := nofun
  back := by
    have fields : recipient.toJson.fields?
        ["id", "service_id", "registered", "kind", "participant_ids", "is_self"] =
          some [some recipient.id.toJson, some (.option ServiceId.toJson recipient.serviceId),
            some recipient.registered.toJson, some recipient.kind.toJson,
            some (.list RowId.toJson recipient.participants), some (.bool recipient.isSelf)] :=
      Json.fields?_record (by
        show ["id", "service_id", "registered", "kind", "participant_ids", "is_self"].Nodup
        decide)
    have serviceId : Json.optional ServiceId.ofJson?
        (some (.option ServiceId.toJson recipient.serviceId)) = some recipient.serviceId :=
      Json.optional_option fun id _ => ServiceId.kept id
    rw [ofJson?, fields]
    dsimp only [Option.bind_eq_bind, Option.bind_some]
    rw [recipient.id.kept.required, Option.bind_some, serviceId, Option.bind_some,
      recipient.registered.kept.required, Option.bind_some, recipient.kind.kept.required,
      Option.bind_some, (RowId.kept_list recipient.participants).required, Option.bind_some,
      (Json.kept_bool recipient.isSelf).required, Option.bind_some]

/-- Rosters are kept. -/
theorem Roster.kept (roster : Roster) : Json.Kept toJson ofJson? roster where
  written := by
    apply Json.written_record
    simp only [List.forall_mem_cons]
    exact ⟨roster.id.kept.written, Json.written_int _, (RowId.kept_list roster.members).written,
      (RowId.kept_list roster.admins).written, nofun⟩
  solid := nofun
  back := by
    have fields : roster.toJson.fields? ["id", "revision", "members", "admins"] =
        some [some roster.id.toJson, some (.int roster.revision.toNat),
          some (.list RowId.toJson roster.members), some (.list RowId.toJson roster.admins)] :=
      Json.fields?_record (by show ["id", "revision", "members", "admins"].Nodup; decide)
    rw [ofJson?, fields]
    dsimp only [Option.bind_eq_bind, Option.bind_some]
    rw [roster.id.kept.required, Option.bind_some, (Json.kept_word32 roster.revision).required,
      Option.bind_some, (RowId.kept_list roster.members).required, Option.bind_some,
      (RowId.kept_list roster.admins).required, Option.bind_some]

/-! ## Threads and stored messages -/

/-- Stored messages are kept. -/
theorem Message.kept (message : Message) : Json.Kept toJson ofJson? message where
  written := by
    apply Json.written_record
    simp only [List.forall_mem_cons]
    exact ⟨message.id.kept.written, message.threadId.kept.written, message.sender.kept.written,
      Json.written_int _, Json.written_option fun id _ => RowId.kept id, nofun⟩
  solid := nofun
  back := by
    have fields : message.toJson.fields?
        ["id", "thread_id", "from_recipient", "date_sent", "deleted_by"] =
          some [some message.id.toJson, some message.threadId.toJson, some message.sender.toJson,
            some (.int message.dateSent.toInt), some (.option RowId.toJson message.deletedBy)] :=
      Json.fields?_record (by
        show ["id", "thread_id", "from_recipient", "date_sent", "deleted_by"].Nodup
        decide)
    have deletedBy : Json.optional RowId.ofJson? (some (.option RowId.toJson message.deletedBy)) =
        some message.deletedBy :=
      Json.optional_option fun id _ => RowId.kept id
    rw [ofJson?, fields]
    dsimp only [Option.bind_eq_bind, Option.bind_some]
    rw [message.id.kept.required, Option.bind_some, message.threadId.kept.required,
      Option.bind_some, message.sender.kept.required, Option.bind_some,
      (Json.kept_signed64 message.dateSent).required, Option.bind_some, deletedBy,
      Option.bind_some]

/-- Threads are kept. -/
theorem Thread.kept (thread : Thread) : Json.Kept toJson ofJson? thread where
  written := by
    apply Json.written_record
    simp only [List.forall_mem_cons]
    exact ⟨thread.id.kept.written, thread.recipientId.kept.written, Json.written_bool _,
      Json.written_int _, nofun⟩
  solid := nofun
  back := by
    have fields : thread.toJson.fields? ["id", "recipient_id", "archived", "sort_position"] =
        some [some thread.id.toJson, some thread.recipientId.toJson,
          some (.bool thread.archived), some (.int thread.position.toNat)] :=
      Json.fields?_record (by
        show ["id", "recipient_id", "archived", "sort_position"].Nodup
        decide)
    rw [ofJson?, fields]
    dsimp only [Option.bind_eq_bind, Option.bind_some]
    rw [thread.id.kept.required, Option.bind_some, thread.recipientId.kept.required,
      Option.bind_some, (Json.kept_bool thread.archived).required, Option.bind_some,
      (Json.kept_word64 thread.position).required, Option.bind_some]

/-! ## Messages that come in -/

/-- The groups of incoming messages are kept. -/
theorem GroupContext.kept (context : GroupContext) : Json.Kept toJson ofJson? context where
  written := by
    apply Json.written_record
    simp only [List.forall_mem_cons]
    exact ⟨context.masterKey.kept.written, Json.written_int _, nofun⟩
  solid := nofun
  back := by
    have fields : context.toJson.fields? ["master_key", "revision"] =
        some [some context.masterKey.toJson, some (.int context.revision.toNat)] :=
      Json.fields?_record (by show ["master_key", "revision"].Nodup; decide)
    rw [ofJson?, fields]
    dsimp only [Option.bind_eq_bind, Option.bind_some]
    rw [context.masterKey.kept.required, Option.bind_some,
      (Json.kept_word32 context.revision).required, Option.bind_some]

/-- Incoming messages are kept. -/
theorem Incoming.kept (message : Incoming) : Json.Kept toJson ofJson? message where
  written := by
    apply Json.written_record
    simp only [List.forall_mem_cons]
    exact ⟨message.sender.kept.written, message.threadId.kept.written, Json.written_int _,
      Json.written_option fun text _ => Json.kept_text text,
      Json.written_option fun context _ => GroupContext.kept context, nofun⟩
  solid := nofun
  back := by
    have fields : message.toJson.fields?
        ["sender", "thread_id", "sent_timestamp", "body", "group_v2"] =
          some [some message.sender.toJson, some message.threadId.toJson,
            some (.int message.sentTimestamp.toInt), some (.option Json.text message.body),
            some (.option GroupContext.toJson message.group)] :=
      Json.fields?_record (by
        show ["sender", "thread_id", "sent_timestamp", "body", "group_v2"].Nodup
        decide)
    have body : Json.optional Json.toText? (some (.option Json.text message.body)) =
        some message.body :=
      Json.optional_option fun text _ => Json.kept_text text
    have group : Json.optional GroupContext.ofJson?
        (some (.option GroupContext.toJson message.group)) = some message.group :=
      Json.optional_option fun context _ => GroupContext.kept context
    rw [ofJson?, fields]
    dsimp only [Option.bind_eq_bind, Option.bind_some]
    rw [message.sender.kept.required, Option.bind_some, message.threadId.kept.required,
      Option.bind_some, (Json.kept_signed64 message.sentTimestamp).required, Option.bind_some,
      body, Option.bind_some, group, Option.bind_some]

/-! ## Messages that go out -/

/-- Deletes are kept. -/
theorem AdminDelete.kept (delete : AdminDelete) : Json.Kept toJson ofJson? delete where
  written := by
    apply Json.written_record
    simp only [List.forall_mem_cons]
    exact ⟨delete.author.kept.written, Json.written_int _, nofun⟩
  solid := nofun
  back := by
    have fields : delete.toJson.fields? ["target_author", "target_sent_timestamp"] =
        some [some delete.author.toJson, some (.int delete.sentTimestamp.toInt)] :=
      Json.fields?_record (by show ["target_author", "target_sent_timestamp"].Nodup; decide)
    rw [ofJson?, fields]
    dsimp only [Option.bind_eq_bind, Option.bind_some]
    rw [delete.author.kept.required, Option.bind_some,
      (Json.kept_signed64 delete.sentTimestamp).required, Option.bind_some]

/-- Outgoing messages are kept. -/
theorem Outgoing.kept (message : Outgoing) : Json.Kept toJson ofJson? message where
  written := by
    apply Json.written_record
    simp only [List.forall_mem_cons]
    exact ⟨Json.written_int _, Json.written_option fun id _ => GroupId.kept id,
      Json.written_option fun delete _ => AdminDelete.kept delete, nofun⟩
  solid := nofun
  back := by
    have fields : message.toJson.fields? ["timestamp", "group_id", "admin_delete"] =
        some [some (.int message.timestamp.toInt), some (.option GroupId.toJson message.groupId),
          some (.option AdminDelete.toJson message.adminDelete)] :=
      Json.fields?_record (by show ["timestamp", "group_id", "admin_delete"].Nodup; decide)
    have groupId : Json.optional GroupId.ofJson? (some (.option GroupId.toJson message.groupId)) =
        some message.groupId :=
      Json.optional_option fun id _ => GroupId.kept id
    have delete : Json.optional AdminDelete.ofJson?
        (some (.option AdminDelete.toJson message.adminDelete)) = some message.adminDelete :=
      Json.optional_option fun delete _ => AdminDelete.kept delete
    rw [ofJson?, fields]
    dsimp only [Option.bind_eq_bind, Option.bind_some]
    rw [(Json.kept_signed64 message.timestamp).required, Option.bind_some, groupId,
      Option.bind_some, delete, Option.bind_some]

/-! ## All of them -/

/-- Recipients, rosters, stored messages, threads, and the messages that come in and go out are
read back from what is written of them, whatever they hold, and no two of a kind are written
alike. -/
theorem records_faithful :
    Json.Faithful Recipient.toJson Recipient.ofJson? ∧
    Json.Faithful Roster.toJson Roster.ofJson? ∧
    Json.Faithful Message.toJson Message.ofJson? ∧
    Json.Faithful Thread.toJson Thread.ofJson? ∧
    Json.Faithful Incoming.toJson Incoming.ofJson? ∧
    Json.Faithful Outgoing.toJson Outgoing.ofJson? :=
  ⟨.of_kept Recipient.kept, .of_kept Roster.kept, .of_kept Message.kept, .of_kept Thread.kept,
    .of_kept Incoming.kept, .of_kept Outgoing.kept⟩

end Mailroom
