import Mailroom.Proofs.Fanout.Persisted
import Mailroom.Proofs.Job.Submission
import Mailroom.Proofs.Storage.Filing

/-!
# What scheduling a delete leaves behind

A delete is noted with its message before anything else is looked up, so the note stays where the
conversation turns out to be gone and where the scheduler refuses the job. `Scheduled` says for each
way that scheduling can go what is answered, what becomes of storage, and what becomes of the store
of jobs. `schedule_scheduled` holds for every storage, every store and every message, and
`Archive.deserted_or_hosts` says that no way is left out.

Storage that a crash has poisoned no longer tells whether a message is known:
`refused_before_unknown`.
-/

namespace Mailroom

namespace Archive

/-- A message is noted as deleted in its place, and nothing else changes. -/
structure Notes (target : MessageId) (deleter : RecipientId) (before after : Archive) : Prop where
  /-- The other messages and the order of all messages stay. -/
  messages : after.messages.records = before.messages.records.map fun message =>
    if message.id = target then message.deletedFor deleter else message
  /-- What is kept beside the messages stays. -/
  frame : after = { before with messages := after.messages }

/-- A message is in a conversation of which the thread and the recipient are on file. -/
def Hosts (archive : Archive) (target : MessageId) (conversation : Recipient) : Prop :=
  ∃ message thread, archive.messages.get? target = some message ∧
    archive.threads.get? message.threadId = some thread ∧
    archive.recipients.get? thread.recipientId = some conversation

/-- A message is on file, but its thread is not, or the recipient of its thread is not. -/
def Deserted (archive : Archive) (target : MessageId) : Prop :=
  ∃ message, archive.messages.get? target = some message ∧
    ∀ thread, archive.threads.get? message.threadId = some thread →
      archive.recipients.get? thread.recipientId = none

variable {archive : Archive} {target : MessageId} {deleter : RecipientId} {message : Message}

/-- Who deleted a message is noted with the message. -/
theorem markDeleted_eq (known : archive.messages.get? target = some message) :
    archive.markDeleted target deleter = (.ok (),
      { archive with messages := archive.messages.insert (message.deletedFor deleter) }) := by
  rw [markDeleted, known]
  rfl

/-- Noting who deleted a message is all that the archive does then. -/
theorem notes_markDeleted (known : archive.messages.get? target = some message) :
    archive.Notes target deleter (archive.markDeleted target deleter).2 where
  messages := by
    have named : message.id = target := Table.key_of_get? known
    have present : archive.messages.contains (message.deletedFor deleter).id = true :=
      Table.contains_iff.2 ⟨message, Table.mem_of_get? known, rfl⟩
    rw [markDeleted_eq known]
    show (archive.messages.insert (message.deletedFor deleter)).records = _
    unfold Table.insert
    rw [dif_pos present]
    refine List.map_congr_left fun old held => ?_
    show (if old.id = message.id then message.deletedFor deleter else old) = _
    rw [named]
    by_cases same : old.id = target
    · rw [if_pos same, if_pos same,
        Table.eq_of_key_eq held (Table.mem_of_get? known) (same.trans named.symm)]
    · rw [if_neg same, if_neg same]
  frame := by rw [markDeleted_eq known]

/-- The message is still on file, in the same thread. -/
theorem get?_markDeleted (known : archive.messages.get? target = some message) :
    (archive.markDeleted target deleter).2.messages.get? target =
      some (message.deletedFor deleter) := by
  have named : message.id = target := Table.key_of_get? known
  rw [markDeleted_eq known]
  show (archive.messages.insert (message.deletedFor deleter)).get? target = _
  rw [Table.get?_insert, show (message.deletedFor deleter).id = target from named, if_pos rfl]

/-- The conversations are those from before. -/
theorem conversation?_markDeleted (known : archive.messages.get? target = some message)
    (id : ThreadId) :
    (archive.markDeleted target deleter).2.conversation? id = archive.conversation? id := by
  rw [markDeleted_eq known]
  rfl

/-- A message on file is in a conversation or lacks one. -/
theorem deserted_or_hosts (filed : archive.messages.contains target = true) :
    archive.Deserted target ∨ ∃ conversation, archive.Hosts target conversation := by
  rw [Table.contains_eq_isSome, Option.isSome_iff_exists] at filed
  obtain ⟨message, known⟩ := filed
  cases hosted : archive.conversation? message.threadId with
  | none => exact .inl ⟨message, known, Option.bind_eq_none_iff.1 hosted⟩
  | some conversation =>
    obtain ⟨thread, found, reached⟩ := Option.bind_eq_some_iff.1 hosted
    exact .inr ⟨conversation, message, thread, known, found, reached⟩

end Archive

namespace Fanout

/-- The record of a fan-out to a conversation, under which nothing has run yet. -/
structure StartsOut (stamp : Job.Stamp) (target : MessageId) (conversation : Recipient)
    (record : Job.Record) : Prop where
  id : record.id = stamp.id
  created : record.created = stamp.created
  /-- Nobody has claimed the job. -/
  fresh : record.IsNew
  /-- The job does not wait for any time. -/
  scheduled : record.scheduled = none
  key : record.factoryKey = factoryKey
  /-- There is one such job at a time for a conversation. -/
  queue : record.parameters.queue = some conversation.id.queueKey
  constraints : record.parameters.constraints = ["NetworkConstraint"]
  /-- The job may run for 24 hours. -/
  lifespan : record.parameters.lifespan = some (.ofSeconds (24 * 60 * 60))
  limit : record.parameters.limit = .unlimited
  policy : record.parameters.retryPolicy = none
  /-- The job is to reach the participants in their order, and remembers how many they are. -/
  payload : ∃ initial : Int32,
    Progress.decode? record.payload = some ⟨target, conversation.participants, initial⟩ ∧
      initial.toInt = min (conversation.participants.length : Int) 2147483647

/-- The ways in which scheduling a delete can go. -/
structure Scheduled {World : Type} (stamp : Job.Stamp) (target : MessageId) (deleter : RecipientId)
    (storage : Storage) (office : Job.Store × World)
    (led : Scheduling Storage (Job.Store × World)) : Prop where
  /-- Storage that is poisoned refuses, and nothing changes. -/
  refused : storage.poisoned = true →
    led.answer = .error (.storage .poisoned) ∧ led.storage = storage ∧ led.keeper = office
  /-- It is said of a message that it is unknown, and nothing changes. -/
  unknown : storage.poisoned = false → storage.value.messages.get? target = none →
    led.answer = .error (.storage (.notFound "message" target.text)) ∧
      led.storage = storage ∧ led.keeper = office
  /-- Whatever comes later, storage keeps who deleted a message that it knows. -/
  noted : storage.poisoned = false → storage.value.messages.contains target = true →
    led.storage.poisoned = false ∧ storage.value.Notes target deleter led.storage.value
  /-- There is nobody to send to, and no job. -/
  deserted : storage.poisoned = false → storage.value.Deserted target →
    led.answer = .ok none ∧ led.keeper = office
  /-- A poisoned store refuses the job. -/
  closed : storage.poisoned = false → ∀ conversation, storage.value.Hosts target conversation →
    office.1.poisoned = true →
      led.answer = .error (.job (.store .poisoned)) ∧ led.keeper = office
  /-- The store refuses the job if its identifier is taken. -/
  taken : storage.poisoned = false → ∀ conversation, storage.value.Hosts target conversation →
    office.1.poisoned = false → office.1.value.contains stamp.id = true →
      led.answer = .error (.job (.store (.alreadyExists stamp.id))) ∧ led.keeper = office
  /-- One record is filed behind those in the store, and its identifier is answered. -/
  filed : storage.poisoned = false → ∀ conversation, storage.value.Hosts target conversation →
    office.1.poisoned = false → office.1.value.contains stamp.id = false →
      ∃ record, StartsOut stamp target conversation record ∧
        led.answer = .ok (some record.id) ∧
        led.keeper.1.value.records = office.1.value.records ++ [record] ∧
        led.keeper.1.poisoned = false ∧ led.keeper.2 = office.2

section

variable {target : MessageId} {deleter : RecipientId} {archive : Archive} {message : Message}

/-- Storage notes who deleted a message that it has on file. -/
theorem markDeleted_of_known (known : archive.messages.get? target = some message) :
    MessageKeeper.markDeleted target deleter (⟨archive, false⟩ : Storage) =
      (.ok (), ⟨(archive.markDeleted target deleter).2, false⟩) := by
  show ((archive.markDeleted target deleter).1,
    (⟨(archive.markDeleted target deleter).2, false⟩ : Storage)) = _
  rw [Archive.markDeleted_eq known]

/-- A fan-out is created for the conversation that the message was in before its delete was
noted. -/
theorem create_of_known (known : archive.messages.get? target = some message) :
    create target (⟨(archive.markDeleted target deleter).2, false⟩ : Storage) =
      (.ok ((archive.conversation? message.threadId).map (start target)),
        ⟨(archive.markDeleted target deleter).2, false⟩) := by
  have reading : MessageKeeper.message target
      (⟨(archive.markDeleted target deleter).2, false⟩ : Storage) =
        (.ok (message.deletedFor deleter), ⟨(archive.markDeleted target deleter).2, false⟩) := by
    show (Archive.message? target _, _) = _
    rw [Archive.message?, Archive.get?_markDeleted known]
  rw [create, reading, ← Archive.conversation?_markDeleted known]
  rfl

variable {Keeper : Type} (add : Fanout → Keeper → Except Job.JobError Job.JobId × Keeper)
  (keeper : Keeper)

/-- A delete without a conversation is noted and leaves no job. -/
theorem schedule_of_deserted (deserted : archive.Deserted target) :
    let led := schedule add target deleter (⟨archive, false⟩ : Storage) keeper
    led.answer = .ok none ∧ led.storage = ⟨(archive.markDeleted target deleter).2, false⟩ ∧
      led.keeper = keeper := by
  obtain ⟨message, known, gone⟩ := deserted
  have nobody : archive.conversation? message.threadId = none := by
    rw [Archive.conversation?, Option.bind_eq_none_iff]
    exact gone
  simp only [schedule, markDeleted_of_known known, create_of_known known, nobody, Option.map_none,
    and_self]

/-- A delete in a conversation is noted, and its fan-out is handed to the scheduler. -/
theorem schedule_of_hosts {conversation : Recipient} (hosts : archive.Hosts target conversation) :
    let led := schedule add target deleter (⟨archive, false⟩ : Storage) keeper
    led.answer = ((add (start target conversation) keeper).1.map some).mapError .job ∧
      led.storage = ⟨(archive.markDeleted target deleter).2, false⟩ ∧
      led.keeper = (add (start target conversation) keeper).2 := by
  obtain ⟨message, thread, known, found, hosted⟩ := hosts
  have conversing : archive.conversation? message.threadId = some conversation := by
    rw [Archive.conversation?, found, Option.bind_some, hosted]
  simp only [schedule, markDeleted_of_known known, create_of_known known, conversing,
    Option.map_some]
  rcases add (start target conversation) keeper with ⟨reason | id, after⟩ <;>
    exact ⟨rfl, rfl, rfl⟩

/-- Storage that is poisoned refuses to note a delete. -/
theorem schedule_of_poisoned {storage : Storage} (broken : storage.poisoned = true) :
    let led := schedule add target deleter storage keeper
    led.answer = .error (.storage .poisoned) ∧ led.storage = storage ∧ led.keeper = keeper := by
  have refused : MessageKeeper.markDeleted target deleter storage = (.error .poisoned, storage) := by
    show storage.markDeleted target deleter = _
    exact Guarded.write_poisoned _ _ broken
  simp only [schedule, refused, and_self]

/-- A message that is not on file cannot be noted as deleted. -/
theorem schedule_of_unknown (unknown : archive.messages.get? target = none) :
    let led := schedule add target deleter (⟨archive, false⟩ : Storage) keeper
    led.answer = .error (.storage (.notFound "message" target.text)) ∧
      led.storage = ⟨archive, false⟩ ∧ led.keeper = keeper := by
  have refused : MessageKeeper.markDeleted target deleter (⟨archive, false⟩ : Storage) =
      (.error (.notFound "message" target.text), ⟨archive, false⟩) := by
    show ((archive.markDeleted target deleter).1,
      (⟨(archive.markDeleted target deleter).2, false⟩ : Storage)) = _
    rw [Archive.markDeleted, unknown]
  simp only [schedule, refused, and_self]

end

section

variable {σ τ : Type} [MessageKeeper σ] [GroupSender τ]

/-- The record under which a fan-out is taken on. -/
def recordOf (stamp : Job.Stamp) (fanout : Fanout) : Job.Record :=
  .new stamp.id stamp.created factoryKey fanout.parameters fanout.progress.encode

/-- The record of a fan-out to a conversation starts it. -/
theorem startsOut_recordOf (stamp : Job.Stamp) (target : MessageId) (conversation : Recipient) :
    StartsOut stamp target conversation (recordOf stamp (start target conversation)) where
  id := rfl
  created := rfl
  fresh := ⟨rfl, rfl, rfl⟩
  scheduled := rfl
  key := rfl
  queue := rfl
  constraints := rfl
  lifespan := rfl
  limit := rfl
  policy := rfl
  payload := ⟨_, Progress.decode?_encode _, Progress.toInt_capped _⟩

/-- Taking on a fan-out is filing its record. -/
theorem add_craft (check : String → Option Bool) (stamp : Job.Stamp) (fanout : Fanout)
    (store : Job.Store) (around : Surroundings σ τ) :
    Job.add (craft check) stamp fanout (store, around) =
      ((store.enqueue (recordOf stamp fanout)).1.mapError .store,
        (store.enqueue (recordOf stamp fanout)).2, around) :=
  rfl

/-- Scheduling a delete goes in one of the ways that there are. -/
theorem schedule_scheduled (check : String → Option Bool) (stamp : Job.Stamp) (target : MessageId)
    (deleter : RecipientId) (storage : Storage) (office : Job.Store × Surroundings σ τ) :
    Scheduled stamp target deleter storage office
      (schedule (Job.add (craft check) stamp) target deleter storage office) := by
  obtain ⟨archive, poisoned⟩ := storage
  obtain ⟨store, around⟩ := office
  constructor
  case refused => exact fun broken => schedule_of_poisoned _ _ broken
  case unknown =>
    rintro rfl unknown
    exact schedule_of_unknown _ _ unknown
  case noted =>
    rintro rfl filed
    obtain ⟨message, known⟩ := Option.isSome_iff_exists.1
      (Table.contains_eq_isSome archive.messages target ▸ filed)
    have kept : (schedule (Job.add (craft check) stamp) target deleter (⟨archive, false⟩ : Storage)
        (store, around)).storage = ⟨(archive.markDeleted target deleter).2, false⟩ := by
      rcases Archive.deserted_or_hosts filed with deserted | ⟨conversation, hosts⟩
      · exact (schedule_of_deserted _ _ deserted).2.1
      · exact (schedule_of_hosts _ _ hosts).2.1
    rw [kept]
    exact ⟨rfl, Archive.notes_markDeleted known⟩
  case deserted =>
    rintro rfl deserted
    obtain ⟨answer, -, keeper⟩ :=
      schedule_of_deserted (Job.add (craft check) stamp) (store, around) deserted
    exact ⟨answer, keeper⟩
  case closed =>
    rintro rfl conversation hosts broken
    obtain ⟨answer, -, keeper⟩ :=
      schedule_of_hosts (Job.add (craft check) stamp) (store, around) hosts
    have refused : store.enqueue (recordOf stamp (start target conversation)) =
        (.error .poisoned, store) := Guarded.write_poisoned _ _ broken
    rw [add_craft, refused] at answer keeper
    exact ⟨answer, keeper⟩
  case taken =>
    rintro rfl conversation hosts sound contained
    obtain ⟨answer, -, keeper⟩ :=
      schedule_of_hosts (Job.add (craft check) stamp) (store, around) hosts
    have taken : store.value.contains (recordOf stamp (start target conversation)).id = true :=
      contained
    rw [add_craft, Job.Store.enqueue_of_taken sound taken] at answer keeper
    exact ⟨answer, keeper⟩
  case filed =>
    rintro rfl conversation hosts sound free
    obtain ⟨answer, -, keeper⟩ :=
      schedule_of_hosts (Job.add (craft check) stamp) (store, around) hosts
    have absent : store.value.contains (recordOf stamp (start target conversation)).id = false :=
      free
    rw [add_craft, Job.Store.enqueue_of_free sound absent] at answer keeper
    refine ⟨_, startsOut_recordOf stamp target conversation, answer, ?_, ?_, ?_⟩
    · rw [keeper]
      exact Table.records_insert_of_absent absent
    · rw [keeper]
    · rw [keeper]

end

/-- The delete of the message of the club is filed as the first record of the store. -/
theorem scheduled_club :
    let archive := Scene.clubArchive [⟨1⟩, ⟨2⟩]
    archive.Hosts ⟨5⟩ (Scene.conversation [⟨1⟩, ⟨2⟩]) ∧
      ∃ record, StartsOut ⟨default, default⟩ ⟨5⟩ (Scene.conversation [⟨1⟩, ⟨2⟩]) record ∧
        Office.clubScheduling.answer = .ok (some record.id) ∧
        Office.clubScheduling.keeper.1.value.records = [record] := by
  intro archive
  have hosts : archive.Hosts ⟨5⟩ (Scene.conversation [⟨1⟩, ⟨2⟩]) :=
    ⟨⟨⟨5⟩, ⟨4⟩, ⟨1⟩, 1000, none⟩, ⟨⟨4⟩, ⟨3⟩, false, 0⟩, by decide, by decide, by decide⟩
  obtain ⟨record, starts, answer, records, -, -⟩ :=
    (schedule_scheduled (fun _ => some true) ⟨default, default⟩ ⟨5⟩ Scene.owner.id
      ⟨archive, false⟩ (Job.Store.empty, (Scene.clubScene [] [.failed "offline"]).around)).filed
      rfl (Scene.conversation [⟨1⟩, ⟨2⟩]) hosts rfl rfl
  exact ⟨hosts, record, starts, answer, records⟩

/-- The storage that broke when a thread was filed at the last position. -/
def overfull : Storage := (Storage.empty.insertThread ⟨⟨1⟩, ⟨100⟩, false, 18446744073709551615⟩).2

/-- That storage has no message, but does not say so: it refuses before it looks. -/
theorem refused_before_unknown :
    let office : Office Script := (Job.Store.empty, (Scene.clubScene [] []).around)
    let led := schedule (Job.add (craft fun _ => some true) ⟨default, default⟩) ⟨42⟩ ⟨1⟩ overfull
      office
    overfull.value.messages.get? ⟨42⟩ = none ∧
      led.answer = .error (.storage (.backend "lock poisoned")) ∧
      led.answer ≠ .error (.storage (.notFound "message" (⟨42⟩ : MessageId).text)) := by
  intro office led
  have answered : led.answer = .error (.storage (.backend "lock poisoned")) :=
    (schedule_of_poisoned _ office (show overfull.poisoned = true by decide)).1
  refine ⟨by decide, answered, ?_⟩
  rw [answered]
  decide

end Fanout

end Mailroom
