import Mailroom.Proofs.Storage.Archive
import Mailroom.Proofs.Storage.Requests

/-!
# Records under their own identifiers

A table reads the key of a record off the record. In a `Cabinet` the key stands beside the record: a
record is put into a drawer under a key, taken out by the key, and changed in the place where it
lies. Nothing there makes a record and its key agree.

`Cabinet.ofArchive_serveAll` says that a cabinet in which requests are carried out so holds what the
archive holds after them, and `Cabinet.keyed_ofArchive` that every record of it lies under its own
identifier.
-/

namespace Mailroom

namespace Ledger

variable {κ α : Type} [DecidableEq κ]

/-- Changes the values under a key where they stand. -/
def modifyIn (k : κ) (edit : α → α) (entries : List (κ × α)) : List (κ × α) :=
  entries.map fun entry => if entry.1 = k then (entry.1, edit entry.2) else entry

/-- Changing values in their places keeps the list of keys. -/
theorem keys_modifyIn (k : κ) (edit : α → α) (entries : List (κ × α)) :
    (modifyIn k edit entries).map Prod.fst = entries.map Prod.fst := by
  rw [modifyIn, List.map_map]
  refine List.map_congr_left fun entry _ => ?_
  rw [Function.comp_apply]
  split <;> rfl

/-- Changes the value under a key where it stands. -/
def modify (ledger : Ledger κ α) (k : κ) (edit : α → α) : Ledger κ α :=
  ⟨modifyIn k edit ledger.records, by
    rw [keys_modifyIn]
    exact ledger.distinct⟩

end Ledger

namespace Table

variable {κ α : Type} {key : α → κ}

/-- The records of a table, each beside its key. -/
def entries (table : Table key) : Ledger κ α :=
  ⟨table.records.map fun record => (key record, record), by
    rw [List.map_map]
    exact table.distinct⟩

/-- The key beside a record of a table is its own. -/
theorem fst_of_mem_entries {table : Table key} {entry : κ × α}
    (held : entry ∈ table.entries.records) : entry.1 = key entry.2 := by
  obtain ⟨record, -, rfl⟩ := List.mem_map.1 held
  rfl

variable [DecidableEq κ]

theorem contains_entries (table : Table key) (k : κ) :
    Table.contains table.entries k = table.contains k := by
  rw [contains, contains, entries, List.any_map]
  rfl

/-- Filing a record puts it down beside its key. -/
theorem entries_insert (table : Table key) (record : α) :
    (table.insert record).entries = table.entries.put (key record) record := by
  have known := table.contains_entries (key record)
  apply Table.ext
  unfold Ledger.put insert
  by_cases present : table.contains (key record) = true
  · rw [dif_pos present, dif_pos (known.trans present)]
    show (replaceIn ..).map _ = replaceIn _ _ (List.map _ _)
    rw [replaceIn, replaceIn, List.map_map, List.map_map]
    refine List.map_congr_left fun old _ => ?_
    simp only [Function.comp_apply]
    split <;> rfl
  · rw [dif_neg present, dif_neg (known ▸ present)]
    exact List.map_append

/-- Removing a record takes out what lies under its key. -/
theorem entries_erase (table : Table key) (k : κ) :
    (table.erase k).entries = Table.erase table.entries k := by
  apply Table.ext
  show List.map _ (List.filter _ _) = List.filter _ (List.map _ _)
  rw [List.filter_map]
  rfl

/-- Filing what became of a record changes it where it lies, if its key stays. -/
theorem entries_modify {table : Table key} {record : α} {k : κ}
    (found : table.get? k = some record) {edit : α → α} (kept : key (edit record) = key record) :
    (table.insert (edit record)).entries = table.entries.modify k edit := by
  have here : key record = k := key_of_get? found
  have present : table.contains (key (edit record)) = true :=
    contains_iff.2 ⟨record, mem_of_get? found, kept.symm⟩
  apply Table.ext
  unfold insert
  rw [dif_pos present]
  show List.map _ (List.map _ _) = List.map _ (List.map _ _)
  rw [List.map_map, List.map_map]
  refine List.map_congr_left fun old held => ?_
  -- The record with the key is the only one, so what replaces it is what becomes of it.
  simp only [Function.comp_apply, kept, here]
  by_cases same : key old = k
  · obtain rfl : old = record := eq_of_key_eq held (mem_of_get? found) (same.trans here.symm)
    rw [if_pos same, if_pos same, kept]
  · rw [if_neg same, if_neg same]

/-- Where nothing lies nothing is changed. -/
theorem modify_entries_of_absent {table : Table key} {k : κ} (absent : table.get? k = none)
    (edit : α → α) : table.entries.modify k edit = table.entries := by
  apply Table.ext
  show List.map _ (List.map _ _) = List.map _ _
  rw [List.map_map]
  refine List.map_congr_left fun record held => ?_
  exact if_neg (get?_eq_none_iff.1 absent record held)

end Table

/-- A thread at a place in the thread list, taken out of the archive if that is asked for. -/
def Thread.raised (unarchive : Bool) (position : UInt64) (thread : Thread) : Thread :=
  { thread with archived := thread.archived && !unarchive, position := position }

/-- A message with who deleted it for everyone. -/
def Message.deletedFor (deleter : RecipientId) (message : Message) : Message :=
  { message with deletedBy := some deleter }

/-- What an archive files, with the keys beside the records, and the next position. -/
structure Cabinet where
  recipients : Ledger RecipientId Recipient
  groups : Ledger GroupId Roster
  threads : Ledger ThreadId Thread
  messages : Ledger MessageId Message
  nextPosition : UInt64

namespace Cabinet

/-- The cabinet without records. -/
def empty : Cabinet := ⟨Table.empty, Table.empty, Table.empty, Table.empty, 0⟩

/-- The cabinet that holds what an archive holds. -/
def ofArchive (archive : Archive) : Cabinet where
  recipients := archive.recipients.entries
  groups := archive.groups.entries
  threads := archive.threads.entries
  messages := archive.messages.entries
  nextPosition := archive.nextPosition

/-- Whether every record lies under its own identifier. -/
structure Keyed (cabinet : Cabinet) : Prop where
  recipients : ∀ entry ∈ cabinet.recipients.records, entry.1 = entry.2.id
  groups : ∀ entry ∈ cabinet.groups.records, entry.1 = entry.2.id
  threads : ∀ entry ∈ cabinet.threads.records, entry.1 = entry.2.id
  messages : ∀ entry ∈ cabinet.messages.records, entry.1 = entry.2.id

/-- What an archive holds lies under its own identifiers. -/
theorem keyed_ofArchive (archive : Archive) : (ofArchive archive).Keyed where
  recipients _ held := Table.fst_of_mem_entries held
  groups _ held := Table.fst_of_mem_entries held
  threads _ held := Table.fst_of_mem_entries held
  messages _ held := Table.fst_of_mem_entries held

/-- Moves the thread that lies under an identifier to the top. -/
def moveToTop (unarchive : Bool) (cabinet : Cabinet) (id : ThreadId) : Cabinet :=
  if Table.contains cabinet.threads id then
    { cabinet with
      threads := cabinet.threads.modify id (Thread.raised unarchive cabinet.nextPosition)
      nextPosition := cabinet.nextPosition + 1 }
  else cabinet

/-- Carries out a request that does not crash. -/
def serve (cabinet : Cabinet) (request : Storage.Request) : Cabinet :=
  match request with
  | .registerSelf recipient =>
    { cabinet with
      recipients := cabinet.recipients.put recipient.asSelf.id recipient.asSelf }
  | .insertRecipient recipient =>
    { cabinet with recipients := cabinet.recipients.put recipient.id recipient }
  | .insertGroup roster => { cabinet with groups := cabinet.groups.put roster.id roster }
  | .removeGroup id => { cabinet with groups := Table.erase cabinet.groups id }
  | .insertThread thread =>
    { cabinet with
      nextPosition := max cabinet.nextPosition (thread.position + 1)
      threads := cabinet.threads.put thread.id thread }
  | .removeThread id => { cabinet with threads := Table.erase cabinet.threads id }
  | .insertMessage message =>
    { cabinet with messages := cabinet.messages.put message.id message }
  | .markDeleted id deleter =>
    { cabinet with messages := cabinet.messages.modify id (Message.deletedFor deleter) }
  | .markGone id =>
    { cabinet with recipients := cabinet.recipients.modify id Recipient.gone }
  | .updateThread id unarchive => cabinet.moveToTop unarchive id
  | .updateThreads ids unarchive =>
    if ids.all (Table.contains cabinet.threads) then ids.foldl (moveToTop unarchive) cabinet
    else cabinet
  | .setRegistered _ | .thread _ | .moveCount _ | .markCount _ | .transactions | .isRegistered
  | .selfId | .message _ | .conversation _ | .recipient _ | .group _ => cabinet

/-- Carries out requests one after another. -/
def serveAll (cabinet : Cabinet) (requests : List Storage.Request) : Cabinet :=
  requests.foldl serve cabinet

section

variable {archive after : Archive} {unarchive : Bool}

/-- Moving a thread to the top of the archive is moving it in the cabinet. -/
theorem ofArchive_moveToTop {id : ThreadId}
    (made : Archive.moveToTop unarchive id archive = (.ok (), after)) :
    ofArchive after = (ofArchive archive).moveToTop unarchive id := by
  have known : Table.contains (ofArchive archive).threads id = archive.threads.contains id :=
    archive.threads.contains_entries id
  unfold moveToTop
  rw [known, Table.contains_eq_isSome]
  unfold Archive.moveToTop Archive.successor? at made
  cases found : archive.threads.get? id with
  | none =>
    rw [found] at made
    cases made
    rfl
  | some thread =>
    by_cases room : archive.nextPosition.toNat + 1 < UInt64.size
    · simp only [found, if_pos room] at made
      cases made
      have placed : (archive.threads.insert
          (thread.raised unarchive archive.nextPosition)).entries =
            archive.threads.entries.modify id (Thread.raised unarchive archive.nextPosition) :=
        Table.entries_modify found rfl
      rw [Option.isSome_some, if_pos rfl]
      simp only [ofArchive]
      rw [← placed]
      rfl
    · simp only [found, if_neg room] at made
      cases made

/-- Moving threads to the top of the archive is moving them in the cabinet. -/
theorem ofArchive_moveAllToTop {ids : List ThreadId}
    (made : Archive.moveAllToTop unarchive ids archive = (.ok (), after)) :
    ofArchive after = ids.foldl (moveToTop unarchive) (ofArchive archive) := by
  induction ids generalizing archive with
  | nil =>
    cases made
    rfl
  | cons id rest ih =>
    rw [Archive.moveAllToTop] at made
    rcases first : Archive.moveToTop unarchive id archive with ⟨cause | moved, between⟩
    · rw [first] at made
      cases made
    · rw [first] at made
      rw [List.foldl_cons, ← ofArchive_moveToTop first]
      exact ih made

/-- Filing a thread in storage is filing it in the cabinet, unless it crashes. -/
theorem ofArchive_insertThread {thread : Thread}
    (sound : (Storage.insertThread thread ⟨archive, false⟩).2.poisoned = false) :
    ofArchive (Storage.insertThread thread ⟨archive, false⟩).2.value =
      (ofArchive archive).serve (.insertThread thread) := by
  unfold Storage.insertThread Guarded.writeRisky Archive.insertThread Archive.successor? at sound ⊢
  by_cases room : thread.position.toNat + 1 < UInt64.size
  · have filed := archive.threads.entries_insert thread
    simp only [if_pos room, ofArchive, serve]
    rw [← filed]
    rfl
  · simp only [if_neg room] at sound
    cases sound

/-- Noting who deleted a message is noting it in the cabinet. -/
theorem ofArchive_markDeleted (id : MessageId) (deleter : RecipientId) (archive : Archive) :
    ofArchive (archive.markDeleted id deleter).2 =
      (ofArchive archive).serve (.markDeleted id deleter) := by
  unfold Archive.markDeleted
  cases found : archive.messages.get? id with
  | none =>
    exact congrArg (fun messages => { ofArchive archive with messages })
      (Table.modify_entries_of_absent found (Message.deletedFor deleter)).symm
  | some message =>
    have noted : (archive.messages.insert (message.deletedFor deleter)).entries =
        archive.messages.entries.modify id (Message.deletedFor deleter) :=
      Table.entries_modify found rfl
    exact congrArg (fun messages => { ofArchive archive with messages }) noted

/-- Marking a recipient is marking the one in the cabinet. -/
theorem ofArchive_markGone (id : RecipientId) (archive : Archive) :
    ofArchive (archive.markGone id).2 = (ofArchive archive).serve (.markGone id) := by
  unfold Archive.markGone
  cases found : archive.recipients.get? id with
  | none =>
    exact congrArg (fun recipients => { ofArchive archive with recipients })
      (Table.modify_entries_of_absent found Recipient.gone).symm
  | some recipient =>
    have marked : (archive.recipients.insert recipient.gone).entries =
        archive.recipients.entries.modify id Recipient.gone :=
      Table.entries_modify found rfl
    exact congrArg (fun recipients => { ofArchive archive with recipients }) marked

/-- Moving one thread is moving it in the cabinet, unless it crashes. -/
theorem ofArchive_updateThread {id : ThreadId}
    (calm : ∀ cause, (archive.updateThread id unarchive).1 ≠ .error (.crash cause)) :
    ofArchive (archive.updateThread id unarchive).2 =
      (ofArchive archive).serve (.updateThread id unarchive) := by
  unfold Archive.updateThread at calm ⊢
  by_cases filed : archive.threads.contains id = true
  · rw [if_pos filed] at calm ⊢
    rcases made : Archive.moveToTop unarchive id archive with ⟨cause | moved, after⟩
    · rw [made] at calm
      exact absurd rfl (calm cause)
    · exact ofArchive_moveToTop made
  · have absent : ¬ Table.contains archive.threads.entries id = true := by
      rw [Table.contains_entries]
      exact filed
    rw [if_neg filed]
    exact (if_neg absent).symm

/-- Moving threads together is moving them in the cabinet, unless it crashes. -/
theorem ofArchive_updateThreads {ids : List ThreadId}
    (calm : ∀ cause, (archive.updateThreads ids unarchive).1 ≠ .error (.crash cause)) :
    ofArchive (archive.updateThreads ids unarchive).2 =
      (ofArchive archive).serve (.updateThreads ids unarchive) := by
  have known : Table.contains (ofArchive archive).threads = archive.threads.contains :=
    funext archive.threads.contains_entries
  unfold Archive.updateThreads at calm ⊢
  rw [serve, known]
  cases missing : ids.find? fun id => !archive.threads.contains id with
  | some id =>
    have absent : ¬ ids.all archive.threads.contains = true := by
      intro all
      have lacks := List.find?_some missing
      rw [List.all_eq_true.1 all id (List.mem_of_find?_eq_some missing)] at lacks
      cases lacks
    rw [if_neg absent]
  | none =>
    have present : ids.all archive.threads.contains = true := by
      rw [List.all_eq_true]
      intro id held
      have here := List.find?_eq_none.1 missing id held
      simpa using here
    rw [if_pos present]
    rcases made : Archive.moveAllToTop unarchive ids archive with ⟨cause | moved, after⟩
    · simp only [missing, made] at calm
      exact absurd rfl (calm cause)
    · have moving := ofArchive_moveAllToTop made
      exact moving

end

end Cabinet

/-- A risky write that leaves no crash behind has done all of its change. -/
theorem Guarded.value_of_sound {α β ε : Type} (refusal : ε) (change : α → Except (Fault ε) β × α)
    {value : α} (sound : (Guarded.writeRisky refusal change ⟨value, false⟩).2.poisoned = false) :
    (∀ cause, (change value).1 ≠ .error (.crash cause)) ∧
      (Guarded.writeRisky refusal change ⟨value, false⟩).2.value = (change value).2 := by
  unfold Guarded.writeRisky at sound ⊢
  simp only [Bool.false_eq_true, if_false] at sound ⊢
  rcases made : change value with ⟨(reason | cause) | answer, after⟩
  · exact ⟨fun cause => nofun, rfl⟩
  · rw [made] at sound
    cases sound
  · exact ⟨fun cause => nofun, rfl⟩

namespace Cabinet

/-- Carrying out a request in storage is carrying it out in the cabinet, unless it crashes. -/
theorem ofArchive_serve {request : Storage.Request} {storage : Storage}
    (sound : (Storage.serve request storage).2.poisoned = false) :
    ofArchive (Storage.serve request storage).2.value =
      (ofArchive storage.value).serve request := by
  obtain ⟨archive, poisoned⟩ := storage
  cases poisoned with
  | true =>
    rw [Storage.serve_poisoned rfl] at sound
    cases sound
  | false =>
    cases request with
    | registerSelf recipient =>
      exact congrArg (fun recipients => { ofArchive archive with recipients })
        (archive.recipients.entries_insert recipient.asSelf)
    | insertRecipient recipient =>
      exact congrArg (fun recipients => { ofArchive archive with recipients })
        (archive.recipients.entries_insert recipient)
    | insertGroup roster =>
      exact congrArg (fun groups => { ofArchive archive with groups })
        (archive.groups.entries_insert roster)
    | removeGroup id =>
      exact congrArg (fun groups => { ofArchive archive with groups })
        (archive.groups.entries_erase id)
    | insertThread thread => exact ofArchive_insertThread sound
    | removeThread id =>
      exact congrArg (fun threads => { ofArchive archive with threads })
        (archive.threads.entries_erase id)
    | insertMessage message =>
      exact congrArg (fun messages => { ofArchive archive with messages })
        (archive.messages.entries_insert message)
    | markDeleted id deleter => exact ofArchive_markDeleted id deleter archive
    | markGone id => exact ofArchive_markGone id archive
    | updateThread id unarchive =>
      obtain ⟨calm, done⟩ :=
        Guarded.value_of_sound .poisoned (Archive.updateThread id unarchive) sound
      exact (congrArg ofArchive done).trans (ofArchive_updateThread calm)
    | updateThreads ids unarchive =>
      obtain ⟨calm, done⟩ :=
        Guarded.value_of_sound .poisoned (Archive.updateThreads ids unarchive) sound
      exact (congrArg ofArchive done).trans (ofArchive_updateThreads calm)
    | setRegistered | thread | moveCount | markCount | transactions | isRegistered | selfId
    | message | conversation | recipient | group => rfl

/-- Carrying out requests in storage is carrying them out in the cabinet, unless one crashes. -/
theorem ofArchive_serveAll {requests : List Storage.Request} {storage : Storage}
    (sound : (Storage.serveAll requests storage).2.poisoned = false) :
    ofArchive (Storage.serveAll requests storage).2.value =
      (ofArchive storage.value).serveAll requests := by
  induction requests generalizing storage with
  | nil => rfl
  | cons request rest ih =>
    have first := ofArchive_serve (Storage.sound_of_serveAll sound)
    have later := @ih (Storage.serve request storage).2 sound
    rw [first] at later
    exact later

end Cabinet

end Mailroom
