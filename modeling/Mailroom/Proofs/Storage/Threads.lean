import Mailroom.Proofs.Table
import Mailroom.Storage.Keeper

/-!
# The thread list

In whatever way storage was filled, every thread lies below the position that the next thread will
take: `Storage.Reachable.stacked`. Threads that are moved to the top therefore end above all that
were not, each at the place of its last request, and nothing else of the archive changes. `Moved`
says so, and moves made together or one after another are described by it alike: it is composed by
`Moved.trans`, and holds of `moveAllToTop` by `moveAllToTop_moved`.
-/

namespace Mailroom

section

variable {α : Type} [DecidableEq α]

/-- The place of the last occurrence in a list, counted from its front. -/
def lastPlace : List α → α → Nat
  | [], _ => 0
  | _ :: rest, value => if value ∈ rest then lastPlace rest value + 1 else 0

/-- What occurs in a list has its last place inside it. -/
theorem lastPlace_lt {values : List α} {value : α} (held : value ∈ values) :
    lastPlace values value < values.length := by
  induction values with
  | nil => cases held
  | cons first rest ih =>
    rw [lastPlace, List.length_cons]
    by_cases later : value ∈ rest
    · have inside := ih later
      rw [if_pos later]
      omega
    · rw [if_neg later]
      omega

/-- The last place counts from where it occurs last. -/
theorem lastPlace_append (front back : List α) (value : α) :
    lastPlace (front ++ back) value =
      if value ∈ back then front.length + lastPlace back value else lastPlace front value := by
  induction front with
  | nil =>
    rw [List.nil_append, List.length_nil, Nat.zero_add, lastPlace]
    by_cases held : value ∈ back
    · rw [if_pos held]
    · rw [if_neg held]
      cases back with
      | nil => rfl
      | cons first rest => exact if_neg fun later => held (List.mem_cons_of_mem first later)
  | cons first rest ih =>
    rw [List.cons_append, lastPlace, lastPlace, ih, List.length_cons]
    by_cases behind : value ∈ back
    · rw [if_pos behind, if_pos behind, if_pos (List.mem_append_right rest behind)]
      omega
    · have inFront : value ∈ rest ++ back ↔ value ∈ rest := by
        rw [List.mem_append, or_iff_left behind]
      rw [if_neg behind, if_neg behind, if_congr inFront rfl rfl]

/-- One more occurrence is the last one, and moves no other. -/
theorem lastPlace_concat (values : List α) (last value : α) :
    lastPlace (values ++ [last]) value =
      if value = last then values.length else lastPlace values value := by
  rw [lastPlace_append, if_congr List.mem_singleton rfl rfl]
  rfl

end

namespace Archive

/-- A thread is on file exactly when it is found. -/
theorem contains_thread_iff {archive : Archive} {id : ThreadId} :
    archive.threads.contains id = true ↔ ∃ thread, archive.thread? id = some thread := by
  rw [Table.contains_eq_isSome, Option.isSome_iff_exists]
  rfl

/-- Whether every thread lies below the position that the next thread will take. -/
def Stacked (archive : Archive) : Prop :=
  ∀ thread ∈ archive.threads.records, thread.position < archive.nextPosition

/-- What threads that are moved to the top, one after another, turn an archive into. -/
structure Moved (unarchive : Bool) (ids : List ThreadId) (before after : Archive) : Prop where
  /-- A thread that was moved takes the place of its last request above all that was there. -/
  thread? : ∀ id, after.thread? id = (before.thread? id).map fun thread =>
    if id ∈ ids then
      { thread with
        archived := thread.archived && !unarchive
        position := UInt64.ofNat (before.nextPosition.toNat + lastPlace ids id) }
    else thread
  /-- Every request takes a position. -/
  next : after.nextPosition.toNat = before.nextPosition.toNat + ids.length
  /-- Nothing changes but the threads, the next position and what is counted. -/
  frame : after = { before with
    threads := after.threads
    nextPosition := after.nextPosition
    moves := after.moves
    transactions := after.transactions }

namespace Moved

variable {unarchive : Bool} {ids more : List ThreadId} {before between after : Archive}

/-- No thread is moved where none is asked for. -/
theorem refl (unarchive : Bool) (archive : Archive) : Moved unarchive [] archive archive := by
  refine ⟨fun id => ?_, rfl, rfl⟩
  cases archive.thread? id with
  | none => rfl
  | some thread => rfl

/-- Moves after moves are moves, and the later request for a thread counts. -/
theorem trans (first : Moved unarchive ids before between)
    (second : Moved unarchive more between after) :
    Moved unarchive (ids ++ more) before after := by
  refine ⟨fun id => ?_, ?_, ?_⟩
  · rw [second.thread?, first.thread?, Option.map_map]
    refine congrArg (fun change => (before.thread? id).map change) (funext fun thread => ?_)
    rw [Function.comp_apply, lastPlace_append, first.next]
    by_cases later : id ∈ more
    · rw [if_pos later, if_pos later, if_pos (List.mem_append_right ids later), Nat.add_assoc]
      by_cases earlier : id ∈ ids
      · rw [if_pos earlier, Bool.and_assoc, Bool.and_self]
      · rw [if_neg earlier]
    · have asked : id ∈ ids ++ more ↔ id ∈ ids := by
        rw [List.mem_append, or_iff_left later]
      rw [if_neg later, if_neg later, if_congr asked rfl rfl]
  · rw [second.next, first.next, List.length_append, Nat.add_assoc]
  · have frame := second.frame
    rw [first.frame] at frame
    exact frame

/-- Moves take no thread off the file and put none there. -/
theorem contains (moved : Moved unarchive ids before after) (id : ThreadId) :
    after.threads.contains id = before.threads.contains id := by
  have same : after.threads.get? id = _ := moved.thread? id
  rw [Table.contains_eq_isSome, Table.contains_eq_isSome, same, Option.isSome_map]
  rfl

/-- The groups on file stay as they are. -/
theorem groups (moved : Moved unarchive ids before after) : after.groups = before.groups := by
  rw [moved.frame]

/-- A thread that nobody asked for stays as it is. -/
theorem thread?_of_not_mem (moved : Moved unarchive ids before after) {id : ThreadId}
    (unasked : id ∉ ids) : after.thread? id = before.thread? id := by
  rw [moved.thread?]
  cases before.thread? id with
  | none => rfl
  | some thread => rw [Option.map_some, if_neg unasked]

/-- A thread that was asked for is found at the place of its last request. -/
theorem thread?_of_mem (moved : Moved unarchive ids before after) {id : ThreadId} {thread : Thread}
    (asked : id ∈ ids) (found : before.thread? id = some thread) :
    ∃ top, after.thread? id = some top ∧
      top.archived = (thread.archived && !unarchive) ∧
      top.position.toNat = before.nextPosition.toNat + lastPlace ids id := by
  rw [moved.thread?, found, Option.map_some, if_pos asked]
  refine ⟨_, rfl, rfl, ?_⟩
  have inside := lastPlace_lt asked
  have taken := moved.next
  have word := after.nextPosition.toNat_lt
  exact UInt64.toNat_ofNat_of_lt' (by simp only [UInt64.size]; omega)

/-- Moves keep every thread below the next position, those that were moved and those that were
not. -/
theorem stacked (moved : Moved unarchive ids before after) (stacked : before.Stacked) :
    after.Stacked := by
  intro thread held
  have found : after.thread? thread.id = some thread := Table.get?_eq_some_iff.2 ⟨held, rfl⟩
  have origin := moved.thread? thread.id
  rw [found] at origin
  obtain ⟨old, was, made⟩ := Option.map_eq_some_iff.1 origin.symm
  rw [UInt64.lt_iff_toNat_lt, moved.next]
  by_cases asked : thread.id ∈ ids
  · obtain ⟨top, here, -, place⟩ := moved.thread?_of_mem asked was
    rw [found] at here
    cases here
    have inside := lastPlace_lt asked
    omega
  · rw [if_neg asked] at made
    have below := stacked old (Table.mem_of_get? was)
    rw [UInt64.lt_iff_toNat_lt, made] at below
    omega

end Moved

/-- What moving one thread to the top can do. -/
theorem moveToTop_cases (unarchive : Bool) (id : ThreadId) (archive : Archive) :
    (archive.threads.contains id = false ∧ moveToTop unarchive id archive = (.ok (), archive)) ∨
      (∃ moved, archive.nextPosition.toNat + 1 < UInt64.size ∧
        moveToTop unarchive id archive = (.ok (), moved) ∧
        Moved unarchive [id] archive moved) ∨
      (¬ archive.nextPosition.toNat + 1 < UInt64.size ∧
        (moveToTop unarchive id archive).1 = .error .counterOverflow) := by
  unfold moveToTop
  cases found : archive.threads.get? id with
  | none =>
    refine .inl ⟨?_, rfl⟩
    rw [Table.contains_eq_isSome, found]
    rfl
  | some thread =>
    unfold successor?
    by_cases room : archive.nextPosition.toNat + 1 < UInt64.size
    · simp only [if_pos room]
      refine .inr (.inl ⟨_, room, rfl, ?_, ?_, rfl⟩)
      · intro other
        have filed : thread.id = id := Table.key_of_get? found
        refine (Table.get?_insert ..).trans ?_
        by_cases same : id = other
        · subst same
          have here : archive.thread? id = some thread := found
          rw [if_pos filed, here, Option.map_some, if_pos (List.mem_singleton_self id)]
          simp [lastPlace]
        · have unasked : other ∉ [id] := fun asked => same (List.mem_singleton.1 asked).symm
          rw [if_neg fun equal => same (filed.symm.trans equal)]
          simp [unasked, Archive.thread?]
      · show (archive.nextPosition + 1).toNat = archive.nextPosition.toNat + 1
        rw [UInt64.toNat_add]
        exact Nat.mod_eq_of_lt room
    · simp only [if_neg room]
      exact .inr (.inr ⟨room, trivial⟩)

/-- A thread on file is moved to the top, or there is no room for it. -/
theorem moveToTop_filed (unarchive : Bool) {id : ThreadId} {archive : Archive}
    (filed : archive.threads.contains id = true) :
    (∃ moved, archive.nextPosition.toNat + 1 < UInt64.size ∧
      moveToTop unarchive id archive = (.ok (), moved) ∧ Moved unarchive [id] archive moved) ∨
    (¬ archive.nextPosition.toNat + 1 < UInt64.size ∧
      ∃ half, moveToTop unarchive id archive = (.error .counterOverflow, half)) := by
  obtain ⟨absent, -⟩ | moves | ⟨full, crashed⟩ := moveToTop_cases unarchive id archive
  · rw [filed] at absent
    cases absent
  · exact .inl moves
  · exact .inr ⟨full, _, Prod.ext crashed rfl⟩

/-- Threads on file are moved to the top, or there is no room for all of them. -/
theorem moveAllToTop_filed (unarchive : Bool) {ids : List ThreadId} {archive : Archive}
    (filed : ∀ id ∈ ids, archive.threads.contains id = true) :
    (∃ moved, archive.nextPosition.toNat + ids.length < UInt64.size ∧
      moveAllToTop unarchive ids archive = (.ok (), moved) ∧ Moved unarchive ids archive moved) ∨
    (¬ archive.nextPosition.toNat + ids.length < UInt64.size ∧
      ∃ half, moveAllToTop unarchive ids archive = (.error .counterOverflow, half)) := by
  induction ids generalizing archive with
  | nil => exact .inl ⟨archive, archive.nextPosition.toNat_lt, rfl, .refl unarchive archive⟩
  | cons id rest ih =>
    rw [List.length_cons, moveAllToTop]
    obtain ⟨between, -, made, first⟩ | ⟨full, half, made⟩ :=
      moveToTop_filed unarchive (filed id List.mem_cons_self)
    · have taken := first.next
      rw [List.length_singleton] at taken
      have still : ∀ other ∈ rest, between.threads.contains other = true := by
        intro other held
        rw [first.contains]
        exact filed other (List.mem_cons_of_mem id held)
      rw [made]
      obtain ⟨moved, room, rested, second⟩ | ⟨full, half, rested⟩ := ih still
      · exact .inl ⟨moved, by omega, rested, first.trans second⟩
      · exact .inr ⟨by omega, half, rested⟩
    · rw [made]
      exact .inr ⟨by omega, half, rfl⟩

/-- Threads on file are moved to the top while there is room. -/
theorem moveAllToTop_moved (unarchive : Bool) {ids : List ThreadId} {archive : Archive}
    (filed : ∀ id ∈ ids, archive.threads.contains id = true)
    (room : archive.nextPosition.toNat + ids.length < UInt64.size) :
    ∃ moved, moveAllToTop unarchive ids archive = (.ok (), moved) ∧
      Moved unarchive ids archive moved := by
  obtain ⟨moved, -, made⟩ | ⟨full, -⟩ := moveAllToTop_filed unarchive filed
  · exact ⟨moved, made⟩
  · exact absurd room full

/-- Moving a thread to the top keeps the stack unless it crashes. -/
theorem Stacked.moveToTop {archive moved : Archive} (stacked : archive.Stacked) {unarchive : Bool}
    {id : ThreadId} (made : moveToTop unarchive id archive = (.ok (), moved)) :
    moved.Stacked := by
  obtain ⟨-, same⟩ | ⟨after, -, led, step⟩ | ⟨-, crashed⟩ := moveToTop_cases unarchive id archive
  · rw [made] at same
    cases same
    exact stacked
  · rw [made] at led
    cases led
    exact step.stacked stacked
  · rw [made] at crashed
    cases crashed

/-- Moving threads to the top keeps the stack unless it crashes. -/
theorem Stacked.moveAllToTop {archive moved : Archive} (stacked : archive.Stacked)
    {unarchive : Bool} {ids : List ThreadId}
    (made : Archive.moveAllToTop unarchive ids archive = (.ok (), moved)) : moved.Stacked := by
  induction ids generalizing archive with
  | nil =>
    cases made
    exact stacked
  | cons id rest ih =>
    rw [Archive.moveAllToTop] at made
    cases first : Archive.moveToTop unarchive id archive with
    | mk answer between =>
      rw [first] at made
      cases answer with
      | error cause => cases made
      | ok => exact ih (stacked.moveToTop first) made

/-- Filing a thread keeps the stack unless it crashes. -/
theorem Stacked.insertThread {archive filed : Archive} (stacked : archive.Stacked) {thread : Thread}
    (made : archive.insertThread thread = (.ok (), filed)) : filed.Stacked := by
  unfold Archive.insertThread successor? at made
  by_cases room : thread.position.toNat + 1 < UInt64.size
  · rw [if_pos room] at made
    cases made
    have above : (thread.position + 1).toNat = thread.position.toNat + 1 := by
      rw [UInt64.toNat_add]
      exact Nat.mod_eq_of_lt room
    have highest : (max archive.nextPosition (thread.position + 1)).toNat =
        max archive.nextPosition.toNat (thread.position.toNat + 1) := by
      show (if archive.nextPosition ≤ thread.position + 1 then thread.position + 1
        else archive.nextPosition).toNat = _
      by_cases higher : archive.nextPosition ≤ thread.position + 1
      · rw [if_pos higher]
        rw [UInt64.le_iff_toNat_le] at higher
        omega
      · rw [if_neg higher]
        rw [UInt64.le_iff_toNat_le] at higher
        omega
    intro other held
    show other.position < max archive.nextPosition (thread.position + 1)
    rw [UInt64.lt_iff_toNat_lt, highest]
    rcases Table.mem_insert.1 held with rfl | ⟨old, -⟩
    · omega
    · have below := stacked other old
      rw [UInt64.lt_iff_toNat_lt] at below
      omega
  · rw [if_neg room] at made
    cases made

/-- Forgetting a thread keeps the stack. -/
theorem Stacked.removeThread {archive : Archive} (stacked : archive.Stacked) (id : ThreadId) :
    (archive.removeThread id).Stacked :=
  fun thread held => stacked thread (List.mem_of_mem_filter held)

/-- Moving one thread keeps the stack unless it crashes. -/
theorem Stacked.updateThread {archive : Archive} (stacked : archive.Stacked) {id : ThreadId}
    {unarchive : Bool}
    (calm : ∀ cause, (archive.updateThread id unarchive).1 ≠ .error (.crash cause)) :
    (archive.updateThread id unarchive).2.Stacked := by
  unfold Archive.updateThread at calm ⊢
  by_cases filed : archive.threads.contains id = true
  · rw [if_pos filed] at calm ⊢
    cases made : Archive.moveToTop unarchive id archive with
    | mk answer moved =>
      rw [made] at calm
      cases answer with
      | error cause => exact absurd rfl (calm cause)
      | ok => exact stacked.moveToTop made
  · rw [if_neg filed]
    exact stacked

/-- Among threads on file none is missing. -/
theorem find?_missing_of_filed {archive : Archive} {ids : List ThreadId}
    (filed : ∀ id ∈ ids, archive.threads.contains id = true) :
    (ids.find? fun id => !archive.threads.contains id) = none := by
  rw [List.find?_eq_none]
  intro id held
  rw [filed id held]
  decide

/-- Moving threads together keeps the stack unless it crashes. -/
theorem Stacked.updateThreads {archive : Archive} (stacked : archive.Stacked) {ids : List ThreadId}
    {unarchive : Bool}
    (calm : ∀ cause, (archive.updateThreads ids unarchive).1 ≠ .error (.crash cause)) :
    (archive.updateThreads ids unarchive).2.Stacked := by
  unfold Archive.updateThreads at calm ⊢
  cases missing : ids.find? fun id => !archive.threads.contains id with
  | some id => exact stacked
  | none =>
    cases made : Archive.moveAllToTop unarchive ids archive with
    | mk answer moved =>
      simp only [missing, made] at calm ⊢
      cases answer with
      | error cause => exact absurd rfl (calm cause)
      | ok =>
        have kept : moved.Stacked := stacked.moveAllToTop made
        exact kept

end Archive

/-- Whether something holds of a value that no crash has left half done. -/
def Guarded.Holds {α : Type} (kept : α → Prop) (guarded : Guarded α) : Prop :=
  guarded.poisoned = false → kept guarded.value

namespace Guarded.Holds

variable {α β ε : Type} {kept : α → Prop} {guarded : Guarded α} {refusal : ε}

/-- A write keeps what its change keeps. -/
theorem write (holds : guarded.Holds kept) {change : α → Except ε β × α}
    (step : ∀ value, kept value → kept (change value).2) :
    (guarded.write refusal change).2.Holds kept := by
  intro sound
  unfold Guarded.write at sound ⊢
  by_cases poisoned : guarded.poisoned = true
  · rw [if_pos poisoned] at sound ⊢
    exact holds sound
  · rw [if_neg poisoned]
    exact step guarded.value (holds (Bool.eq_false_iff.2 poisoned))

/-- A risky write keeps what its change keeps when it does not crash. -/
theorem writeRisky (holds : guarded.Holds kept) {change : α → Except (Fault ε) β × α}
    (step : ∀ value, kept value → (∀ cause, (change value).1 ≠ .error (.crash cause)) →
      kept (change value).2) :
    (guarded.writeRisky refusal change).2.Holds kept := by
  intro sound
  unfold Guarded.writeRisky at sound ⊢
  by_cases poisoned : guarded.poisoned = true
  · rw [if_pos poisoned] at sound ⊢
    exact holds sound
  · have before := holds (Bool.eq_false_iff.2 poisoned)
    have kept := step guarded.value before
    rw [if_neg poisoned] at sound ⊢
    rcases made : change guarded.value with ⟨(reason | cause) | answer, value⟩
    · simp only [made] at kept ⊢
      exact kept fun cause crashed => nomatch crashed
    · simp only [made] at sound
      cases sound
    · simp only [made] at kept ⊢
      exact kept fun cause crashed => nomatch crashed

end Guarded.Holds

namespace Storage

/-- What storage can become when it is used from the start, crashes included. -/
inductive Reachable : Storage → Prop where
  | empty : Reachable .empty
  | registerSelf {storage : Storage} (reached : Reachable storage) (recipient : Recipient) :
    Reachable (storage.change (Archive.registerSelf recipient)).2
  | setRegistered {storage : Storage} (reached : Reachable storage) (registered : Bool) :
    Reachable (storage.change (Archive.setRegistered registered)).2
  | insertRecipient {storage : Storage} (reached : Reachable storage) (recipient : Recipient) :
    Reachable (storage.change (Archive.insertRecipient recipient)).2
  | insertGroup {storage : Storage} (reached : Reachable storage) (roster : Roster) :
    Reachable (storage.change (Archive.insertGroup roster)).2
  | removeGroup {storage : Storage} (reached : Reachable storage) (id : GroupId) :
    Reachable (storage.change (Archive.removeGroup id)).2
  | insertThread {storage : Storage} (reached : Reachable storage) (thread : Thread) :
    Reachable (storage.insertThread thread).2
  | removeThread {storage : Storage} (reached : Reachable storage) (id : ThreadId) :
    Reachable (storage.change (Archive.removeThread id)).2
  | insertMessage {storage : Storage} (reached : Reachable storage) (message : Message) :
    Reachable (storage.change (Archive.insertMessage message)).2
  | markDeleted {storage : Storage} (reached : Reachable storage) (id : MessageId)
    (deleter : RecipientId) : Reachable (storage.markDeleted id deleter).2
  | markGone {storage : Storage} (reached : Reachable storage) (id : RecipientId) :
    Reachable (storage.markGone id).2
  | updateThread {storage : Storage} (reached : Reachable storage) (id : ThreadId)
    (unarchive : Bool) : Reachable (storage.updateThread id unarchive).2
  | updateThreads {storage : Storage} (reached : Reachable storage) (ids : List ThreadId)
    (unarchive : Bool) : Reachable (storage.updateThreads ids unarchive).2

/-- In storage that no crash has left half done, every thread lies below the next position. -/
theorem Reachable.stacked {storage : Storage} (reached : storage.Reachable) :
    storage.Holds Archive.Stacked := by
  induction reached with
  | empty =>
    intro _ thread held
    cases held
  | registerSelf reached recipient ih => exact ih.write fun _ stacked => stacked
  | setRegistered reached registered ih => exact ih.write fun _ stacked => stacked
  | insertRecipient reached recipient ih => exact ih.write fun _ stacked => stacked
  | insertGroup reached roster ih => exact ih.write fun _ stacked => stacked
  | removeGroup reached id ih => exact ih.write fun _ stacked => stacked
  | insertMessage reached message ih => exact ih.write fun _ stacked => stacked
  | removeThread reached id ih => exact ih.write fun _ stacked => stacked.removeThread id
  | insertThread reached thread ih =>
    refine ih.writeRisky fun archive stacked calm => ?_
    cases made : archive.insertThread thread with
    | mk answer filed =>
      simp only [made] at calm ⊢
      cases answer with
      | error cause => exact absurd rfl (calm cause)
      | ok => exact stacked.insertThread made
  | markDeleted reached id deleter ih =>
    refine ih.write fun archive stacked => ?_
    unfold Archive.markDeleted
    cases archive.messages.get? id with
    | none => exact stacked
    | some message => exact stacked
  | markGone reached id ih =>
    refine ih.write fun archive stacked => ?_
    unfold Archive.markGone
    cases archive.recipients.get? id with
    | none => exact stacked
    | some recipient => exact stacked
  | updateThread reached id unarchive ih =>
    exact ih.writeRisky fun _ stacked calm => stacked.updateThread calm
  | updateThreads reached ids unarchive ih =>
    exact ih.writeRisky fun _ stacked calm => stacked.updateThreads calm

/-- Whether storage finds a thread. -/
def Finds (storage : Storage) (id : ThreadId) : Prop :=
  ∃ thread, storage.look (Archive.thread? id) = .ok (some thread)

/-- Storage that finds a thread is sound and has it on file. -/
theorem Finds.filed {storage : Storage} {id : ThreadId} (finds : storage.Finds id) :
    storage.poisoned = false ∧ storage.value.threads.contains id = true := by
  obtain ⟨thread, found⟩ := finds
  unfold look Guarded.read at found
  by_cases poisoned : storage.poisoned = true
  · rw [if_pos poisoned] at found
    cases found
  · rw [if_neg poisoned] at found
    have here : storage.value.threads.get? id = some thread := by
      injection found
    refine ⟨Bool.eq_false_iff.2 poisoned, ?_⟩
    rw [Table.contains_eq_isSome, here]
    rfl

/-- What moves to the top that take threads out of the archive turn storage into. -/
structure Moved (ids : List ThreadId) (before after : Storage) : Prop where
  poisoned : after.poisoned = before.poisoned
  archive : Archive.Moved true ids before.value after.value

namespace Moved

variable {ids more : List ThreadId} {before between after : Storage}

/-- Nothing moves where nothing is asked for. -/
theorem refl (storage : Storage) : Moved [] storage storage :=
  ⟨rfl, .refl true storage.value⟩

/-- Moves after moves are moves. -/
theorem trans (first : Moved ids before between) (second : Moved more between after) :
    Moved (ids ++ more) before after :=
  ⟨second.poisoned.trans first.poisoned, first.archive.trans second.archive⟩

/-- The groups that storage answers with stay the same. -/
theorem group (moved : Moved ids before after) : after.group = before.group := by
  funext id
  simp only [Storage.group, look, Guarded.read, moved.poisoned, moved.archive.groups]

end Moved

variable {storage : Storage}

/-- A thread on file is moved while there is room. -/
theorem updateThread_moved {id : ThreadId} (sound : storage.poisoned = false)
    (filed : storage.value.threads.contains id = true)
    (room : storage.value.nextPosition.toNat + 1 < UInt64.size) :
    ∃ after, storage.updateThread id true = (.ok (), after) ∧ Moved [id] storage after := by
  obtain ⟨moved, -, made, step⟩ | ⟨full, -⟩ := Archive.moveToTop_filed true filed
  · refine ⟨⟨moved, false⟩, ?_, sound.symm, step⟩
    unfold updateThread Guarded.writeRisky Archive.updateThread
    simp only [sound, filed, made, Bool.false_eq_true, if_true, if_false]
    rfl
  · exact absurd room full

/-- Threads on file are moved together while there is room. -/
theorem updateThreads_moved {ids : List ThreadId} (sound : storage.poisoned = false)
    (filed : ∀ id ∈ ids, storage.value.threads.contains id = true)
    (room : storage.value.nextPosition.toNat + ids.length < UInt64.size) :
    ∃ after, storage.updateThreads ids true = (.ok (), after) ∧ Moved ids storage after := by
  obtain ⟨moved, made, step⟩ := Archive.moveAllToTop_moved true filed room
  have found := Archive.find?_missing_of_filed filed
  refine ⟨⟨{ moved with transactions := moved.transactions + 1 }, false⟩, ?_, sound.symm,
    step.thread?, step.next, ?_⟩
  · unfold updateThreads Guarded.writeRisky Archive.updateThreads
    simp only [sound, found, made, Bool.false_eq_true, if_false]
  · rw [step.frame]

/-- Whether storage finds all threads of a list and has positions for all of them. -/
structure Ready (storage : Storage) (ids : List ThreadId) : Prop where
  finds : ∀ id ∈ ids, storage.Finds id
  room : storage.value.nextPosition.toNat + ids.length < UInt64.size

/-- Storage that is ready for some threads is ready for those in front of others. -/
theorem Ready.front {storage : Storage} {ids more : List ThreadId}
    (ready : storage.Ready (ids ++ more)) : storage.Ready ids := by
  refine ⟨fun id held => ready.finds id (List.mem_append_left more held), ?_⟩
  have room := ready.room
  rw [List.length_append] at room
  omega

/-- A thread that storage was ready for besides others is moved after these. -/
theorem Moved.updateThread {ids : List ThreadId} {before between : Storage}
    (moved : Moved ids before between) {id : ThreadId} (ready : before.Ready (ids ++ [id])) :
    ∃ after, between.updateThread id true = (.ok (), after) ∧
      Moved (ids ++ [id]) before after := by
  have finds := ready.finds id (List.mem_append_right ids (List.mem_singleton_self id))
  have filed : between.value.threads.contains id = true := by
    rw [moved.archive.contains]
    exact finds.filed.2
  have room : between.value.nextPosition.toNat + 1 < UInt64.size := by
    have all := ready.room
    rw [List.length_append, List.length_singleton] at all
    have taken := moved.archive.next
    omega
  obtain ⟨after, made, step⟩ :=
    updateThread_moved (moved.poisoned.trans finds.filed.1) filed room
  exact ⟨after, made, moved.trans step⟩

/-- Threads that storage is ready for are moved together. -/
theorem Ready.updateThreads {storage : Storage} {ids : List ThreadId} (ready : storage.Ready ids)
    (some : ids ≠ []) :
    ∃ after, storage.updateThreads ids true = (.ok (), after) ∧ Moved ids storage after := by
  obtain ⟨id, held⟩ := List.exists_mem_of_ne_nil ids some
  exact updateThreads_moved (ready.finds id held).filed.1
    (fun other asked => (ready.finds other asked).filed.2) ready.room

end Storage

end Mailroom
