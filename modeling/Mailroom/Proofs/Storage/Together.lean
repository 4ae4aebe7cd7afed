import Mailroom.Proofs.Storage.Requests

/-!
# Threads that are moved together

Moving threads together is moving them one after another, in one piece: a thread that is not on file
is noticed before the first is moved, and where the positions run out on the way, storage is left
half done and refuses all that follows. So nobody meets threads of which some are moved and others
are still to be moved: `moves_together`.
-/

namespace Mailroom

namespace Archive

variable {archive after : Archive} {unarchive : Bool} {ids : List ThreadId}

/-- Moving threads one after another is not counted as moving them together. -/
theorem transactions_moveAllToTop (unarchive : Bool) (ids : List ThreadId) (archive : Archive) :
    (moveAllToTop unarchive ids archive).2.transactions = archive.transactions := by
  induction ids generalizing archive with
  | nil => rfl
  | cons id rest ih =>
    have first : (moveToTop unarchive id archive).2.transactions = archive.transactions := by
      unfold moveToTop
      cases archive.threads.get? id with
      | none => rfl
      | some thread => cases successor? archive.nextPosition <;> rfl
    rw [moveAllToTop]
    rcases made : moveToTop unarchive id archive with ⟨cause | moved, between⟩
    · rw [made] at first
      exact first
    · rw [made] at first
      exact (ih between).trans first

/-- Threads on file that can be moved one after another are moved together. -/
theorem updateThreads_of_moved (filed : ∀ id ∈ ids, archive.threads.contains id = true)
    (made : moveAllToTop unarchive ids archive = (.ok (), after)) :
    archive.updateThreads ids unarchive =
      (.ok (), { after with transactions := after.transactions + 1 }) := by
  simp only [updateThreads, find?_missing_of_filed filed, made]

/-- Where moving threads one after another crashes, moving them together does. -/
theorem updateThreads_of_crashed (filed : ∀ id ∈ ids, archive.threads.contains id = true)
    {cause : Crash} (made : moveAllToTop unarchive ids archive = (.error cause, after)) :
    archive.updateThreads ids unarchive = (.error (.crash cause), after) := by
  simp only [updateThreads, find?_missing_of_filed filed, made]

/-- A thread that is not on file is noticed before any is moved. -/
theorem updateThreads_of_missing {front : List ThreadId} {id : ThreadId}
    (filed : ∀ other ∈ front, archive.threads.contains other = true)
    (missing : archive.threads.contains id = false) (back : List ThreadId) (unarchive : Bool) :
    archive.updateThreads (front ++ id :: back) unarchive =
      (.error (.error (.notFound "thread" id.text)), archive) := by
  have first : ((front ++ id :: back).find? fun id => !archive.threads.contains id) = some id := by
    rw [List.find?_append, find?_missing_of_filed filed, Option.none_or]
    exact List.find?_cons_of_pos (by rw [missing]; rfl)
  unfold updateThreads
  rw [first]

end Archive

namespace Storage

variable {archive after : Archive} {unarchive : Bool} {ids : List ThreadId}

/-- A thread on file is moved on its own as it is moved among others. -/
theorem updateThread_of_moveToTop {id : ThreadId} (filed : archive.threads.contains id = true)
    (made : Archive.moveToTop unarchive id archive = (.ok (), after)) :
    updateThread id unarchive ⟨archive, false⟩ = (.ok (), ⟨after, false⟩) := by
  unfold updateThread Guarded.writeRisky Archive.updateThread
  simp only [filed, made, Bool.false_eq_true, if_true, if_false]
  rfl

/-- Threads on file that are asked for one after another are moved one after another. -/
theorem serveAll_updates (filed : ∀ id ∈ ids, archive.threads.contains id = true)
    (made : Archive.moveAllToTop unarchive ids archive = (.ok (), after)) :
    serveAll (ids.map fun id => .updateThread id unarchive) ⟨archive, false⟩ =
      (List.replicate ids.length (.ok ()), ⟨after, false⟩) := by
  induction ids generalizing archive with
  | nil =>
    cases made
    rfl
  | cons id rest ih =>
    rw [Archive.moveAllToTop] at made
    obtain ⟨between, -, first, step⟩ | ⟨-, half, first⟩ :=
      Archive.moveToTop_filed unarchive (filed id List.mem_cons_self)
    · rw [first] at made
      have still : ∀ other ∈ rest, between.threads.contains other = true := by
        intro other held
        rw [step.contains]
        exact filed other (List.mem_cons_of_mem id held)
      have answered := updateThread_of_moveToTop (filed id List.mem_cons_self) first
      rw [List.map_cons, serveAll, serve, answered]
      simp only [ih still made, List.length_cons, List.replicate_succ]
    · rw [first] at made
      cases made

/-- What comes of moving threads together. Positions are words of 64 bits, while the count of such
moves has no bound here. -/
structure MovesTogether (ids : List ThreadId) (unarchive : Bool) (storage : Storage) : Prop where
  /-- If a thread is not on file, it is said which is the first, and nothing is changed. -/
  missing : storage.poisoned = false → ∀ front id back, ids = front ++ id :: back →
    (∀ other ∈ front, storage.value.threads.contains other = true) →
      storage.value.threads.contains id = false →
        storage.updateThreads ids unarchive =
          (.error (.error (.notFound "thread" id.text)), storage)
  /-- While there are positions, what comes of it is what comes of moving the threads on their own,
  one after another, which is answered each time, except that it is counted once. -/
  moved : storage.poisoned = false →
    (∀ id ∈ ids, storage.value.threads.contains id = true) →
      storage.value.nextPosition.toNat + ids.length < UInt64.size →
        ∃ after : Archive,
          serveAll (ids.map fun id => .updateThread id unarchive) storage =
            (List.replicate ids.length (.ok ()), ⟨after, false⟩) ∧
          after.transactions = storage.value.transactions ∧
          storage.updateThreads ids unarchive =
            (.ok (), ⟨{ after with transactions := storage.value.transactions + 1 }, false⟩)
  /-- If there are too few positions, it crashes, and everything that is asked later is refused. -/
  crashed : storage.poisoned = false →
    (∀ id ∈ ids, storage.value.threads.contains id = true) →
      ¬ storage.value.nextPosition.toNat + ids.length < UInt64.size →
        ∃ half, storage.updateThreads ids unarchive = (.error (.crash .counterOverflow), half) ∧
          ∀ requests, serveAll requests half =
            (List.replicate requests.length (.error (.error .poisoned)), half)
  /-- After a crash it is refused like everything else. -/
  refused : storage.poisoned = true →
    storage.updateThreads ids unarchive = (.error (.error .poisoned), storage)

/-- Threads are moved together as they are moved one after another, all of them or none, and if that
crashes nobody meets the threads again. -/
theorem moves_together (ids : List ThreadId) (unarchive : Bool) (storage : Storage) :
    MovesTogether ids unarchive storage where
  missing sound front id back split filed absent := by
    obtain ⟨archive, poisoned⟩ := storage
    cases sound
    subst split
    have noticed := Archive.updateThreads_of_missing filed absent back unarchive
    unfold updateThreads Guarded.writeRisky
    simp only [noticed, Bool.false_eq_true, if_false]
  moved sound filed room := by
    obtain ⟨archive, poisoned⟩ := storage
    cases sound
    obtain ⟨after, made, -⟩ := Archive.moveAllToTop_moved unarchive filed room
    have kept := archive.transactions_moveAllToTop unarchive ids
    have together := Archive.updateThreads_of_moved filed made
    rw [made] at kept
    refine ⟨after, serveAll_updates filed made, kept, ?_⟩
    unfold updateThreads Guarded.writeRisky
    simp only [together, Bool.false_eq_true, if_false]
    rw [← kept]
  crashed sound filed full := by
    obtain ⟨archive, poisoned⟩ := storage
    cases sound
    obtain ⟨-, room, -⟩ | ⟨-, half, made⟩ := Archive.moveAllToTop_filed unarchive filed
    · exact absurd room full
    have together := Archive.updateThreads_of_crashed filed made
    refine ⟨⟨half, true⟩, ?_, fun requests => serveAll_poisoned rfl requests⟩
    unfold updateThreads Guarded.writeRisky
    simp only [together, Bool.false_eq_true, if_false]
  refused poisoned := Guarded.writeRisky_poisoned _ _ poisoned

/-- Storage with two threads, in which two positions are left. -/
def nearTheEnd : Storage :=
  (serveAll [.insertThread ⟨⟨1⟩, ⟨10⟩, true, 0⟩,
    .insertThread ⟨⟨2⟩, ⟨20⟩, false, 18446744073709551612⟩] .empty).2

/-- There a third thread is missing, two threads are moved, and the third of three moves is one too
many. -/
theorem moves_together_nearTheEnd :
    nearTheEnd.updateThreads [⟨1⟩, ⟨3⟩, ⟨2⟩] true =
        (.error (.error (.notFound "thread" (⟨3⟩ : ThreadId).text)), nearTheEnd) ∧
      (∃ after, nearTheEnd.updateThreads [⟨2⟩, ⟨1⟩] true = (.ok (), after) ∧
        after.value.transactions = 1 ∧
        after.value.threads.records =
          [⟨⟨1⟩, ⟨10⟩, false, 18446744073709551614⟩, ⟨⟨2⟩, ⟨20⟩, false, 18446744073709551613⟩]) ∧
      ∃ half, nearTheEnd.updateThreads [⟨1⟩, ⟨2⟩, ⟨1⟩] true =
          (.error (.crash .counterOverflow), half) ∧
        (serveAll [.thread ⟨1⟩, .updateThreads [⟨1⟩] true] half).1 =
          [.error (.error .poisoned), .error (.error .poisoned)] := by
  refine ⟨?_, ⟨_, rfl, by decide +kernel⟩, ?_⟩
  · exact (moves_together [⟨1⟩, ⟨3⟩, ⟨2⟩] true nearTheEnd).missing (by decide +kernel) [⟨1⟩] ⟨3⟩
      [⟨2⟩] rfl (by decide +kernel) (by decide +kernel)
  · obtain ⟨half, crashed, refused⟩ := (moves_together [⟨1⟩, ⟨2⟩, ⟨1⟩] true nearTheEnd).crashed
      (by decide +kernel) (by decide +kernel) (by decide +kernel)
    exact ⟨half, crashed, congrArg Prod.fst (refused _)⟩

end Storage

end Mailroom
