import Mailroom.Proofs.Storage.Filing

/-!
# Above all other threads

The next position lies above every thread, and a thread that is moved to the top takes it. Nothing
that storage can be asked brings a thread to the next position or above without raising it, and
nothing lowers it: `thread_list_in_order` says so of whatever storage was asked before, unless it
crashed.
-/

namespace Mailroom.Storage

variable {storage after : Storage} {id : ThreadId} {unarchive : Bool}

/-- What one thread that was moved to the top turns storage into. -/
structure Raised (id : ThreadId) (unarchive : Bool) (before after : Storage) (thread : Thread) :
    Prop where
  found : before.value.thread? id = some thread
  archive : after.value = { before.value with
    threads := before.value.threads.insert (thread.raised unarchive before.value.nextPosition)
    nextPosition := before.value.nextPosition + 1
    moves := before.value.moves.add id }

/-- A thread is moved in this way only. -/
theorem exists_raised (made : storage.updateThread id unarchive = (.ok (), after)) :
    ∃ thread, Raised id unarchive storage after thread := by
  obtain ⟨archive, poisoned⟩ := storage
  unfold updateThread Guarded.writeRisky Archive.updateThread Archive.moveToTop
    Archive.successor? at made
  cases poisoned with
  | true => cases made
  | false =>
    rw [Table.contains_eq_isSome] at made
    cases found : archive.threads.get? id with
    | none =>
      rw [found] at made
      cases made
    | some thread =>
      by_cases room : archive.nextPosition.toNat + 1 < UInt64.size
      · simp only [found, if_pos room, Option.isSome_some, Bool.false_eq_true, if_true,
          if_false] at made
        cases made
        exact ⟨thread, found, rfl⟩
      · simp only [found, if_neg room, Option.isSome_some, Bool.false_eq_true, if_true,
          if_false] at made
        cases made

namespace Raised

variable {before : Storage} {thread : Thread}

/-- Moving a thread changes what is found under its identifier. -/
theorem thread? (raised : Raised id unarchive before after thread) (other : ThreadId) :
    after.value.thread? other =
      if id = other then some (thread.raised unarchive before.value.nextPosition)
      else before.value.thread? other := by
  have here : thread.id = id := Table.key_of_get? raised.found
  rw [raised.archive, ← here]
  exact Table.get?_insert ..

/-- One more move of the thread is counted, and none of another. -/
theorem moveCount (raised : Raised id unarchive before after thread) (other : ThreadId) :
    after.value.moveCount other = before.value.moveCount other + if id = other then 1 else 0 := by
  rw [raised.archive]
  exact Tally.count_add before.value.moves id other

end Raised

/-- What storage answers of the threads after one of them was moved to the top. -/
structure Topmost (id : ThreadId) (unarchive : Bool) (before after : Storage) : Prop where
  /-- The thread is still there, at a place above those of all others. -/
  top : ∃ thread top, before.value.thread? id = some thread ∧
    after.value.thread? id = some top ∧
    top = { thread with archived := thread.archived && !unarchive, position := top.position } ∧
    ∀ other beneath, other ≠ id → after.value.thread? other = some beneath →
      beneath.position < top.position
  /-- One more move of it is counted. -/
  counted : after.value.moveCount id = before.value.moveCount id + 1
  /-- Nothing is changed or counted of the others. -/
  others : ∀ other, other ≠ id → after.value.thread? other = before.value.thread? other ∧
    after.value.moveCount other = before.value.moveCount other

/-- What holds of storage to which requests have led from the start without a crash. -/
structure InOrder (requests : List Request) (storage : Storage) : Prop where
  /-- Every thread is below the next position. -/
  below : ∀ thread ∈ storage.value.threads.records,
    thread.position < storage.value.nextPosition
  /-- The next position does not fall, whatever is asked from here on. -/
  grows : ∀ more, storage.value.nextPosition ≤ (serveAll more storage).2.value.nextPosition
  /-- Carried out in a cabinet, the requests leave the same records in it, and each lies under its
  own identifier. -/
  filed : Cabinet.ofArchive storage.value = Cabinet.empty.serveAll requests ∧
    (Cabinet.empty.serveAll requests).Keyed
  /-- The count of the moves of a thread has not run out of words of 64 bits. -/
  countable : ∀ id, storage.value.moveCount id < UInt64.size
  /-- A thread that is moved to the top is above all others, which stay as they are. -/
  topmost : ∀ id unarchive after, storage.updateThread id unarchive = (.ok (), after) →
    Topmost id unarchive storage after

/-- A thread that is moved comes to lie above the others if all were below the next position. -/
theorem topmost_of_stacked (stacked : storage.value.Stacked)
    (made : storage.updateThread id unarchive = (.ok (), after)) :
    Topmost id unarchive storage after := by
  obtain ⟨thread, raised⟩ := exists_raised made
  -- The others keep their places, which were all below the one that the thread takes.
  have still : ∀ other, other ≠ id → after.value.thread? other = storage.value.thread? other := by
    intro other apart
    rw [raised.thread?, if_neg (Ne.symm apart)]
  refine ⟨⟨thread, thread.raised unarchive storage.value.nextPosition, raised.found, ?_, rfl, ?_⟩,
    ?_, ?_⟩
  · rw [raised.thread?, if_pos rfl]
  · intro other beneath apart found
    rw [still other apart] at found
    exact stacked beneath (Table.mem_of_get? found)
  · rw [raised.moveCount, if_pos rfl]
  · intro other apart
    refine ⟨still other apart, ?_⟩
    rw [raised.moveCount, if_neg (Ne.symm apart)]
    rfl

/-- Whatever was asked of storage from the start without a crash, its threads are in order. -/
theorem thread_list_in_order {requests : List Request}
    (sound : (serveAll requests .empty).2.poisoned = false) :
    InOrder requests (serveAll requests .empty).2 where
  below := (Reachable.empty.serveAll requests).stacked sound
  grows more := (serveAll_advance more _).position
  filed := by
    have same := Cabinet.ofArchive_serveAll sound
    refine ⟨same, ?_⟩
    have keyed := Cabinet.keyed_ofArchive (serveAll requests .empty).2.value
    rw [same] at keyed
    exact keyed
  countable other := by
    have counted := (serveAll_advance requests .empty).counted other
    have start : Storage.empty.value.moveCount other = 0 := rfl
    have word := (serveAll requests .empty).2.value.nextPosition.toNat_lt
    simp only [UInt64.size]
    omega
  topmost other unarchive after made :=
    topmost_of_stacked ((Reachable.empty.serveAll requests).stacked sound) made

/-- Two threads are filed with places of their own, one is moved, taken off the file and put back,
and both are moved together. -/
def thereAndBack : List Request :=
  [.insertThread ⟨⟨1⟩, ⟨10⟩, true, 7⟩, .insertThread ⟨⟨2⟩, ⟨20⟩, false, 3⟩, .updateThread ⟨2⟩ true,
    .removeThread ⟨2⟩, .insertThread ⟨⟨2⟩, ⟨20⟩, false, 0⟩, .updateThreads [⟨2⟩, ⟨1⟩, ⟨2⟩] false]

/-- The threads are in order then, and the first, moved once more, comes above the second. -/
theorem thread_list_in_order_thereAndBack :
    InOrder thereAndBack (serveAll thereAndBack .empty).2 ∧
      (serveAll thereAndBack .empty).2.value.threads.records =
        [⟨⟨1⟩, ⟨10⟩, true, 10⟩, ⟨⟨2⟩, ⟨20⟩, false, 11⟩] ∧
      ∃ after, (serveAll thereAndBack .empty).2.updateThread ⟨1⟩ true = (.ok (), after) ∧
        Topmost ⟨1⟩ true (serveAll thereAndBack .empty).2 after ∧
        after.value.thread? ⟨1⟩ = some ⟨⟨1⟩, ⟨10⟩, false, 12⟩ := by
  have ordered := @thread_list_in_order thereAndBack (by decide +kernel)
  refine ⟨ordered, by decide +kernel, _, rfl, ?_, by decide +kernel⟩
  exact ordered.topmost ⟨1⟩ true _ rfl

end Mailroom.Storage
