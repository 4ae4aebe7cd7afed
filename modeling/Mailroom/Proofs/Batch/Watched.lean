import Mailroom.Batch.Processor
import Mailroom.Proofs.Batch.Flush

/-!
# What the batch loop calls

Whom the loop calls sees the lock as it is at that moment. To speak of it, the duties of the loop
are watched: whenever others are waited for, a message is handled or the cache is flushed, this is
noted behind the calls before it, together with the lock, the cache and the state that the call was
given. The notes do not change what the loop does: `process_unwatched`.
-/

namespace Mailroom.Batch

/-- What the loop has in its hands at a call. -/
structure Standing (C σ : Type) where
  lock : GroupLock
  cache : C
  state : σ

/-- A call that the loop made, with what it was given. -/
inductive Sight (C σ : Type) where
  /-- Others were waited for. -/
  | wait (lock : GroupLock) (state : σ)
  /-- A message was handled. -/
  | handle (message : Incoming) (standing : Standing C σ)
  /-- The cache was flushed. -/
  | flush (standing : Standing C σ)

variable {C σ : Type}

/-- Duties with a note of every call, reports apart. -/
def Duties.watched (duties : Duties C σ) : Duties C (σ × List (Sight C σ)) where
  wait lock seen := (duties.wait lock seen.1, seen.2 ++ [.wait lock seen.1])
  handle message lock cache seen :=
    let handled := duties.handle message lock cache seen.1
    ⟨handled.answer, handled.cache, handled.state,
      seen.2 ++ [.handle message ⟨lock, cache, seen.1⟩]⟩
  flush lock cache seen :=
    let flushed := duties.flush lock cache seen.1
    ⟨flushed.answer, flushed.cache, flushed.state, seen.2 ++ [.flush ⟨lock, cache, seen.1⟩]⟩
  report event lock seen := (duties.report event lock seen.1, seen.2)

/-- What the loop led to, without the notes. -/
def Processing.unwatched {Notes : Type} (processed : Processing C (σ × Notes)) : Processing C σ :=
  ⟨processed.answer, processed.lock, processed.cache, processed.state.1⟩

variable (duties : Duties C σ)

/-- The messages of a batch are handled the same if the calls are noted. -/
theorem handleAll_unwatched (lock : GroupLock) (messages : List Incoming) (summary : Summary)
    (cache : C) (seen : σ × List (Sight C σ)) :
    (handleAll duties.watched lock messages summary cache seen).unwatched =
      handleAll duties lock messages summary cache seen.1 := by
  induction messages generalizing summary cache seen with
  | nil => rfl
  | cons message rest ih =>
    have answer : (duties.watched.handle message lock cache seen).answer =
        (duties.handle message lock cache seen.1).answer := rfl
    simp only [handleAll, answer]
    split
    · exact ih _ _ _
    · exact ih _ _ _
    · rfl

/-- A batch is the same if its calls are noted. -/
theorem processBatch_unwatched (batch : List Incoming) (summary : Summary) (lock : GroupLock)
    (cache : C) (seen : σ × List (Sight C σ)) :
    (processBatch duties.watched batch summary lock cache seen).unwatched =
      processBatch duties batch summary lock cache seen.1 := by
  have same : (handleAll duties.watched lock.acquire batch summary cache
      (duties.watched.wait lock seen)).unwatched =
        handleAll duties lock.acquire batch summary cache (duties.wait lock seen.1) :=
    handleAll_unwatched duties lock.acquire batch summary cache _
  unfold processBatch
  dsimp only
  rw [← same]
  generalize handleAll duties.watched lock.acquire batch summary cache _ = handled
  obtain ⟨(impossible | cause) | counted, left, seen⟩ := handled
  · exact nomatch impossible
  · rfl
  · rfl

/-- The loop over given batches is the same if its calls are noted. -/
theorem processBatches_unwatched (batches : List (List Incoming)) (summary : Summary)
    (lock : GroupLock) (cache : C) (seen : σ × List (Sight C σ)) :
    (processBatches duties.watched batches summary lock cache seen).unwatched =
      processBatches duties batches summary lock cache seen.1 := by
  induction batches generalizing summary lock cache seen with
  | nil => rfl
  | cons batch rest ih =>
    simp only [processBatches, ← processBatch_unwatched]
    generalize processBatch duties.watched batch summary lock cache seen = processed
    obtain ⟨fault | counted, freed, left, seen⟩ := processed
    · rfl
    · exact ih _ _ _ _

/-- The loop is the same if its calls are noted. -/
theorem process_unwatched (messages : List Incoming) (lock : GroupLock) (cache : C)
    (seen : σ × List (Sight C σ)) :
    (process duties.watched messages lock cache seen).unwatched =
      process duties messages lock cache seen.1 :=
  processBatches_unwatched duties (batchesOf messages) {} lock cache seen

end Mailroom.Batch
