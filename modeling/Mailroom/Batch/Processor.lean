import Mailroom.Batch.Accumulator

/-!
# The batch loop

Incoming messages are handled in batches of thirty. A batch waits for the group lock and takes it,
handles its messages one after another, flushes the cache, and gives the lock back. A handler that
fails only costs its own message; what it had asked for by then is flushed with the batch. A flush
that fails ends the loop, and a crash ends it where it stands; either way the lock is given back.

The loop passes the lock on from batch to batch. All that it calls is in its `Duties`, each of which
is called with the lock as it is then.
-/

namespace Mailroom.Batch

/-- How many messages a batch has at most. -/
def batchSize : Nat := 30

/-- What a handler does with a message. It sees the lock and may use the cache and the state. -/
abbrev Handler (Work σ : Type) : Type :=
  Incoming → GroupLock → Accumulator Work → σ → Effect String Unit (Accumulator Work) σ

/-- What the loop counts. -/
structure Summary where
  /-- The batches that were flushed. -/
  batches : Nat := 0
  /-- The messages that were handled well. -/
  processed : Nat := 0
  /-- The messages whose handler failed. -/
  failed : Nat := 0
  deriving DecidableEq

/-- What the loop calls. Whoever is called may look at the lock. -/
structure Duties (C σ : Type) where
  /-- What others do until the lock is free. -/
  wait : GroupLock → σ → σ
  /-- Handles a message. -/
  handle : Incoming → GroupLock → C → σ → Effect String Unit C σ
  /-- Hands over what was held back and forgets what was remembered. -/
  flush : GroupLock → C → σ → Effect BatchError Unit C σ
  /-- Reports an event. -/
  report : LogEvent → GroupLock → σ → σ

/-- The duties of the loop over a cache that holds effects back. -/
def Duties.accumulating {Work σ : Type} (wait : GroupLock → σ → σ)
    (outlet : GroupLock → Outlet Work σ) (handler : Handler Work σ) :
    Duties (Accumulator Work) σ where
  wait := wait
  handle := handler
  flush lock := Accumulator.flush (outlet lock)
  report event lock := (outlet lock).report event

/-- What the loop led to. -/
structure Processing (C σ : Type) where
  answer : Except (Fault BatchError) Summary
  lock : GroupLock
  cache : C
  state : σ

/-- The report about a message whose handler failed. -/
def failedEvent (message : Incoming) (reason : String) : LogEvent :=
  .warn "failed to process message"
    [("sent_timestamp", toString message.sentTimestamp.toInt),
     ("thread_id", message.threadId.text), ("error", reason)]

variable {C σ : Type}

/-- Handles messages one after another, until one crashes. -/
def handleAll (duties : Duties C σ) (lock : GroupLock) :
    List Incoming → Summary → C → σ → Effect Empty Summary C σ
  | [], summary, cache, state => ⟨.ok summary, cache, state⟩
  | message :: rest, summary, cache, state =>
    let handled := duties.handle message lock cache state
    match handled.answer with
    | .ok () =>
      handleAll duties lock rest { summary with processed := summary.processed + 1 }
        handled.cache handled.state
    | .error (.error reason) =>
      handleAll duties lock rest { summary with failed := summary.failed + 1 }
        handled.cache (duties.report (failedEvent message reason) lock handled.state)
    | .error (.crash cause) => ⟨.error (.crash cause), handled.cache, handled.state⟩

/-- Takes the lock, handles and flushes one batch, and gives the lock back. -/
def processBatch (duties : Duties C σ) (batch : List Incoming) (summary : Summary)
    (lock : GroupLock) (cache : C) (state : σ) : Processing C σ :=
  let state := duties.wait lock state
  let lock := lock.acquire
  let handled := handleAll duties lock batch summary cache state
  match handled.answer with
  | .error (.crash cause) => ⟨.error (.crash cause), lock.release, handled.cache, handled.state⟩
  | .error (.error impossible) => nomatch impossible
  | .ok summary =>
    let flushed := duties.flush lock handled.cache handled.state
    ⟨flushed.answer.map fun () => { summary with batches := summary.batches + 1 }, lock.release,
      flushed.cache, flushed.state⟩

/-- Processes batches one after another, until one fails. -/
def processBatches (duties : Duties C σ) :
    List (List Incoming) → Summary → GroupLock → C → σ → Processing C σ
  | [], summary, lock, cache, state => ⟨.ok summary, lock, cache, state⟩
  | batch :: rest, summary, lock, cache, state =>
    let processed := processBatch duties batch summary lock cache state
    match processed.answer with
    | .ok summary =>
      processBatches duties rest summary processed.lock processed.cache processed.state
    | .error fault => ⟨.error fault, processed.lock, processed.cache, processed.state⟩

/-- Cuts a list into pieces of a given size, the last of them perhaps shorter. The count bounds
the number of pieces. -/
def piecesOf {α : Type} (size : Nat) : Nat → List α → List (List α)
  | 0, _ => []
  | count + 1, items =>
    if items.isEmpty then [] else items.take size :: piecesOf size count (items.drop size)

/-- The batches of a list of messages. -/
def batchesOf {α : Type} (messages : List α) : List (List α) :=
  piecesOf batchSize messages.length messages

/-- Processes messages in batches. Without messages nothing is done. -/
def process (duties : Duties C σ) (messages : List Incoming) (lock : GroupLock) (cache : C)
    (state : σ) : Processing C σ :=
  processBatches duties (batchesOf messages) {} lock cache state

end Mailroom.Batch
