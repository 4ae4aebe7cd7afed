import Mailroom.Proofs.Batch.Locked
import Mailroom.Proofs.Batch.Pieces
import Mailroom.Proofs.Batch.Watched

/-!
# The course of the batch loop

What the loop promises is read off the notes of its calls. These fall into rounds, one for each
batch: the loop waits for the lock, handles the messages of the batch one after another, and flushes
the cache. In every round the lock is free while the loop waits for it, and held at every call from
then on. A round starts with nothing remembered and nothing waiting, because the flush of the round
before left nothing, and the flush that is refused ends the last round.

A round is followed message by message first, from the lock that was taken to the flush that is due.
The rounds follow the recursion of the loop.
-/

namespace Mailroom.Batch

variable {Work σ : Type}

/-- All that waits in a cache waits in a later one too, and comes first. -/
structure Accumulator.Within (cache later : Accumulator Work) : Prop where
  jobs : cache.jobs <+: later.jobs
  threads : cache.threads <+: later.threads

namespace Accumulator.Within

variable {cache later last : Accumulator Work}

theorem refl (cache : Accumulator Work) : cache.Within cache :=
  ⟨List.prefix_rfl, List.prefix_rfl⟩

theorem trans (first : cache.Within later) (second : later.Within last) : cache.Within last :=
  ⟨first.jobs.trans second.jobs, first.threads.trans second.threads⟩

end Accumulator.Within

/-- A handler that succeeds or fails with every message but does not crash under the lock. -/
def Handler.Calm (handler : Handler Work σ) : Prop :=
  ∀ message lock cache state cause, lock.held = true →
    (handler message lock cache state).answer ≠ .error (.crash cause)

/-- A handler that takes nothing away from what waits for the flush. -/
def Handler.Adds (handler : Handler Work σ) : Prop :=
  ∀ message lock (cache : Accumulator Work) state,
    cache.Within (handler message lock cache state).cache

/-- What handling a message leads to from here. -/
def Standing.handle (handler : Handler Work σ) (message : Incoming)
    (standing : Standing (Accumulator Work) σ) : Effect String Unit (Accumulator Work) σ :=
  handler message standing.lock standing.cache standing.state

/-- What a flush leads to from here. -/
def Standing.flush (outlet : GroupLock → Outlet Work σ)
    (standing : Standing (Accumulator Work) σ) : Effect BatchError Unit (Accumulator Work) σ :=
  Accumulator.flush (outlet standing.lock) standing.cache standing.state

/-- The calls that a flush makes from here. -/
def Standing.calls (outlet : GroupLock → Outlet Work σ)
    (standing : Standing (Accumulator Work) σ) : List (Call Work) :=
  (Accumulator.flush (outlet standing.lock).watched standing.cache (standing.state, [])).state.2

/-- A flush hands over what waits, each job and each thread once. -/
theorem Standing.calls_flushed (outlet : GroupLock → Outlet Work σ)
    (standing : Standing (Accumulator Work) σ) :
    (standing.calls outlet).flatMap Call.works = standing.cache.jobs ∧
      (standing.calls outlet).flatMap Call.ids = standing.cache.threads := by
  obtain ⟨-, calls, noted, flushed⟩ :=
    Accumulator.flush_watched (outlet standing.lock) standing.cache (standing.state, [])
  rw [Standing.calls, noted, List.nil_append]
  exact ⟨flushed.works_eq, flushed.ids_eq⟩

/-- A batch whose messages are all handled ends as its flush does, with the lock given back. -/
theorem processBatch_of_handleAll {C : Type} {duties : Duties C σ} {batch : List Incoming}
    {summary counted : Summary} {lock : GroupLock} {cache left : C} {state after : σ}
    (handled : handleAll duties lock.acquire batch summary cache (duties.wait lock state)
      = ⟨.ok counted, left, after⟩) :
    processBatch duties batch summary lock cache state
      = let flushed := duties.flush lock.acquire left after
        ⟨flushed.answer.map fun () => { counted with batches := counted.batches + 1 },
          lock.acquire.release, flushed.cache, flushed.state⟩ := by
  simp only [processBatch, handled]

namespace Loop

/-- The calls made for one batch. -/
structure Round (C σ : Type) where
  /-- The lock while the loop waits for it. -/
  lock : GroupLock
  /-- The state that others find while the loop waits. -/
  state : σ
  /-- The messages handled, each with what the loop had in its hands then. -/
  handled : List (Incoming × Standing C σ)
  /-- What the loop had in its hands at the flush. -/
  closing : Standing C σ

namespace Round

/-- How a round is noted: a wait, the messages, a flush. -/
def sights {C : Type} (round : Round C σ) : List (Sight C σ) :=
  .wait round.lock round.state ::
    (round.handled.map (fun entry => .handle entry.1 entry.2) ++ [.flush round.closing])

/-- The messages handled in a round. -/
def messages {C : Type} (round : Round C σ) : List Incoming := round.handled.map Prod.fst

/-- The flush of the round succeeds. -/
def Flushes (outlet : GroupLock → Outlet Work σ) (round : Round (Accumulator Work) σ) : Prop :=
  (round.closing.flush outlet).answer = .ok ()

/-- The rules for a round. -/
structure Orderly (outlet : GroupLock → Outlet Work σ) (handler : Handler Work σ)
    (round : Round (Accumulator Work) σ) : Prop where
  /-- The lock is free before the batch, -/
  free : round.lock.held = false
  /-- held whenever a message is handled, -/
  held : ∀ entry ∈ round.handled, entry.2.lock.held = true
  /-- and still held when the cache is flushed. -/
  closing : round.closing.lock.held = true
  /-- Nothing is remembered and nothing waits when the first message is handled. -/
  fresh : ∀ entry ∈ round.handled.head?, entry.2.cache.Idle
  /-- No lookup of a handler crashes for want of the lock. -/
  answered : ∀ entry ∈ round.handled, ∀ use : Use Work σ, use.lock = entry.2.lock →
    use.flushes = false → ∀ (cache : Accumulator Work) (state : σ) (cause : Crash),
      (perform (outlet use.lock) use.load use.lock use.request cache state).answer
        ≠ .error (.crash cause)
  /-- What a handler left waiting goes out with the flush, also if the handler failed. -/
  carried : handler.Adds → ∀ message standing, (message, standing) ∈ round.handled →
    (standing.handle handler message).cache.jobs
        <+: (round.closing.calls outlet).flatMap Call.works ∧
      (standing.handle handler message).cache.threads
        <+: (round.closing.calls outlet).flatMap Call.ids

end Round

section

variable {wait : GroupLock → σ → σ} {outlet : GroupLock → Outlet Work σ} {handler : Handler Work σ}

/-- A calm handler that is called under the lock leads on to the rest of its batch. The message is
counted once, whether the handler succeeded or failed. -/
theorem handleAll_cons (wait : GroupLock → σ → σ) (outlet : GroupLock → Outlet Work σ)
    (calm : handler.Calm) (message : Incoming) (standing : Standing (Accumulator Work) σ)
    (held : standing.lock.held = true) (summary : Summary) :
    ∃ (after : Standing (Accumulator Work) σ) (counted : Summary),
      after.lock = standing.lock ∧ after.cache = (standing.handle handler message).cache ∧
      counted.batches = summary.batches ∧
      counted.processed + counted.failed = summary.processed + summary.failed + 1 ∧
      ∀ rest notes,
        handleAll (Duties.accumulating wait outlet handler).watched standing.lock (message :: rest)
            summary standing.cache (standing.state, notes)
          = handleAll (Duties.accumulating wait outlet handler).watched standing.lock rest counted
              after.cache (after.state, notes ++ [.handle message standing]) := by
  obtain ⟨lock, cache, state⟩ := standing
  have answer : ∀ notes,
      ((Duties.accumulating wait outlet handler).watched.handle message lock cache
        (state, notes)).answer = (handler message lock cache state).answer := fun _ => rfl
  cases answered : (handler message lock cache state).answer with
  | ok done =>
    refine ⟨⟨lock, _, (handler message lock cache state).state⟩,
      { summary with processed := summary.processed + 1 }, rfl, rfl, rfl,
      Nat.add_right_comm _ _ _, fun rest notes => ?_⟩
    simp only [handleAll, answer, answered]
    rfl
  | error fault =>
    cases fault with
    | error reason =>
      refine ⟨⟨lock, _, (outlet lock).report (failedEvent message reason)
          (handler message lock cache state).state⟩,
        { summary with failed := summary.failed + 1 }, rfl, rfl, rfl, rfl, fun rest notes => ?_⟩
      simp only [handleAll, answer, answered]
      rfl
    | crash cause => exact absurd answered (calm message lock cache state cause held)

/-- The messages of a batch, handled one after another from the first to the flush that is due. -/
structure Handled (wait : GroupLock → σ → σ) (outlet : GroupLock → Outlet Work σ)
    (handler : Handler Work σ) (batch : List Incoming)
    (first : Standing (Accumulator Work) σ) (summary : Summary)
    (handled : List (Incoming × Standing (Accumulator Work) σ))
    (closing : Standing (Accumulator Work) σ) (counted : Summary) : Prop where
  messages : handled.map Prod.fst = batch
  starts : ∀ entry ∈ handled.head?, entry.2 = first
  locked : ∀ entry ∈ handled, entry.2.lock = first.lock
  stillLocked : closing.lock = first.lock
  /-- Nothing gets lost between the first message and the flush. -/
  kept : handler.Adds → first.cache.Within closing.cache
  /-- What a handler left waiting still waits at the flush. -/
  waiting : handler.Adds → ∀ message standing, (message, standing) ∈ handled →
    (standing.handle handler message).cache.Within closing.cache
  batches : counted.batches = summary.batches
  tally : counted.processed + counted.failed = summary.processed + summary.failed + batch.length
  result : ∀ notes,
    handleAll (Duties.accumulating wait outlet handler).watched first.lock batch summary first.cache
        (first.state, notes)
      = ⟨.ok counted, closing.cache,
          (closing.state, notes ++ handled.map fun entry => .handle entry.1 entry.2)⟩

/-- Under the lock a calm handler gets through any batch. -/
theorem exists_handled (wait : GroupLock → σ → σ) (outlet : GroupLock → Outlet Work σ)
    (calm : handler.Calm) (batch : List Incoming) (first : Standing (Accumulator Work) σ)
    (held : first.lock.held = true) (summary : Summary) :
    ∃ handled closing counted,
      Handled wait outlet handler batch first summary handled closing counted := by
  -- the lock stays taken from message to message, so each handler is called under it
  induction batch generalizing first summary with
  | nil =>
    refine ⟨[], first, summary, rfl, (nomatch ·, ·), (nomatch ·, ·), rfl, fun _ => .refl _,
      fun _ _ _ member => (nomatch member), rfl, rfl, fun notes => ?_⟩
    rw [List.map_nil, List.append_nil]
    rfl
  | cons message rest ih =>
    obtain ⟨after, count, same, left, batches, one, step⟩ :=
      handleAll_cons wait outlet calm message first held summary
    obtain ⟨handled, closing, counted, later⟩ := ih after (same ▸ held) count
    refine ⟨(message, first) :: handled, closing, counted, ?messages, ?starts, ?locked,
      ?stillLocked, ?kept, ?waiting, later.batches.trans batches, ?tally, ?result⟩
    case messages => rw [List.map_cons, later.messages]
    case starts =>
      rintro entry ⟨⟩
      rfl
    case locked =>
      refine List.forall_mem_cons.mpr ⟨rfl, fun entry member => ?_⟩
      rw [later.locked entry member, same]
    case stillLocked => rw [later.stillLocked, same]
    case kept =>
      intro adds
      have added := adds message first.lock first.cache first.state
      exact added.trans (left ▸ later.kept adds)
    case waiting =>
      intro adds earlier standing member
      rcases List.mem_cons.mp member with entry | member
      · cases entry
        exact left ▸ later.kept adds
      · exact later.waiting adds earlier standing member
    case tally =>
      rw [later.tally, one, List.length_cons]
      omega
    case result =>
      intro notes
      rw [step, ← same, later.result, List.append_assoc, List.map_cons, List.singleton_append]

/-- One batch, from a free lock to a free lock: its round, and where it led to. -/
structure Batched (wait : GroupLock → σ → σ) (outlet : GroupLock → Outlet Work σ)
    (handler : Handler Work σ) (batch : List Incoming) (summary : Summary) (lock : GroupLock)
    (cache : Accumulator Work) (state : σ) (round : Round (Accumulator Work) σ)
    (left : Processing (Accumulator Work) σ) (counted : Summary) : Prop where
  messages : round.messages = batch
  orderly : round.Orderly outlet handler
  freed : left.lock.held = false
  idle : left.cache.Idle
  /-- The flush answers for the batch. -/
  answered : left.answer = (round.closing.flush outlet).answer.map fun () => counted
  batches : counted.batches = summary.batches + 1
  tally : counted.processed + counted.failed = summary.processed + summary.failed + batch.length
  result : ∀ notes,
    processBatch (Duties.accumulating wait outlet handler).watched batch summary lock cache
        (state, notes)
      = ⟨left.answer, left.lock, left.cache, (left.state, notes ++ round.sights)⟩

/-- A batch that finds the lock free and the cache idle makes an orderly round, and leaves the lock
free and the cache idle. -/
theorem exists_batched (wait : GroupLock → σ → σ) (outlet : GroupLock → Outlet Work σ)
    (calm : handler.Calm) (batch : List Incoming) (summary : Summary) {lock : GroupLock}
    (free : lock.held = false) {cache : Accumulator Work} (idle : cache.Idle) (state : σ) :
    ∃ round left counted,
      Batched wait outlet handler batch summary lock cache state round left counted := by
  obtain ⟨handled, closing, counted, done⟩ :=
    exists_handled wait outlet calm batch ⟨lock.acquire, cache, wait lock state⟩ lock.held_acquire
      summary
  have held : closing.lock.held = true := congrArg GroupLock.held done.stillLocked
  have under : ∀ entry ∈ handled, entry.2.lock.held = true := fun entry member =>
    congrArg GroupLock.held (done.locked entry member)
  let flushed := closing.flush outlet
  refine ⟨⟨lock, state, handled, closing⟩,
    ⟨flushed.answer.map fun () => { counted with batches := counted.batches + 1 },
      lock.acquire.release, flushed.cache, flushed.state⟩,
    { counted with batches := counted.batches + 1 }, done.messages, ?orderly,
    lock.acquire.held_release,
    Accumulator.flush_idle (outlet closing.lock) closing.cache closing.state, rfl,
    congrArg (· + 1) done.batches, done.tally, ?result⟩
  case orderly =>
    refine ⟨free, under, held, fun entry member => ?fresh, ?answered, ?carried⟩
    case fresh =>
      rw [done.starts entry member]
      exact idle
    case answered =>
      intro entry member use same quiet
      exact perform_ne_crash (outlet use.lock) quiet (same ▸ under entry member)
    case carried =>
      intro adds message standing member
      obtain ⟨jobs, threads⟩ := done.waiting adds message standing member
      rw [(closing.calls_flushed outlet).1, (closing.calls_flushed outlet).2]
      exact ⟨jobs, threads⟩
  case result =>
    intro notes
    refine (processBatch_of_handleAll (done.result (notes ++ [.wait lock state]))).trans ?_
    have seen : (notes ++ [.wait lock state]) ++ handled.map (fun entry => .handle entry.1 entry.2)
          ++ [.flush closing] = notes ++ Round.sights ⟨lock, state, handled, closing⟩ := by
      simp only [Round.sights, List.append_assoc, List.cons_append, List.nil_append]
    rw [← seen]
    obtain ⟨taken, cache, state⟩ := closing
    obtain rfl : taken = lock.acquire := done.stillLocked
    rfl

end

/-- How the loop goes through its batches: up to the end, or up to the first flush that fails. -/
inductive Outcome (outlet : GroupLock → Outlet Work σ) :
    List (List Incoming) → Summary → List (Round (Accumulator Work) σ) →
      Except (Fault BatchError) Summary → Prop
  /-- There is no batch left. -/
  | done (summary : Summary) : Outcome outlet [] summary [] (.ok summary)
  /-- The flush of a batch fails, and its fault is the answer. -/
  | refused {batch : List Incoming} {rest : List (List Incoming)} {summary : Summary}
    {round : Round (Accumulator Work) σ} {fault : Fault BatchError}
    (messages : round.messages = batch)
    (refusal : (round.closing.flush outlet).answer = .error fault) :
    Outcome outlet (batch :: rest) summary [round] (.error fault)
  /-- A batch is flushed, and the next ones follow. -/
  | next {batch : List Incoming} {rest : List (List Incoming)} {summary counted : Summary}
    {round : Round (Accumulator Work) σ} {rounds : List (Round (Accumulator Work) σ)}
    {answer : Except (Fault BatchError) Summary} (messages : round.messages = batch)
    (flushes : round.Flushes outlet) (batches : counted.batches = summary.batches + 1)
    (tally : counted.processed + counted.failed =
      summary.processed + summary.failed + batch.length)
    (later : Outcome outlet rest counted rounds answer) :
    Outcome outlet (batch :: rest) summary (round :: rounds) answer

namespace Outcome

variable {outlet : GroupLock → Outlet Work σ} {batches : List (List Incoming)} {summary : Summary}
  {rounds : List (Round (Accumulator Work) σ)} {answer : Except (Fault BatchError) Summary}

/-- If every flush succeeds, all batches are done and counted. -/
theorem complete (outcome : Outcome outlet batches summary rounds answer)
    (flushes : ∀ round ∈ rounds, round.Flushes outlet) :
    rounds.map Round.messages = batches ∧ ∃ counted, answer = .ok counted ∧
      counted.processed + counted.failed =
        summary.processed + summary.failed + batches.flatten.length ∧
      counted.batches = summary.batches + batches.length := by
  induction outcome with
  | done summary => exact ⟨rfl, summary, rfl, rfl, rfl⟩
  | refused messages refusal =>
    exact nomatch (flushes _ List.mem_cons_self).symm.trans refusal
  | next messages flushed batches tally later ih =>
    obtain ⟨rounds, last, answered, handled, counted⟩ :=
      ih fun round member => flushes round (List.mem_cons_of_mem _ member)
    refine ⟨by rw [List.map_cons, messages, rounds], last, answered, ?_, ?_⟩
    · rw [handled, tally, List.flatten_cons, List.length_append, Nat.add_assoc]
    · rw [counted, batches, List.length_cons, Nat.add_assoc, Nat.add_comm 1]

/-- The first flush that fails ends the loop with its batch. -/
theorem stopped (outcome : Outcome outlet batches summary rounds answer)
    (failed : ¬ ∀ round ∈ rounds, round.Flushes outlet) :
    ∃ before last rest fault, rounds = before ++ [last] ∧
      batches = rounds.map Round.messages ++ rest ∧ (∀ round ∈ before, round.Flushes outlet) ∧
      (last.closing.flush outlet).answer = .error fault ∧ answer = .error fault := by
  induction outcome with
  | done summary => exact absurd (nomatch ·, ·) failed
  | @refused batch rest summary round fault messages refusal =>
    exact ⟨[], round, rest, fault, rfl, by rw [List.map_singleton, messages]; rfl, (nomatch ·, ·),
      refusal, rfl⟩
  | @next batch rest summary counted round rounds answer messages flushed _ _ _ ih =>
    have failedLater : ¬ ∀ round ∈ rounds, round.Flushes outlet := fun flushes =>
      failed (List.forall_mem_cons.mpr ⟨flushed, flushes⟩)
    obtain ⟨before, last, rest, fault, ends, split, flushes, refused, answered⟩ := ih failedLater
    refine ⟨round :: before, last, rest, fault, by rw [ends, List.cons_append], ?_,
      List.forall_mem_cons.mpr ⟨flushed, flushes⟩, refused, answered⟩
    rw [split, List.map_cons, messages, List.cons_append]

end Outcome

section

variable {handler : Handler Work σ}

/-- Batches are taken one after another until a flush fails. -/
theorem exists_rounds (wait : GroupLock → σ → σ) (outlet : GroupLock → Outlet Work σ)
    (calm : handler.Calm) (batches : List (List Incoming)) (summary : Summary) {lock : GroupLock}
    (free : lock.held = false) {cache : Accumulator Work} (idle : cache.Idle) (state : σ) :
    ∃ (rounds : List (Round (Accumulator Work) σ)) (left : Processing (Accumulator Work) σ),
      (∀ round ∈ rounds, round.Orderly outlet handler) ∧ left.lock.held = false ∧ left.cache.Idle ∧
      Outcome outlet batches summary rounds left.answer ∧
      ∀ notes,
        processBatches (Duties.accumulating wait outlet handler).watched batches summary lock cache
            (state, notes)
          = ⟨left.answer, left.lock, left.cache, left.state,
              notes ++ rounds.flatMap Round.sights⟩ := by
  -- what a batch needs, a free lock and an idle cache, is what the batch before it leaves
  induction batches generalizing summary lock cache state with
  | nil =>
    refine ⟨[], ⟨.ok summary, lock, cache, state⟩, (nomatch ·, ·), free, idle, .done summary,
      fun notes => ?_⟩
    rw [List.flatMap_nil, List.append_nil]
    rfl
  | cons batch rest ih =>
    obtain ⟨round, left, counted, done⟩ :=
      exists_batched wait outlet calm batch summary free idle state
    cases flushed : (round.closing.flush outlet).answer with
    | error fault =>
      have answered : left.answer = .error fault := by rw [done.answered, flushed]; rfl
      refine ⟨[round], left, List.forall_mem_singleton.mpr done.orderly, done.freed, done.idle,
        answered ▸ .refused done.messages flushed, fun notes => ?_⟩
      rw [List.flatMap_singleton]
      simp only [processBatches, done.result, answered]
    | ok _ =>
      have answered : left.answer = .ok counted := by rw [done.answered, flushed]; rfl
      obtain ⟨rounds, last, orderly, freed, idle, outcome, result⟩ :=
        ih counted done.freed done.idle left.state
      refine ⟨round :: rounds, last, List.forall_mem_cons.mpr ⟨done.orderly, orderly⟩, freed, idle,
        .next done.messages flushed done.batches done.tally outcome, fun notes => ?_⟩
      rw [List.flatMap_cons, ← List.append_assoc, ← result]
      simp only [processBatches, done.result, answered]

/-- What the loop promises about a run over some messages, told by the rounds that its calls fall
into. -/
structure Course (outlet : GroupLock → Outlet Work σ) (handler : Handler Work σ)
    (messages : List Incoming) (processed : Processing (Accumulator Work) σ)
    (rounds : List (Round (Accumulator Work) σ)) : Prop where
  /-- The lock is held whenever a message is handled or the cache flushed and free between the
  batches, and every batch starts with nothing remembered and nothing waiting. -/
  orderly : ∀ round ∈ rounds, round.Orderly outlet handler
  /-- The lock is free afterwards. -/
  released : processed.lock.held = false
  idle : processed.cache.Idle
  /-- If every flush succeeds, all batches are done, each message is handled once and in order, and
  the summary counts them all. -/
  complete : (∀ round ∈ rounds, round.Flushes outlet) →
    rounds.map Round.messages = batchesOf messages ∧ rounds.flatMap Round.messages = messages ∧
      ∃ summary, processed.answer = .ok summary ∧
        summary.processed + summary.failed = messages.length ∧
        summary.batches = (messages.length + (batchSize - 1)) / batchSize
  /-- Otherwise the first flush that fails ends the loop with its batch: exactly the messages up to
  there are handled, and its fault is the answer. -/
  stopped : (¬ ∀ round ∈ rounds, round.Flushes outlet) →
    ∃ before last rest fault, rounds = before ++ [last] ∧
      batchesOf messages = rounds.map Round.messages ++ rest ∧
      (∀ round ∈ before, round.Flushes outlet) ∧
      (last.closing.flush outlet).answer = .error fault ∧ processed.answer = .error fault

/-- The loop takes the messages in batches, the last of which may be shorter. The calls it makes are
those of one round for each batch up to the last one done, and it keeps what it promises about
them. -/
theorem process_course (wait : GroupLock → σ → σ) (outlet : GroupLock → Outlet Work σ)
    (calm : handler.Calm) (messages : List Incoming) (cache : Accumulator Work)
    (idle : cache.Idle) (state : σ) :
    let duties := Duties.accumulating wait outlet handler
    let processed := process duties messages .released cache state
    let watched := process duties.watched messages .released cache (state, [])
    Cut batchSize messages (batchesOf messages) ∧ watched.unwatched = processed ∧
      ∃ rounds, watched.state.2 = rounds.flatMap Round.sights ∧
        Course outlet handler messages processed rounds := by
  intro duties processed watched
  have cut := cut_batchesOf messages
  obtain ⟨rounds, left, orderly, freed, emptied, outcome, result⟩ :=
    exists_rounds wait outlet calm (batchesOf messages) {} (rfl : GroupLock.released.held = false)
      idle state
  have same : watched.unwatched = processed := process_unwatched duties messages _ cache _
  have led : watched = ⟨left.answer, left.lock, left.cache, left.state, _⟩ := result []
  have ends : processed = left := by rw [← same, led]; rfl
  refine ⟨cut, same, rounds, by rw [led]; rfl, ?_⟩
  rw [ends]
  refine ⟨orderly, freed, emptied, fun flushes => ?complete, outcome.stopped⟩
  case complete =>
    obtain ⟨done, summary, answered, handled, batches⟩ := outcome.complete flushes
    refine ⟨done, ?_, summary, answered, ?_, ?_⟩
    · rw [List.flatMap_def, done, cut.flatten_eq]
    · rw [handled, cut.flatten_eq]
      exact Nat.zero_add _
    · rw [batches, cut.length_eq]
      exact Nat.zero_add _

end

/-- Others who find the lock note whether the loop holds it. -/
def patience (lock : GroupLock) (notes : List (Bool × Nat)) : List (Bool × Nat) :=
  notes ++ [(lock.held, 0)]

/-- An outlet that takes everything and notes how many jobs it was handed, and whether the loop
held the lock. -/
def tally (lock : GroupLock) : Outlet Nat (List (Bool × Nat)) where
  addJob _ notes := (.ok ⟨default⟩, notes ++ [(lock.held, 1)])
  addJobs works notes := (.ok [], notes ++ [(lock.held, works.length)])
  updateThread _ notes := (.ok (), notes)
  updateThreads _ notes := (.ok (), notes)
  report _ notes := notes

/-- A handler that looks something up, adds a job, and then fails with every other message. -/
def sorter : Handler Nat (List (Bool × Nat)) := fun message lock cache notes =>
  match (cache.lookups.isQueueEmpty lock "sorted").1 with
  | .error cause => ⟨.error (.crash cause), cache, notes⟩
  | .ok _ =>
    let time := message.sentTimestamp.toNatClampNeg
    ⟨if time % 2 = 0 then .ok () else .error (.error "odd"), cache.addJob time, notes⟩

theorem sorter_calm : sorter.Calm := by
  intro message lock cache notes cause held
  have looked := Lookups.whenAllowed_ne_error held
    (fun lookups => (lookups.emptyQueues.contains "sorted", lookups)) cache.lookups
  simp only [sorter, Lookups.isQueueEmpty]
  split
  · exact absurd ‹_› (looked _)
  · split <;> simp

/-- A letter sent at a given time. -/
def letter (time : Nat) : Incoming :=
  { sender := ⟨default⟩
    threadId := ⟨1⟩
    sentTimestamp := .ofNat time
    body := none
    group := none }

/-- Thirty-one letters make two batches. Twice the lock is free while the loop waits for it and held
while the jobs are handed over, and what the failing half had added goes out with the rest. -/
theorem process_course_letters :
    let letters := (List.range 31).map letter
    let duties := Duties.accumulating patience tally sorter
    let processed := process duties letters .released .bound []
    sorter.Calm ∧ (Accumulator.bound : Accumulator Nat).Idle ∧
      (∃ rounds, (process duties.watched letters .released .bound ([], [])).state.2
          = rounds.flatMap Round.sights ∧ Course tally sorter letters processed rounds) ∧
      processed.answer = .ok { batches := 2, processed := 16, failed := 15 } ∧
      processed.state = [(false, 0), (true, 30), (false, 0), (true, 1)] := by
  exact ⟨sorter_calm, Accumulator.bound_idle,
    (process_course patience tally sorter_calm _ _ Accumulator.bound_idle []).2.2,
    by decide +kernel, by decide +kernel⟩

end Loop

end Mailroom.Batch
