import Mailroom.Batch.Accumulator

/-!
# The calls of a flush

What a cache hands over is seen by its outlet. To speak of it, an outlet is watched: every call made
of it is noted behind the calls before it, together with what it answered, and its state changes as
before. Seen like that, a flush makes one call for the jobs that wait and one for the threads that
wait, in this order and none for an empty list. The second call does not depend on the answer to the
first. The answer of the flush is the first refusal among the answers, and whatever it is, nothing
waits afterwards and nothing is remembered.
-/

namespace Mailroom.Batch

variable {Work σ : Type}

/-- A call made of an outlet, with its answer. -/
inductive Call (Work : Type) where
  /-- One job was handed over. -/
  | job (work : Work) (answer : Except Job.JobError Job.JobId)
  /-- Several jobs were handed over together. -/
  | jobs (works : List Work) (answer : Except Job.JobError (List Job.JobId))
  /-- One thread was to move to the top. -/
  | thread (id : ThreadId) (answer : Except (Fault StorageError) Unit)
  /-- Several threads were to move to the top together. -/
  | threads (ids : List ThreadId) (answer : Except (Fault StorageError) Unit)

namespace Call

/-- The jobs that a call hands over. -/
def works : Call Work → List Work
  | .job work _ => [work]
  | .jobs works _ => works
  | .thread .. => []
  | .threads .. => []

/-- The threads that a call moves. -/
def ids : Call Work → List ThreadId
  | .job .. => []
  | .jobs .. => []
  | .thread id _ => [id]
  | .threads ids _ => ids

/-- The error with which a call was refused. -/
def refusal? : Call Work → Option BatchError
  | .job _ (.error error) => some (.jobs error)
  | .jobs _ (.error error) => some (.jobs error)
  | .thread _ (.error (.error error)) => some (.threads error)
  | .threads _ (.error (.error error)) => some (.threads error)
  | _ => none

/-- The crash that a call ended in. -/
def crash? : Call Work → Option Crash
  | .thread _ (.error (.crash cause)) => some cause
  | .threads _ (.error (.crash cause)) => some cause
  | _ => none

end Call

/-- How a row of calls went: a crash among them ends it, otherwise the first refusal counts. -/
def Call.verdict (calls : List (Call Work)) : Except (Fault BatchError) Unit :=
  match calls.findSome? Call.crash? with
  | some cause => .error (.crash cause)
  | none =>
    match calls.findSome? Call.refusal? with
    | some error => .error (.error error)
    | none => .ok ()

/-- An outlet with a note of every call made of it. -/
def Outlet.watched (outlet : Outlet Work σ) : Outlet Work (σ × List (Call Work)) where
  addJob work seen :=
    let (answer, state) := outlet.addJob work seen.1
    (answer, state, seen.2 ++ [.job work answer])
  addJobs works seen :=
    let (answer, state) := outlet.addJobs works seen.1
    (answer, state, seen.2 ++ [.jobs works answer])
  updateThread id seen :=
    let (answer, state) := outlet.updateThread id seen.1
    (answer, state, seen.2 ++ [.thread id answer])
  updateThreads ids seen :=
    let (answer, state) := outlet.updateThreads ids seen.1
    (answer, state, seen.2 ++ [.threads ids answer])
  report event seen := (outlet.report event seen.1, seen.2)

/-- An effect without the notes. -/
def Effect.unwatched {ε α C Notes : Type} (effect : Effect ε α C (σ × Notes)) : Effect ε α C σ :=
  ⟨effect.answer, effect.cache, effect.state.1⟩

/-- Nothing waits and nothing is remembered. -/
structure Accumulator.Idle (cache : Accumulator Work) : Prop where
  forgotten : cache.lookups.isEmpty = true
  noJobs : cache.jobs = []
  noThreads : cache.threads = []

/-- A flush of the given jobs and threads that made the given calls, gave the given answer and left
the given cache. -/
structure Flushed (jobs : List Work) (threads : List ThreadId) (calls : List (Call Work))
    (answer : Except (Fault BatchError) Unit) (cache : Accumulator Work) : Prop where
  /-- The jobs were handed over in one call and the threads in another one, whatever the first
  call answered. There was no call without jobs or threads. -/
  calls_eq : ∃ handed moved,
    calls = (if jobs = [] then [] else [.jobs jobs handed]) ++
      (if threads = [] then [] else [.threads threads moved])
  /-- The answer is the error of the jobs if these were refused, else that of the threads. -/
  answer_eq : answer = Call.verdict calls
  /-- Whatever the answer, nothing is left. -/
  idle : cache.Idle

namespace Flushed

variable {jobs : List Work} {threads : List ThreadId} {calls : List (Call Work)}
  {answer : Except (Fault BatchError) Unit} {cache : Accumulator Work}

/-- A flush hands over all the jobs it was given, each once and in order. -/
theorem works_eq (flushed : Flushed jobs threads calls answer cache) :
    calls.flatMap Call.works = jobs := by
  obtain ⟨handed, moved, rfl⟩ := flushed.calls_eq
  by_cases none : jobs = [] <;> by_cases still : threads = [] <;> simp [none, still, Call.works]

/-- A flush moves all the threads it was given, each once and in order. -/
theorem ids_eq (flushed : Flushed jobs threads calls answer cache) :
    calls.flatMap Call.ids = threads := by
  obtain ⟨handed, moved, rfl⟩ := flushed.calls_eq
  by_cases none : jobs = [] <;> by_cases still : threads = [] <;> simp [none, still, Call.ids]

end Flushed

namespace Accumulator

/-- A new cache is idle. -/
theorem bound_idle : (bound : Accumulator Work).Idle :=
  ⟨rfl, rfl, rfl⟩

theorem emptied_idle (cache : Accumulator Work) : cache.emptied.Idle :=
  ⟨rfl, rfl, rfl⟩

/-- A refusal is reported to the watched outlet without a note. -/
theorem reportRefusal_watched (outlet : Outlet Work σ) (message : String)
    (answer : Except BatchError Unit) (seen : σ × List (Call Work)) :
    reportRefusal outlet.watched message answer seen
      = (reportRefusal outlet message answer seen.1, seen.2) := by
  cases answer <;> rfl

/-- The call for the jobs. -/
theorem flushJobs_watched (outlet : Outlet Work σ) (jobs : List Work)
    (seen : σ × List (Call Work)) :
    flushJobs outlet.watched jobs seen
      = ((flushJobs outlet jobs seen.1).1, (flushJobs outlet jobs seen.1).2,
          seen.2 ++ if jobs = [] then [] else [.jobs jobs (outlet.addJobs jobs seen.1).1]) := by
  cases jobs with
  | nil => simp [flushJobs]
  | cons work rest => rfl

/-- The call for the threads. -/
theorem flushThreads_watched (outlet : Outlet Work σ) (threads : List ThreadId)
    (seen : σ × List (Call Work)) :
    flushThreads outlet.watched threads seen
      = ((flushThreads outlet threads seen.1).1, (flushThreads outlet threads seen.1).2,
          seen.2 ++ if threads = [] then []
            else [.threads threads (outlet.updateThreads threads seen.1).1]) := by
  cases threads with
  | nil => simp [flushThreads]
  | cons id rest => rfl

/-- What the call for the jobs says about their answer. It does not crash. -/
theorem flushJobs_says (outlet : Outlet Work σ) (jobs : List Work) (state : σ) :
    let calls : List (Call Work) :=
      if jobs = [] then [] else [.jobs jobs (outlet.addJobs jobs state).1]
    calls.findSome? Call.crash? = none ∧
      calls.findSome? Call.refusal? = match (flushJobs outlet jobs state).1 with
        | .ok () => none
        | .error error => some (.jobs error) := by
  cases jobs with
  | nil => simp [flushJobs]
  | cons work rest =>
    rcases answered : outlet.addJobs (work :: rest) state with ⟨_ | _, after⟩ <;>
      simp [flushJobs, answered, Call.crash?, Call.refusal?, Except.map]

/-- What the call for the threads says about their answer. -/
theorem flushThreads_says (outlet : Outlet Work σ) (threads : List ThreadId) (state : σ) :
    let calls : List (Call Work) :=
      if threads = [] then [] else [.threads threads (outlet.updateThreads threads state).1]
    calls.findSome? Call.crash? = (match (flushThreads outlet threads state).1 with
        | .error (.crash cause) => some cause
        | _ => none) ∧
      calls.findSome? Call.refusal? = match (flushThreads outlet threads state).1 with
        | .error (.error error) => some (.threads error)
        | _ => none := by
  cases threads with
  | nil => simp [flushThreads]
  | cons id rest =>
    rcases answered : outlet.updateThreads (id :: rest) state with ⟨(_ | _) | _, after⟩ <;>
      simp [flushThreads, answered, Call.crash?, Call.refusal?]

/-- A flush notes its calls and nothing else, and the notes do not change what it does. -/
theorem flush_watched (outlet : Outlet Work σ) (cache : Accumulator Work)
    (seen : σ × List (Call Work)) :
    let effect := flush outlet.watched cache seen
    effect.unwatched = flush outlet cache seen.1 ∧
      ∃ calls, effect.state.2 = seen.2 ++ calls ∧
        Flushed cache.jobs cache.threads calls effect.answer effect.cache := by
  obtain ⟨noCrash, jobsRefused⟩ := flushJobs_says outlet cache.jobs seen.1
  obtain ⟨crashed, threadsRefused⟩ :=
    flushThreads_says outlet cache.threads (flushJobs outlet cache.jobs seen.1).2
  simp only [flush, flushJobs_watched, flushThreads_watched, List.append_assoc]
  generalize flushJobs outlet cache.jobs seen.1 = submitted at *
  obtain ⟨jobs, state⟩ := submitted
  generalize flushThreads outlet cache.threads state = moved at *
  obtain ⟨threads, state'⟩ := moved
  rcases threads with (reason | cause) | ⟨⟩ <;> rcases jobs with error | ⟨⟩
  all_goals
    simp only [reportRefusal_watched]
    refine ⟨rfl, _, rfl, ⟨⟨_, _, rfl⟩, ?_, emptied_idle cache⟩⟩
    simp only [Call.verdict, List.findSome?_append, noCrash, crashed, jobsRefused, threadsRefused]
    rfl

/-- After a flush nothing is left, whatever the outlet answered. -/
theorem flush_idle (outlet : Outlet Work σ) (cache : Accumulator Work) (state : σ) :
    (flush outlet cache state).cache.Idle := by
  obtain ⟨same, _, _, flushed⟩ := flush_watched outlet cache (state, [])
  rw [← same]
  exact flushed.idle

end Accumulator

end Mailroom.Batch
