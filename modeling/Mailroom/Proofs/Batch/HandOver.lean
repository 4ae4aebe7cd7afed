import Mailroom.Batch.Request
import Mailroom.Proofs.Batch.Flush
import Mathlib.Data.List.DropRight

/-!
# Effects are handed over exactly once

A cache that holds effects back is asked for all sorts of things, in any order and under any lock,
and now and then it is flushed. What its outlet sees of this is an exact account: the jobs handed
over so far, followed by those that wait, are the jobs that were added, in their order. Only a
flush makes calls, and it hands over what was added since the flush before it, the threads each
once and in the order in which they were first asked for. Whether the outlet takes them or not,
they are not handed over again.

The invariant that carries this says what waits in terms of the requests since the last flush. It
is kept by every request, and a run is an induction over its requests from the front.
-/

namespace Mailroom.Batch

variable {C Work σ : Type}

/-- One more value counts, unless it occurred already. -/
theorem eraseDups_concat {α : Type} [DecidableEq α] (values : List α) (value : α) :
    (values ++ [value]).eraseDups =
      if value ∈ values then values.eraseDups else values.eraseDups ++ [value] := by
  rw [List.eraseDups_append]
  by_cases again : value ∈ values
  · simp only [again, List.removeAll, List.filter, List.elem_eq_mem, decide_true, Bool.not_true,
      List.eraseDups_nil, List.append_nil, if_true]
  · simp only [again, List.removeAll, List.filter, List.elem_eq_mem, decide_false, Bool.not_false,
      List.eraseDups_cons, List.eraseDups_nil, if_false]

/-- No value counts more often than it occurs. -/
theorem length_eraseDups_le {α : Type} [DecidableEq α] (values : List α) :
    values.eraseDups.length ≤ values.length := by
  induction values using List.reverseRecOn with
  | nil => exact Nat.le_refl 0
  | append_singleton values value ih =>
    rw [eraseDups_concat, List.length_append, List.length_singleton]
    by_cases again : value ∈ values
    · rw [if_pos again]
      omega
    · rw [if_neg again, List.length_append, List.length_singleton]
      omega

/-- A use of a cache: the request, the lock as it was then, and how states of groups are loaded. -/
structure Use (Work σ : Type) where
  request : Request Work
  lock : GroupLock
  load : GroupId → σ → Except StorageError (Option Roster) × σ

/-- Where the use of a cache led to. -/
structure Usage (C σ : Type) where
  cache : C
  state : σ
  /-- The answers so far, the last one at the end. -/
  answers : List (Except (Fault BatchError) Reply) := []

/-- Uses a cache once. -/
def Usage.next [Cache C Work] (outlet : Outlet Work σ) (usage : Usage C σ) (use : Use Work σ) :
    Usage C σ :=
  let effect := perform outlet use.load use.lock use.request usage.cache usage.state
  ⟨effect.cache, effect.state, usage.answers ++ [effect.answer]⟩

/-- Uses a cache several times. -/
def Usage.after [Cache C Work] (outlet : Outlet Work σ) (usage : Usage C σ)
    (uses : List (Use Work σ)) : Usage C σ :=
  uses.foldl (Usage.next outlet) usage

theorem Usage.after_concat [Cache C Work] (outlet : Outlet Work σ) (usage : Usage C σ)
    (uses : List (Use Work σ)) (use : Use Work σ) :
    usage.after outlet (uses ++ [use]) = (usage.after outlet uses).next outlet use := by
  simp [Usage.after]

namespace Use

/-- Whether a flush is asked for. -/
def flushes (use : Use Work σ) : Bool :=
  match use.request with
  | .flush => true
  | _ => false

/-- The job that is added. -/
def job? (use : Use Work σ) : Option Work :=
  match use.request with
  | .addJob work => some work
  | _ => none

/-- The thread that is asked for. -/
def thread? (use : Use Work σ) : Option ThreadId :=
  match use.request with
  | .addThread id => some id
  | _ => none

/-- The use of a cache whose outlet is watched. Loading is not noted. -/
def watched (use : Use Work σ) : Use Work (σ × List (Call Work)) where
  request := use.request
  lock := use.lock
  load id seen :=
    let (answer, state) := use.load id seen.1
    (answer, state, seen.2)

/-- The jobs added by some uses, in their order. -/
def jobs (uses : List (Use Work σ)) : List Work := uses.filterMap job?

/-- The threads asked for by some uses, each once, in the order of the first requests. -/
def threads (uses : List (Use Work σ)) : List ThreadId := (uses.filterMap thread?).eraseDups

/-- The uses since the last flush among them. -/
def sinceFlush (uses : List (Use Work σ)) : List (Use Work σ) := uses.rtakeWhile (!·.flushes)

theorem jobs_concat (uses : List (Use Work σ)) (use : Use Work σ) :
    jobs (uses ++ [use]) = jobs uses ++ use.job?.toList := by
  cases added : use.job? <;> simp [jobs, added]

theorem threads_concat_of_none {use : Use Work σ} (asked : use.thread? = none)
    (uses : List (Use Work σ)) : threads (uses ++ [use]) = threads uses := by
  simp [threads, asked]

/-- One more request adds its thread, unless the thread was asked for already. -/
theorem threads_concat_of_some {use : Use Work σ} {id : ThreadId} (asked : use.thread? = some id)
    (uses : List (Use Work σ)) :
    threads (uses ++ [use]) =
      if id ∈ threads uses then threads uses else threads uses ++ [id] := by
  have split : threads (uses ++ [use]) = (uses.filterMap thread? ++ [id]).eraseDups := by
    simp [threads, asked]
  have known : id ∈ threads uses ↔ id ∈ uses.filterMap thread? := List.mem_eraseDups
  rw [split, eraseDups_concat, if_congr known rfl rfl]
  rfl

theorem sinceFlush_concat_of_flush {use : Use Work σ} (flush : use.flushes = true)
    (uses : List (Use Work σ)) : sinceFlush (uses ++ [use]) = [] := by
  simp [sinceFlush, flush]

theorem sinceFlush_concat_of_quiet {use : Use Work σ} (quiet : use.flushes = false)
    (uses : List (Use Work σ)) : sinceFlush (uses ++ [use]) = sinceFlush uses ++ [use] := by
  simp [sinceFlush, quiet]

end Use

/-- A usage without the notes. -/
def Usage.unwatched (usage : Usage C (σ × List (Call Work))) : Usage C σ :=
  ⟨usage.cache, usage.state.1, usage.answers⟩

/-- Loading is not noted, and the notes do not change what it does. -/
theorem lookUpRoster_watched [Cache C Work] (use : Use Work σ) (id : GroupId) (cache : C)
    (seen : σ × List (Call Work)) :
    let effect := lookUpRoster use.watched.load use.lock id cache seen
    effect.unwatched = lookUpRoster use.load use.lock id cache seen.1 ∧
      effect.state.2 = seen.2 := by
  obtain ⟨request, lock, load⟩ := use
  -- the notes go through untouched whether the state is known, loaded or refused
  have same : (Cache.lookups cache).roster lock (Use.watched ⟨request, lock, load⟩).load id seen
      = let known := (Cache.lookups cache).roster lock load id seen.1
        (known.1, known.2.1, known.2.2, seen.2) := by
    simp only [Lookups.roster, Use.watched]
    split
    · cases (Cache.lookups cache).rosters.find? id with
      | some roster => rfl
      | none => rcases load id seen.1 with ⟨_ | _, state⟩ <;> rfl
    · rfl
  simp only [lookUpRoster, same, Effect.unwatched, and_self]

/-- A request that is not a flush makes no call. What it adds waits, and what waited still waits. -/
theorem perform_quiet (outlet : Outlet Work σ) {use : Use Work σ} (quiet : use.flushes = false)
    (cache : Accumulator Work) (seen : σ × List (Call Work)) :
    let effect := perform outlet.watched use.watched.load use.lock use.request cache seen
    effect.unwatched = perform outlet use.load use.lock use.request cache seen.1 ∧
      effect.state.2 = seen.2 ∧
      effect.cache.jobs = cache.jobs ++ use.job?.toList ∧
      effect.cache.threads = match use.thread? with
        | none => cache.threads
        | some id => if id ∈ cache.threads then cache.threads else cache.threads ++ [id] := by
  obtain ⟨request, lock, load⟩ := use
  cases request with
  | roster id =>
    obtain ⟨same, silent⟩ := lookUpRoster_watched ⟨.roster id, lock, load⟩ id cache seen
    exact ⟨same, silent, (List.append_nil _).symm, rfl⟩
  | flush => simp [Use.flushes] at quiet
  | addJob work => exact ⟨rfl, rfl, rfl, rfl⟩
  | addThread id =>
    by_cases waits : id ∈ cache.threads <;>
      simp [perform, Cache.addThread, Effect.done, Effect.unwatched, Accumulator.addThread,
        Use.job?, Use.thread?, waits]
  | _ => exact ⟨rfl, rfl, (List.append_nil _).symm, rfl⟩

/-- A request for a flush makes the calls of one flush. -/
theorem perform_flush (outlet : Outlet Work σ) {use : Use Work σ} (flush : use.flushes = true)
    (cache : Accumulator Work) (seen : σ × List (Call Work)) :
    let effect := perform outlet.watched use.watched.load use.lock use.request cache seen
    effect.unwatched = perform outlet use.load use.lock use.request cache seen.1 ∧
      ∃ calls answer, effect.state.2 = seen.2 ++ calls ∧
        effect.answer = answer.map (fun () => .done) ∧
        Flushed cache.jobs cache.threads calls answer effect.cache := by
  obtain ⟨request, lock, load⟩ := use
  cases request with
  | flush =>
    obtain ⟨same, calls, noted, flushed⟩ := Accumulator.flush_watched outlet cache seen
    exact ⟨congrArg Effect.done same, calls, _, noted, rfl, flushed⟩
  | _ => simp [Use.flushes] at flush

/-- The use of a fresh cache whose outlet is watched. -/
def watch (outlet : Outlet Work σ) (lookups : Lookups) (state : σ) (uses : List (Use Work σ)) :
    Usage (Accumulator Work) (σ × List (Call Work)) :=
  Usage.after outlet.watched ⟨{ lookups := lookups }, (state, []), []⟩ (uses.map Use.watched)

theorem watch_concat (outlet : Outlet Work σ) (lookups : Lookups) (state : σ)
    (uses : List (Use Work σ)) (use : Use Work σ) :
    watch outlet lookups state (uses ++ [use])
      = (watch outlet lookups state uses).next outlet.watched use.watched := by
  simp only [watch, List.map_append, List.map_cons, List.map_nil, Usage.after_concat]

/-- What was handed over and what waits, in terms of the requests so far. -/
structure Waiting (uses : List (Use Work σ))
    (usage : Usage (Accumulator Work) (σ × List (Call Work))) : Prop where
  /-- No job was lost, handed over twice or overtaken. -/
  handed : usage.state.2.flatMap Call.works ++ usage.cache.jobs = Use.jobs uses
  jobs : usage.cache.jobs = Use.jobs (Use.sinceFlush uses)
  threads : usage.cache.threads = Use.threads (Use.sinceFlush uses)

namespace Waiting

variable {uses : List (Use Work σ)} {usage : Usage (Accumulator Work) (σ × List (Call Work))}

/-- A request that is not a flush only adds to what waits. -/
theorem quiet (waiting : Waiting uses usage) (outlet : Outlet Work σ) {use : Use Work σ}
    (quiet : use.flushes = false) :
    Waiting (uses ++ [use]) (usage.next outlet.watched use.watched) := by
  obtain ⟨-, silent, jobs, threads⟩ := perform_quiet outlet quiet usage.cache usage.state
  have since := Use.sinceFlush_concat_of_quiet quiet uses
  refine ⟨?_, ?_, ?_⟩
  · calc
      _ = usage.state.2.flatMap Call.works ++ (usage.cache.jobs ++ use.job?.toList) :=
        congrArg₂ (fun calls jobs => List.flatMap Call.works calls ++ jobs) silent jobs
      _ = Use.jobs (uses ++ [use]) := by
        rw [← List.append_assoc, waiting.handed, Use.jobs_concat]
  · rw [since, Use.jobs_concat, ← waiting.jobs]
    exact jobs
  · rw [since]
    refine threads.trans ?_
    cases asked : use.thread? with
    | none => rw [Use.threads_concat_of_none asked, waiting.threads]
    | some id => rw [Use.threads_concat_of_some asked, waiting.threads]

/-- A flush hands over all that waits. -/
theorem flush (waiting : Waiting uses usage) (outlet : Outlet Work σ) {use : Use Work σ}
    (flush : use.flushes = true) :
    Waiting (uses ++ [use]) (usage.next outlet.watched use.watched) := by
  obtain ⟨-, calls, answer, noted, -, flushed⟩ := perform_flush outlet flush usage.cache usage.state
  have since := Use.sinceFlush_concat_of_flush flush uses
  have added : use.job? = none := by
    obtain ⟨request, lock, load⟩ := use
    cases request with
    | flush => rfl
    | _ => simp [Use.flushes] at flush
  refine ⟨?_, ?_, ?_⟩
  · calc
      _ = (usage.state.2 ++ calls).flatMap Call.works ++ [] :=
        congrArg₂ (fun calls jobs => List.flatMap Call.works calls ++ jobs) noted
          flushed.idle.noJobs
      _ = Use.jobs (uses ++ [use]) := by
        rw [List.flatMap_append, flushed.works_eq, List.append_nil, waiting.handed,
          Use.jobs_concat, added, Option.toList_none, List.append_nil]
  · rw [since]
    exact flushed.idle.noJobs
  · rw [since]
    exact flushed.idle.noThreads

end Waiting

/-- The invariant of a cache that was fresh at first. -/
theorem waiting_watch (outlet : Outlet Work σ) (lookups : Lookups) (state : σ)
    (uses : List (Use Work σ)) : Waiting uses (watch outlet lookups state uses) := by
  induction uses using List.reverseRecOn with
  | nil => exact ⟨rfl, rfl, rfl⟩
  | append_singleton uses use ih =>
    rw [watch_concat]
    cases flushes : use.flushes with
    | false => exact ih.quiet outlet flushes
    | true => exact ih.flush outlet flushes

/-- Watching the outlet does not change what becomes of the cache. -/
theorem unwatched_watch (outlet : Outlet Work σ) (lookups : Lookups) (state : σ)
    (uses : List (Use Work σ)) :
    (watch outlet lookups state uses).unwatched
      = Usage.after outlet ⟨{ lookups := lookups }, state, []⟩ uses := by
  induction uses using List.reverseRecOn with
  | nil => rfl
  | append_singleton uses use ih =>
    rw [watch_concat, Usage.after_concat, ← ih]
    generalize watch outlet lookups state uses = usage
    have same : (perform outlet.watched use.watched.load use.lock use.request usage.cache
        usage.state).unwatched
          = perform outlet use.load use.lock use.request usage.cache usage.state.1 := by
      cases flushes : use.flushes with
      | false => exact (perform_quiet outlet flushes usage.cache usage.state).1
      | true => exact (perform_flush outlet flushes usage.cache usage.state).1
    simp only [Usage.next, Usage.unwatched, ← same]
    rfl

/-- The account of what a fresh cache handed over in the course of some uses, and of what it does
when it is used once more. -/
structure Settled (outlet : Outlet Work σ) (lookups : Lookups) (state : σ)
    (uses : List (Use Work σ)) : Prop where
  /-- The notes are all that watching adds. -/
  unwatched : (watch outlet lookups state uses).unwatched
    = Usage.after outlet ⟨{ lookups := lookups }, state, []⟩ uses
  /-- The jobs handed over, followed by those that wait, are the jobs added. -/
  handed : (watch outlet lookups state uses).state.2.flatMap Call.works
      ++ (watch outlet lookups state uses).cache.jobs
    = Use.jobs uses
  /-- Only a flush makes calls. -/
  quiet : ∀ use : Use Work σ, use.flushes = false →
    (watch outlet lookups state (uses ++ [use])).state.2 = (watch outlet lookups state uses).state.2
  /-- A flush hands over what was added since the last flush, and with it all there was. -/
  flush : ∀ use : Use Work σ, use.flushes = true → ∃ calls answer,
    (watch outlet lookups state (uses ++ [use])).state.2
        = (watch outlet lookups state uses).state.2 ++ calls ∧
      (watch outlet lookups state (uses ++ [use])).answers
        = (watch outlet lookups state uses).answers ++ [answer.map fun () => .done] ∧
      (watch outlet lookups state (uses ++ [use])).state.2.flatMap Call.works = Use.jobs uses ∧
      Flushed (Use.jobs (Use.sinceFlush uses)) (Use.threads (Use.sinceFlush uses)) calls answer
        (watch outlet lookups state (uses ++ [use])).cache

/-- Every job added to a fresh cache is handed over in exactly one call, by the next flush, and the
threads asked for since the last flush go with it in one call, each once, whatever the outlet
answers to this or answered before. -/
theorem handed_over_once (outlet : Outlet Work σ) (lookups : Lookups) (state : σ)
    (uses : List (Use Work σ)) : Settled outlet lookups state uses := by
  have waiting := waiting_watch outlet lookups state uses
  refine ⟨unwatched_watch outlet lookups state uses, waiting.handed, ?quiet, ?flush⟩
  case quiet =>
    intro use quiet
    rw [watch_concat]
    exact (perform_quiet outlet quiet _ _).2.1
  case flush =>
    intro use flush
    rw [watch_concat]
    generalize watch outlet lookups state uses = usage at *
    obtain ⟨-, calls, answer, noted, answered, flushed⟩ :=
      perform_flush outlet flush usage.cache usage.state
    rw [waiting.jobs, waiting.threads] at flushed
    refine ⟨calls, answer, noted, congrArg (usage.answers ++ [·]) answered, ?_, flushed⟩
    calc
      _ = (usage.state.2 ++ calls).flatMap Call.works := congrArg (List.flatMap Call.works) noted
      _ = usage.state.2.flatMap Call.works ++ usage.cache.jobs := by
        rw [List.flatMap_append, flushed.works_eq, waiting.jobs]
      _ = Use.jobs uses := waiting.handed

end Mailroom.Batch
