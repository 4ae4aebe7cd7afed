import Mailroom.Proofs.Batch.Desk

/-!
# Both caches have the same effects

Whether effects are held back or passed through, the same requests followed by one flush lead to the
same: lookups answer the same, the same jobs are submitted in the same order, and the same threads
move to the top and leave the archive. What the strategies do not agree on is only the order among
the threads that were moved. `same_effects` says so of any requests over equal desks.
-/

namespace Mailroom

namespace Archive

/-- What was made of the thread list where the threads of a list were asked for. -/
structure Arranged (requested : List ThreadId) (before after : Archive) : Prop where
  /-- The threads whose position changed are those that were asked for. -/
  changed : ∀ id, (after.thread? id).map Thread.position ≠ (before.thread? id).map Thread.position ↔
    id ∈ requested
  /-- A thread that was asked for stands above every thread that was not. -/
  above : ∀ high ∈ requested, ∀ low ∉ requested, ∀ upper lower,
    after.thread? high = some upper → after.thread? low = some lower →
      lower.position < upper.position
  /-- A thread that was not asked for is as it was. -/
  untouched : ∀ id ∉ requested, after.thread? id = before.thread? id

/-- A thread on file lies below the next position. -/
theorem Stacked.below {archive : Archive} (stacked : archive.Stacked) {id : ThreadId}
    {thread : Thread} (found : archive.thread? id = some thread) :
    thread.position.toNat < archive.nextPosition.toNat :=
  UInt64.lt_iff_toNat_lt.1 (stacked thread (Table.mem_of_get? found))

namespace Moved

variable {unarchive : Bool} {ids requested : List ThreadId} {before after : Archive}

/-- A thread that was asked for is found at the place of its last request. -/
theorem asked_place (moved : Moved unarchive ids before after)
    (filed : ∀ id ∈ ids, before.threads.contains id = true) {id : ThreadId} (asked : id ∈ ids) :
    ∃ top, after.thread? id = some top ∧
      top.position.toNat = before.nextPosition.toNat + lastPlace ids id := by
  obtain ⟨thread, found⟩ := contains_thread_iff.1 (filed id asked)
  obtain ⟨top, here, -, place⟩ := moved.thread?_of_mem asked found
  exact ⟨top, here, place⟩

/-- A thread that was not asked for stays below where the first one was moved to. -/
theorem unasked_below (moved : Moved unarchive ids before after) (stacked : before.Stacked)
    {id : ThreadId} (unasked : id ∉ ids) {thread : Thread}
    (found : after.thread? id = some thread) :
    thread.position.toNat < before.nextPosition.toNat := by
  rw [moved.thread?_of_not_mem unasked] at found
  exact stacked.below found

/-- Moves arrange the threads that they are asked for, in whatever order and however often. -/
theorem arranged (moved : Moved unarchive ids before after)
    (stacked : ids ≠ [] → before.Stacked)
    (filed : ∀ id ∈ ids, before.threads.contains id = true)
    (same : ∀ id, id ∈ ids ↔ id ∈ requested) : Arranged requested before after := by
  refine ⟨fun id => ?_, ?_, fun id unasked => ?_⟩
  · rw [← same]
    by_cases asked : id ∈ ids
    · obtain ⟨thread, found⟩ := contains_thread_iff.1 (filed id asked)
      obtain ⟨top, here, place⟩ := moved.asked_place filed asked
      have below := (stacked (List.ne_nil_of_mem asked)).below found
      rw [here, found, Option.map_some, Option.map_some]
      refine iff_of_true (fun equal => ?_) asked
      have positions : top.position = thread.position := Option.some.inj equal
      rw [positions] at place
      omega
    · rw [moved.thread?_of_not_mem asked]
      exact iff_of_false (fun differs => differs rfl) asked
  · intro high asked low unasked upper lower foundHigh foundLow
    rw [← same] at asked unasked
    have below := moved.unasked_below (stacked (List.ne_nil_of_mem asked)) unasked foundLow
    obtain ⟨top, here, place⟩ := moved.asked_place filed asked
    rw [foundHigh] at here
    cases here
    rw [UInt64.lt_iff_toNat_lt]
    omega
  · rw [← same] at unasked
    exact moved.thread?_of_not_mem unasked

/-- Whether a thread is archived after moves depends only on whether it was asked for. -/
theorem archived (moved : Moved unarchive ids before after) (id : ThreadId) :
    (after.thread? id).map Thread.archived = (before.thread? id).map fun thread =>
      if id ∈ ids then thread.archived && !unarchive else thread.archived := by
  rw [moved.thread?, Option.map_map]
  refine congrArg (fun view => (before.thread? id).map view) (funext fun thread => ?_)
  rw [Function.comp_apply]
  by_cases asked : id ∈ ids
  · rw [if_pos asked, if_pos asked]
  · rw [if_neg asked, if_neg asked]

end Moved

end Archive

/-- Where storage that was filled from the start is ready for threads, its thread list is in
order. -/
theorem Storage.Ready.stacked {storage : Storage} {ids : List ThreadId}
    (ready : storage.Ready ids) (reached : storage.Reachable) (some : ids ≠ []) :
    storage.value.Stacked := by
  obtain ⟨id, held⟩ := List.exists_mem_of_ne_nil ids some
  exact reached.stacked (ready.finds id held).filed.1

/-- Storage that is ready for threads is ready for them without repetition. -/
theorem Storage.Ready.eraseDups {storage : Storage} {ids : List ThreadId}
    (ready : storage.Ready ids) : storage.Ready ids.eraseDups := by
  refine ⟨fun id held => ready.finds id (List.mem_eraseDups.1 held), ?_⟩
  have room := ready.room
  have fewer := Batch.length_eraseDups_le ids
  omega

namespace Batch

variable {Work World : Type}

/-- Puts requests to a cache over a desk and flushes it once. -/
def run (craft : Job.Craft Work Job.Store) (stamps : Nat → Job.Stamp) (cache : AnyCache Work)
    (desk : Desk World) (asks : List (Ask Work World)) : Usage (AnyCache Work) (Desk World) :=
  finish craft stamps (serve craft stamps cache desk asks)

/-- Two runs of the same requests over equal desks have the same effects. -/
structure SameEffects (craft : Job.Craft Work Job.Store) (desk : Desk World)
    (asks : List (Ask Work World)) (held eager : Usage (AnyCache Work) (Desk World)) : Prop where
  /-- Every lookup answers the same. -/
  lookups : ∀ (place : Nat) (ask : Ask Work World), asks[place]? = some ask →
    ask.request.looksUp = true →
      ∃ answer, held.answers[place]? = some answer ∧ eager.answers[place]? = some answer
  /-- The new jobs are the same, in the same order of creation. -/
  jobs : (Job.Jobs.since desk.jobs.value held.state.jobs.value).map Job.Record.content =
    (Job.Jobs.since desk.jobs.value eager.state.jobs.value).map Job.Record.content
  /-- They are those that were added, and the jobs that were there before are still there. -/
  heldJobs : Job.Filed craft (Ask.jobs asks) desk.jobs held.state.jobs
  eagerJobs : Job.Filed craft (Ask.jobs asks) desk.jobs eager.state.jobs
  /-- Every thread is archived in both or in neither. -/
  archived : ∀ id, (held.state.storage.value.thread? id).map Thread.archived =
    (eager.state.storage.value.thread? id).map Thread.archived
  /-- The threads that were asked for, and no others, are moved above the others. -/
  heldThreads : Archive.Arranged (Ask.threads asks) desk.storage.value held.state.storage.value
  eagerThreads : Archive.Arranged (Ask.threads asks) desk.storage.value eager.state.storage.value
  /-- Lookups have left the same world. -/
  world : held.state.world = eager.state.world

/-- What the runs of the same requests with both caches make of equal desks. -/
structure Runs (craft : Job.Craft Work Job.Store) (heldStamps eagerStamps : Nat → Job.Stamp)
    (desk : Desk World) (asks : List (Ask Work World))
    (held eager : Usage (AnyCache Work) (Desk World)) : Prop where
  lookups : ∀ (place : Nat) (ask : Ask Work World), asks[place]? = some ask →
    ask.request.looksUp = true →
      ∃ answer, held.answers[place]? = some answer ∧ eager.answers[place]? = some answer
  heldJobs : held.state.jobs =
    (Job.addAll craft (fun place => heldStamps (desk.stamped + place)) (Ask.jobs asks) desk.jobs).2
  eagerJobs : eager.state.jobs =
    Job.addEach craft (fun place => eagerStamps (desk.stamped + place)) (Ask.jobs asks) desk.jobs
  heldThreads : Storage.Moved (Ask.threads asks).eraseDups desk.storage held.state.storage
  eagerThreads : Storage.Moved (Ask.threads asks) desk.storage eager.state.storage
  world : held.state.world = eager.state.world

/-- One run submits the jobs together and moves every thread once, the other submits one job after
another and moves the threads at every request. -/
theorem run_runs (craft : Job.Craft Work Job.Store) (heldStamps eagerStamps : Nat → Job.Stamp)
    (lookups : Lookups) (desk : Desk World) {asks : List (Ask Work World)}
    (quiet : ∀ ask ∈ asks, ask.use.flushes = false)
    (ready : desk.storage.Ready (Ask.threads asks)) :
    Runs craft heldStamps eagerStamps desk asks
      (run craft heldStamps (.accumulating { lookups := lookups }) desk asks)
      (run craft eagerStamps (.passing ⟨lookups⟩) desk asks) := by
  have lockstep := serve_lockstep craft heldStamps eagerStamps lookups desk quiet ready
  unfold run
  generalize serve craft heldStamps (.accumulating { lookups := lookups }) desk asks = held
    at lockstep ⊢
  generalize serve craft eagerStamps (.passing ⟨lookups⟩) desk asks = eager at lockstep ⊢
  obtain ⟨heldCache, heldDesk, heldAnswers⟩ := held
  obtain ⟨eagerCache, eagerDesk, eagerAnswers⟩ := eager
  have waiting := lockstep.waiting
  obtain ⟨passing, passes⟩ := lockstep.passing
  have untouched := lockstep.untouched
  change heldCache = _ at waiting
  change eagerCache = _ at passes
  change heldDesk = _ at untouched
  subst waiting passes untouched
  have readyOnce : desk.storage.Ready (Ask.threads asks).eraseDups := ready.eraseDups
  obtain ⟨answer, answers, flush⟩ := finish_accumulating craft heldStamps
    ⟨(AnyCache.passing passing : AnyCache Work).lookups, Ask.jobs asks,
      (Ask.threads asks).eraseDups⟩
    { desk with world := eagerDesk.world } readyOnce heldAnswers
  rw [finish_passing]
  refine ⟨fun place ask found looksUp => ?_, flush.jobs, lockstep.submitted, flush.storage,
    lockstep.moved, flush.world⟩
  have agree := lockstep.agree
  have inside : place < asks.length := (List.getElem?_eq_some_iff.1 found).1
  have heldInside : place < heldAnswers.length := agree.firstLength.symm ▸ inside
  have eagerInside : place < eagerAnswers.length := agree.secondLength.symm ▸ inside
  have same := agree.same place ask found looksUp
  rw [answers]
  show ∃ answer, (heldAnswers ++ [_])[place]? = some answer ∧
    (eagerAnswers ++ [_])[place]? = some answer
  rw [List.getElem?_append_left heldInside, List.getElem?_append_left eagerInside]
  refine ⟨heldAnswers[place], List.getElem?_eq_getElem heldInside, ?_⟩
  rw [← same]
  exact List.getElem?_eq_getElem heldInside

/-- The accumulating and the pass-through cache have the same effects. Put any requests but a flush
to both over equal desks, and then flush once. If storage was filled from the start, finds every
thread that is asked for and has positions for all requests, if every job can be saved, and if the
stamps that the runs take are fresh, then the runs have the same effects. -/
theorem same_effects {craft : Job.Craft Work Job.Store} {heldStamps eagerStamps : Nat → Job.Stamp}
    (lookups : Lookups) {desk : Desk World} {asks : List (Ask Work World)}
    (quiet : ∀ ask ∈ asks, ask.use.flushes = false)
    (reached : desk.storage.Reachable) (ready : desk.storage.Ready (Ask.threads asks))
    (saves : ∀ work ∈ Ask.jobs asks, craft.Saves work)
    (heldFresh : Job.Fresh (fun place => heldStamps (desk.stamped + place)) (Ask.jobs asks).length
      desk.jobs.value)
    (eagerFresh : Job.Fresh (fun place => eagerStamps (desk.stamped + place))
      (Ask.jobs asks).length desk.jobs.value) :
    SameEffects craft desk asks
      (run craft heldStamps (.accumulating { lookups := lookups }) desk asks)
      (run craft eagerStamps (.passing ⟨lookups⟩) desk asks) := by
  have runs := run_runs craft heldStamps eagerStamps lookups desk quiet ready
  have once : ∀ id, id ∈ (Ask.threads asks).eraseDups ↔ id ∈ Ask.threads asks :=
    fun id => List.mem_eraseDups
  have filed : ∀ id ∈ Ask.threads asks, desk.storage.value.threads.contains id = true :=
    fun id asked => (ready.finds id asked).filed.2
  have heldJobs := Job.addAll_filed saves heldFresh
  have eagerJobs := Job.addEach_filed saves eagerFresh
  rw [← runs.heldJobs] at heldJobs
  rw [← runs.eagerJobs] at eagerJobs
  refine ⟨runs.lookups, heldJobs.since.trans eagerJobs.since.symm, heldJobs, eagerJobs,
    fun id => ?_, ?_, ?_, runs.world⟩
  · rw [runs.heldThreads.archive.archived, runs.eagerThreads.archive.archived]
    refine congrArg (fun view => (desk.storage.value.thread? id).map view) (funext fun thread => ?_)
    rw [if_congr (once id) rfl rfl]
  · exact runs.heldThreads.archive.arranged (ready.eraseDups.stacked reached)
      (fun id asked => filed id ((once id).1 asked)) once
  · exact runs.eagerThreads.archive.arranged (ready.stacked reached) filed fun id => Iff.rfl

/-- Notices are jobs that carry some bytes. -/
def notices : Job.Craft (List UInt8) Job.Store where
  key _ := "notice"
  parameters _ := {}
  save bytes := .ok bytes
  restore _ := some fun _ payload => .ok payload
  check _ _ := none
  run bytes store := (.success, bytes, store)
  giveUp _ store := store

/-- Storage with two threads, of which the first is archived. -/
def twoThreads : Storage :=
  ((Storage.empty.insertThread ⟨⟨1⟩, ⟨101⟩, true, 0⟩).2.insertThread ⟨⟨2⟩, ⟨102⟩, false, 0⟩).2

theorem reachable_twoThreads : twoThreads.Reachable :=
  .insertThread (.insertThread .empty _) _

/-- A desk with two threads and no jobs. -/
def twoThreadDesk : Desk Unit := { jobs := .empty, storage := twoThreads, world := () }

/-- Asks for something without the group lock. The state of a group is what storage knows. -/
def asking (request : Request (List UInt8)) : Ask (List UInt8) Unit :=
  ⟨request, {}, fun id known world => (known id, world)⟩

/-- The threads `1`, `2` and again `1` are asked for. -/
def thereAndBack : List (Ask (List UInt8) Unit) :=
  [asking (.addThread ⟨1⟩), asking (.addThread ⟨2⟩), asking (.addThread ⟨1⟩)]

theorem ready_thereAndBack : twoThreads.Ready (Ask.threads thereAndBack) := by
  refine ⟨fun id asked => ?_, by decide⟩
  have either : id = ⟨1⟩ ∨ id = ⟨2⟩ := by
    have held : id ∈ [(⟨1⟩ : ThreadId), ⟨2⟩, ⟨1⟩] := asked
    simp only [List.mem_cons, List.not_mem_nil, or_false] at held
    tauto
  rcases either with rfl | rfl
  · exact ⟨_, rfl⟩
  · exact ⟨_, rfl⟩

/-- The stamps that follow a number. -/
def stampsFrom (number place : Nat) : Job.Stamp :=
  ⟨⟨⟨.ofNumber 16 (number + place)⟩⟩, .ofNanos (number + place)⟩

/-- Two different stamps in the order of creation are fresh for a store without jobs. -/
theorem fresh_pair {stamps : Nat → Job.Stamp} (distinct : (stamps 0).id ≠ (stamps 1).id)
    (ordered : (stamps 0).Before (stamps 1)) : Job.Fresh stamps 2 Job.Store.empty.value := by
  have only : ∀ left right, left < right → right < 2 → left = 0 ∧ right = 1 := by omega
  refine ⟨fun place inside => rfl, fun left right lt inside => ?_, fun left right lt inside => ?_⟩
  · obtain ⟨rfl, rfl⟩ := only left right lt inside
    exact distinct
  · obtain ⟨rfl, rfl⟩ := only left right lt inside
    exact ordered

/-- Two notices and a lookup between them, before the threads are asked for. -/
def morning : List (Ask (List UInt8) Unit) :=
  asking (.addJob [1]) :: asking (.roster (.v2 (.zero 32))) :: asking (.addJob [2]) :: thereAndBack

/-- Whether nothing is flushed can be computed. -/
theorem quiet_of_all {asks : List (Ask Work World)}
    (all : (asks.all fun ask => !ask.use.flushes) = true) :
    ∀ ask ∈ asks, ask.use.flushes = false := by
  intro ask held
  have quiet := List.all_eq_true.1 all ask held
  rwa [Bool.not_eq_true'] at quiet

/-- Both caches have the same effects in the morning. -/
theorem same_effects_morning :
    SameEffects notices twoThreadDesk morning
      (run notices (stampsFrom 10) (.accumulating {}) twoThreadDesk morning)
      (run notices (stampsFrom 20) (.passing {}) twoThreadDesk morning) :=
  same_effects {} (quiet_of_all rfl) reachable_twoThreads ready_thereAndBack
    (fun _ _ => ⟨_, rfl⟩) (fresh_pair (by decide) (.inl (by decide)))
    (fresh_pair (by decide) (.inl (by decide)))

end Batch

end Mailroom
