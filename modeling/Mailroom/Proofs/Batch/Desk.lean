import Mailroom.Proofs.Batch.HandOver
import Mailroom.Proofs.Job.Submission
import Mailroom.Proofs.Storage.Threads

/-!
# Two caches over one desk

A desk is what the effects of batches go to: a store of jobs and storage of messages, with the world
around them. The same requests are put to an accumulating and to a pass-through cache over equal
desks. The two runs go in lockstep: at any time the lookups of both remember the same, and what the
one has handed over the other holds back. `Lockstep.next` is the step of this, `serve_lockstep` the
run, and `finish_accumulating` and `finish_passing` say what the final flush makes of the desks.
-/

namespace Mailroom.Batch

/-- What the effects of batches go to. -/
structure Desk (World : Type) where
  jobs : Job.Store
  storage : Storage
  /-- How many jobs were given a stamp so far. -/
  stamped : Nat := 0
  log : Log := []
  /-- Everything else. -/
  world : World

/-- The effects of batches go to a desk, where new jobs take one stamp after another. -/
def Desk.outlet {Work World : Type} (craft : Job.Craft Work Job.Store) (stamps : Nat → Job.Stamp) :
    Outlet Work (Desk World) where
  addJob work desk :=
    let (answer, jobs) := Job.add craft (stamps desk.stamped) work desk.jobs
    (answer, { desk with jobs := jobs, stamped := desk.stamped + 1 })
  addJobs works desk :=
    let (answer, jobs) :=
      Job.addAll craft (fun place => stamps (desk.stamped + place)) works desk.jobs
    (answer, { desk with jobs := jobs, stamped := desk.stamped + works.length })
  updateThread id desk :=
    let (answer, storage) := desk.storage.updateThread id true
    (answer, { desk with storage := storage })
  updateThreads ids desk :=
    let (answer, storage) := desk.storage.updateThreads ids true
    (answer, { desk with storage := storage })
  report event desk := { desk with log := desk.log ++ [event] }

/-- How the state of a group is loaded at a desk: from what storage knows of groups and from the
world. -/
abbrev Loading (World : Type) : Type :=
  GroupId → (GroupId → Except StorageError (Option Roster)) → World →
    Except StorageError (Option Roster) × World

/-- Loads the state of a group at a desk. -/
def Desk.load {World : Type} (load : Loading World) (id : GroupId) (desk : Desk World) :
    Except StorageError (Option Roster) × Desk World :=
  let (answer, world) := load id desk.storage.group desk.world
  (answer, { desk with world := world })

/-- A request to a cache over a desk, with the group lock as it is then. -/
structure Ask (Work World : Type) where
  request : Request Work
  lock : GroupLock
  load : Loading World

/-- Whether a request is a lookup. -/
def Request.looksUp {Work : Type} : Request Work → Bool
  | .addJob _ => false
  | .addThread _ => false
  | .flush => false
  | _ => true

namespace Ask

variable {Work World : Type}

/-- The use of a cache over a desk. -/
def use (ask : Ask Work World) : Use Work (Desk World) where
  request := ask.request
  lock := ask.lock
  load := Desk.load ask.load

/-- The jobs that are added, in their order. -/
def jobs (asks : List (Ask Work World)) : List Work := Use.jobs (asks.map use)

/-- The threads that are asked for, as often and in the order as they are. -/
def threads (asks : List (Ask Work World)) : List ThreadId :=
  asks.filterMap fun ask => ask.use.thread?

/-- A lookup adds no job and asks for no thread. -/
theorem use_of_looksUp (ask : Ask Work World) (looksUp : ask.request.looksUp = true) :
    ask.use.job? = none ∧ ask.use.thread? = none := by
  obtain ⟨request, lock, load⟩ := ask
  cases request with
  | addJob | addThread | flush => cases looksUp
  | _ => exact ⟨rfl, rfl⟩

theorem jobs_concat (asks : List (Ask Work World)) (ask : Ask Work World) :
    jobs (asks ++ [ask]) = jobs asks ++ ask.use.job?.toList := by
  unfold jobs
  rw [List.map_append]
  exact Use.jobs_concat _ _

theorem threads_concat (asks : List (Ask Work World)) (ask : Ask Work World) :
    threads (asks ++ [ask]) = threads asks ++ ask.use.thread?.toList := by
  unfold threads
  cases asked : ask.use.thread? <;> simp [asked]

end Ask

section

variable {Work World : Type}

/-- Loading the state of a group changes nothing of the desk but the world. -/
theorem roster_load (lock : GroupLock) (load : Loading World) (id : GroupId) (lookups : Lookups)
    (desk : Desk World) :
    lookups.roster lock (Desk.load load) id desk =
      let (answer, later, world) :=
        lookups.roster lock (fun id => load id desk.storage.group) id desk.world
      (answer, later, { desk with world := world }) := by
  simp only [Lookups.roster, Desk.load]
  by_cases allowed : lookups.allowed lock = true
  · rw [if_pos allowed, if_pos allowed]
    cases lookups.rosters.find? id with
    | some roster => rfl
    | none =>
      rcases load id desk.storage.group desk.world with ⟨reason | roster, world⟩
      · rfl
      · rfl
  · rw [if_neg allowed, if_neg allowed]

/-- What a lookup answers, makes the cache remember and does to the world is told by what the cache
remembered, by the groups that storage knows, and by the world. -/
def Told (lookups : Lookups) (group : GroupId → Except StorageError (Option Roster)) (world : World)
    (effect : Outlet Work (Desk World) → AnyCache Work → Desk World →
      Effect BatchError Reply (AnyCache Work) (Desk World)) : Prop :=
  ∃ answer later after, ∀ outlet (cache : AnyCache Work) (desk : Desk World),
    cache.lookups = lookups → desk.storage.group = group → desk.world = world →
      effect outlet cache desk = ⟨answer, cache.withLookups later, { desk with world := after }⟩

theorem told_lookUp {α : Type} (look : Lookups → Except Crash α × Lookups) (reply : α → Reply)
    (lookups : Lookups) (group : GroupId → Except StorageError (Option Roster)) (world : World) :
    Told lookups group world fun (_ : Outlet Work (Desk World)) cache desk =>
      lookUp look reply cache desk := by
  refine ⟨((look lookups).1.map reply).mapError Fault.crash, (look lookups).2, world, ?_⟩
  rintro outlet cache desk rfl rfl rfl
  rfl

/-- Every lookup is told. -/
theorem perform_told (ask : Ask Work World) (asks : ask.request.looksUp = true) (lookups : Lookups)
    (group : GroupId → Except StorageError (Option Roster)) (world : World) :
    Told lookups group world fun outlet =>
      perform outlet ask.use.load ask.use.lock ask.use.request := by
  obtain ⟨request, lock, load⟩ := ask
  cases request with
  | addJob | addThread | flush => cases asks
  | messageInfo message => exact told_lookUp (Lookups.messageInfo lock message) .info ..
  | groupInfo key =>
    exact told_lookUp (Lookups.groupInfo lock key) (fun found => .info (some found)) ..
  | revision id => exact told_lookUp (Lookups.revision lock id) .revision ..
  | setRevision id revision =>
    exact told_lookUp (Lookups.setRevision lock id revision) (fun () => .done) ..
  | isQueueEmpty marker => exact told_lookUp (Lookups.isQueueEmpty lock marker) .flag ..
  | markQueueEmpty marker => exact told_lookUp (Lookups.markQueueEmpty lock marker) .flag ..
  | isEmpty =>
    refine ⟨.ok (.flag lookups.isEmpty), lookups, world, ?_⟩
    rintro outlet cache desk rfl rfl rfl
    cases cache <;> rfl
  | clear =>
    refine ⟨.ok .done, lookups.clear, world, ?_⟩
    rintro outlet cache desk rfl rfl rfl
    rfl
  | roster id =>
    let loaded := lookups.roster lock (fun id => load id group) id world
    refine ⟨(loaded.1.map (.roster (lookups.rosters.find? id).isNone)).mapError
      (Fault.map BatchError.threads), loaded.2.1, loaded.2.2, ?_⟩
    rintro outlet cache desk rfl rfl rfl
    show lookUpRoster (Desk.load load) lock id cache desk = _
    simp only [lookUpRoster, roster_load]
    rfl

/-- Answers to requests, in their order. -/
abbrev Answers : Type := List (Except (Fault BatchError) Reply)

/-- Where something was looked up, two rows of answers to the same requests are the same. -/
structure Agree (asks : List (Ask Work World)) (first second : Answers) : Prop where
  firstLength : first.length = asks.length
  secondLength : second.length = asks.length
  same : ∀ (place : Nat) (ask : Ask Work World), asks[place]? = some ask →
    ask.request.looksUp = true → first[place]? = second[place]?

/-- One more request that is answered the same if it is a lookup. -/
theorem Agree.concat {asks : List (Ask Work World)}
    {first second : Answers} (agree : Agree asks first second)
    {ask : Ask Work World} {left right : Except (Fault BatchError) Reply}
    (same : ask.request.looksUp = true → left = right) :
    Agree (asks ++ [ask]) (first ++ [left]) (second ++ [right]) := by
  refine ⟨?_, ?_, fun place asked found looksUp => ?_⟩
  · rw [List.length_append, List.length_append, agree.firstLength]
    rfl
  · rw [List.length_append, List.length_append, agree.secondLength]
    rfl
  · by_cases earlier : place < asks.length
    · rw [List.getElem?_append_left earlier] at found
      rw [List.getElem?_append_left (agree.firstLength ▸ earlier),
        List.getElem?_append_left (agree.secondLength ▸ earlier)]
      exact agree.same place asked found looksUp
    · have bound : asks.length ≤ place := Nat.le_of_not_lt earlier
      rw [List.getElem?_append_right bound] at found
      obtain ⟨rfl, -⟩ : ask = asked ∧ place - asks.length = 0 := by
        rw [List.getElem?_singleton] at found
        split at found
        · rename_i zero
          exact ⟨Option.some.inj found, zero⟩
        · cases found
      rw [List.getElem?_append_right (agree.firstLength ▸ bound),
        List.getElem?_append_right (agree.secondLength ▸ bound), agree.firstLength,
        agree.secondLength, same looksUp]

/-- The use of a cache over a desk. -/
def serve (craft : Job.Craft Work Job.Store) (stamps : Nat → Job.Stamp) (cache : AnyCache Work)
    (desk : Desk World) (asks : List (Ask Work World)) : Usage (AnyCache Work) (Desk World) :=
  Usage.after (Desk.outlet craft stamps) ⟨cache, desk, []⟩ (asks.map Ask.use)

theorem serve_concat (craft : Job.Craft Work Job.Store) (stamps : Nat → Job.Stamp)
    (cache : AnyCache Work) (desk : Desk World) (asks : List (Ask Work World))
    (ask : Ask Work World) :
    serve craft stamps cache desk (asks ++ [ask]) =
      (serve craft stamps cache desk asks).next (Desk.outlet craft stamps) ask.use := by
  unfold serve
  rw [List.map_append]
  exact Usage.after_concat _ _ _ _

/-- An accumulating and a pass-through run of the same requests over equal desks. -/
structure Lockstep (craft : Job.Craft Work Job.Store) (stamps : Nat → Job.Stamp)
    (desk : Desk World) (asks : List (Ask Work World))
    (held eager : Usage (AnyCache Work) (Desk World)) : Prop where
  /-- Both caches remember the same, and the accumulating one holds all effects back. -/
  waiting : held.cache =
    .accumulating ⟨eager.cache.lookups, Ask.jobs asks, (Ask.threads asks).eraseDups⟩
  passing : ∃ cache, eager.cache = .passing cache
  /-- The accumulating run has done nothing to the desk, but what lookups do to the world. -/
  untouched : held.state = { desk with world := eager.state.world }
  /-- The pass-through run has submitted every job and moved every thread. -/
  submitted : eager.state.jobs =
    Job.addEach craft (fun place => stamps (desk.stamped + place)) (Ask.jobs asks) desk.jobs
  stamped : eager.state.stamped = desk.stamped + (Ask.jobs asks).length
  moved : Storage.Moved (Ask.threads asks) desk.storage eager.state.storage
  agree : Agree asks held.answers eager.answers

namespace Lockstep

variable {craft : Job.Craft Work Job.Store} {stamps : Nat → Job.Stamp} {desk : Desk World}
  {asks : List (Ask Work World)} {held eager : Usage (AnyCache Work) (Desk World)}

/-- Two runs that have not begun. -/
theorem start (craft : Job.Craft Work Job.Store) (stamps : Nat → Job.Stamp) (lookups : Lookups)
    (desk : Desk World) :
    Lockstep craft stamps desk [] ⟨.accumulating { lookups := lookups }, desk, []⟩
      ⟨.passing ⟨lookups⟩, desk, []⟩ := by
  refine ⟨rfl, ⟨_, rfl⟩, rfl, rfl, rfl, .refl desk.storage, rfl, rfl, fun place ask found => ?_⟩
  cases found

/-- A lookup keeps the step. -/
theorem lookUp (lockstep : Lockstep craft stamps desk asks held eager)
    (outlet : Outlet Work (Desk World)) {ask : Ask Work World}
    (looksUp : ask.request.looksUp = true) :
    Lockstep craft stamps desk (asks ++ [ask]) (held.next outlet ask.use)
      (eager.next (Desk.outlet craft stamps) ask.use) := by
  obtain ⟨answer, later, after, told⟩ := perform_told ask looksUp eager.cache.lookups
    desk.storage.group eager.state.world
  have first := told outlet held.cache held.state (by rw [lockstep.waiting]; rfl)
    (by rw [lockstep.untouched]) (by rw [lockstep.untouched])
  have second := told (Desk.outlet craft stamps) eager.cache eager.state rfl
    lockstep.moved.group rfl
  obtain ⟨noJob, noThread⟩ := ask.use_of_looksUp looksUp
  have jobs : Ask.jobs (asks ++ [ask]) = Ask.jobs asks := by
    rw [Ask.jobs_concat, noJob]
    exact List.append_nil _
  have threads : Ask.threads (asks ++ [ask]) = Ask.threads asks := by
    rw [Ask.threads_concat, noThread]
    exact List.append_nil _
  obtain ⟨passing, passes⟩ := lockstep.passing
  unfold Usage.next
  dsimp only at first second ⊢
  rw [first, second]
  refine ⟨?_, ⟨⟨later⟩, ?_⟩, ?_, ?_, ?_, ?_, lockstep.agree.concat fun _ => rfl⟩
  · rw [jobs, threads, lockstep.waiting, passes]
    rfl
  · rw [passes]
    rfl
  · rw [lockstep.untouched]
  · rw [jobs]
    exact lockstep.submitted
  · rw [jobs]
    exact lockstep.stamped
  · rw [threads]
    exact lockstep.moved

/-- A job that is added keeps the step. -/
theorem addJob (lockstep : Lockstep craft stamps desk asks held eager)
    (outlet : Outlet Work (Desk World)) (work : Work) (lock : GroupLock) (load : Loading World) :
    let ask : Ask Work World := ⟨.addJob work, lock, load⟩
    Lockstep craft stamps desk (asks ++ [ask]) (held.next outlet ask.use)
      (eager.next (Desk.outlet craft stamps) ask.use) := by
  intro ask
  have jobs : Ask.jobs (asks ++ [ask]) = Ask.jobs asks ++ [work] := Ask.jobs_concat asks ask
  have threads : Ask.threads (asks ++ [ask]) = Ask.threads asks := by
    rw [Ask.threads_concat]
    exact List.append_nil _
  obtain ⟨passing, passes⟩ := lockstep.passing
  have first : held.next outlet ask.use =
      ⟨.accumulating
        ⟨eager.cache.lookups, Ask.jobs asks ++ [work], (Ask.threads asks).eraseDups⟩,
        held.state, held.answers ++ [.ok .done]⟩ := by
    unfold Usage.next
    rw [lockstep.waiting]
    rfl
  have second : ∃ answer, eager.next (Desk.outlet craft stamps) ask.use =
      ⟨eager.cache, { eager.state with
        jobs := (Job.add craft (stamps eager.state.stamped) work eager.state.jobs).2
        stamped := eager.state.stamped + 1 }, eager.answers ++ [answer]⟩ := by
    unfold Usage.next
    rw [passes]
    exact ⟨_, rfl⟩
  obtain ⟨answer, second⟩ := second
  rw [first, second]
  refine ⟨?_, ⟨passing, passes⟩, ?_, ?_, ?_, ?_, lockstep.agree.concat fun looksUp => ?_⟩
  · rw [jobs, threads]
  · exact lockstep.untouched
  · rw [jobs, Job.addEach_concat, ← lockstep.submitted, ← lockstep.stamped]
  · rw [jobs, List.length_append, ← Nat.add_assoc, ← lockstep.stamped]
    rfl
  · rw [threads]
    exact lockstep.moved
  · cases looksUp

/-- A thread that is asked for keeps the step, if storage is ready for it. -/
theorem addThread (lockstep : Lockstep craft stamps desk asks held eager)
    (outlet : Outlet Work (Desk World)) (id : ThreadId) (lock : GroupLock) (load : Loading World)
    (ready : desk.storage.Ready (Ask.threads asks ++ [id])) :
    let ask : Ask Work World := ⟨.addThread id, lock, load⟩
    Lockstep craft stamps desk (asks ++ [ask]) (held.next outlet ask.use)
      (eager.next (Desk.outlet craft stamps) ask.use) := by
  intro ask
  have jobs : Ask.jobs (asks ++ [ask]) = Ask.jobs asks := by
    rw [Ask.jobs_concat]
    exact List.append_nil _
  have threads : Ask.threads (asks ++ [ask]) = Ask.threads asks ++ [id] :=
    Ask.threads_concat asks ask
  obtain ⟨passing, passes⟩ := lockstep.passing
  obtain ⟨after, made, moved⟩ := lockstep.moved.updateThread ready
  have waiting : (Accumulator.addThread
      (⟨eager.cache.lookups, Ask.jobs asks, (Ask.threads asks).eraseDups⟩ : Accumulator Work) id) =
        ⟨eager.cache.lookups, Ask.jobs asks, (Ask.threads asks ++ [id]).eraseDups⟩ := by
    unfold Accumulator.addThread
    rw [eraseDups_concat]
    by_cases again : id ∈ Ask.threads asks
    · have waits : (Ask.threads asks).eraseDups.contains id = true :=
        List.contains_iff_mem.2 (List.mem_eraseDups.2 again)
      rw [if_pos again, if_pos waits]
    · have new : ¬ (Ask.threads asks).eraseDups.contains id = true :=
        fun waits => again (List.mem_eraseDups.1 (List.contains_iff_mem.1 waits))
      rw [if_neg again, if_neg new]
  have first : held.next outlet ask.use =
      ⟨.accumulating
        ⟨eager.cache.lookups, Ask.jobs asks, (Ask.threads asks ++ [id]).eraseDups⟩,
        held.state, held.answers ++ [.ok .done]⟩ := by
    unfold Usage.next
    rw [lockstep.waiting, ← waiting]
    rfl
  have second : eager.next (Desk.outlet craft stamps) ask.use =
      ⟨eager.cache, { eager.state with storage := after }, eager.answers ++ [.ok .done]⟩ := by
    have moves : (Desk.outlet craft stamps).updateThread id eager.state =
        (.ok (), { eager.state with storage := after }) := by
      simp only [Desk.outlet, made]
    unfold Usage.next
    rw [passes]
    simp only [ask, Ask.use, perform, Cache.addThread, PassThrough.addThread, moves]
    rfl
  rw [first, second]
  refine ⟨?_, ⟨passing, passes⟩, ?_, ?_, ?_, ?_, lockstep.agree.concat fun looksUp => rfl⟩
  · rw [jobs, threads]
  · exact lockstep.untouched
  · rw [jobs]
    exact lockstep.submitted
  · rw [jobs]
    exact lockstep.stamped
  · rw [threads]
    exact moved

/-- Every request but a flush keeps the step. -/
theorem next (lockstep : Lockstep craft stamps desk asks held eager)
    (outlet : Outlet Work (Desk World)) {ask : Ask Work World} (quiet : ask.use.flushes = false)
    (ready : desk.storage.Ready (Ask.threads (asks ++ [ask]))) :
    Lockstep craft stamps desk (asks ++ [ask]) (held.next outlet ask.use)
      (eager.next (Desk.outlet craft stamps) ask.use) := by
  rw [Ask.threads_concat] at ready
  obtain ⟨request, lock, load⟩ := ask
  cases request with
  | addJob work => exact lockstep.addJob outlet work lock load
  | addThread id => exact lockstep.addThread outlet id lock load ready
  | flush => cases quiet
  | _ => exact lockstep.lookUp outlet rfl

end Lockstep

/-- As long as nothing is flushed and storage is ready for all the threads, an accumulating and a
pass-through run go in lockstep. -/
theorem serve_lockstep (craft : Job.Craft Work Job.Store) (heldStamps stamps : Nat → Job.Stamp)
    (lookups : Lookups) (desk : Desk World) {asks : List (Ask Work World)}
    (quiet : ∀ ask ∈ asks, ask.use.flushes = false)
    (ready : desk.storage.Ready (Ask.threads asks)) :
    Lockstep craft stamps desk asks
      (serve craft heldStamps (.accumulating { lookups := lookups }) desk asks)
      (serve craft stamps (.passing ⟨lookups⟩) desk asks) := by
  induction asks using List.reverseRecOn with
  | nil => exact .start craft stamps lookups desk
  | append_singleton asks ask ih =>
    have readyBefore : desk.storage.Ready (Ask.threads asks) := by
      rw [Ask.threads_concat] at ready
      exact ready.front
    have before := ih (fun other held => quiet other (List.mem_append_left [ask] held)) readyBefore
    rw [serve_concat, serve_concat]
    exact before.next _ (quiet ask (List.mem_append_right asks (List.mem_singleton_self ask))) ready

/-- A flush at the end of the use of a cache. -/
def finish (craft : Job.Craft Work Job.Store) (stamps : Nat → Job.Stamp)
    (usage : Usage (AnyCache Work) (Desk World)) : Usage (AnyCache Work) (Desk World) :=
  usage.next (Desk.outlet craft stamps) ⟨.flush, {}, fun _ desk => (.ok none, desk)⟩

/-- A flush of the pass-through cache does nothing to the desk. -/
theorem finish_passing (craft : Job.Craft Work Job.Store) (stamps : Nat → Job.Stamp)
    (cache : PassThrough) (desk : Desk World) (answers : Answers) :
    finish craft stamps (⟨.passing cache, desk, answers⟩ : Usage (AnyCache Work) (Desk World)) =
      ⟨.passing cache.flush, desk, answers ++ [.ok .done]⟩ :=
  rfl

/-- Jobs that were held back are submitted together. -/
theorem flushJobs_desk (craft : Job.Craft Work Job.Store) (stamps : Nat → Job.Stamp)
    (works : List Work) (desk : Desk World) :
    (Accumulator.flushJobs (Desk.outlet craft stamps) works desk).2 =
      { desk with
        jobs := (Job.addAll craft (fun place => stamps (desk.stamped + place)) works desk.jobs).2
        stamped := desk.stamped + works.length } := by
  cases works with
  | nil => rfl
  | cons work rest => rfl

/-- Threads that were held back are moved together, if storage is ready for them. -/
theorem flushThreads_desk (craft : Job.Craft Work Job.Store) (stamps : Nat → Job.Stamp)
    {ids : List ThreadId} {desk : Desk World} (ready : desk.storage.Ready ids) :
    ∃ after, Accumulator.flushThreads (Desk.outlet craft stamps) ids desk =
        (.ok (), { desk with storage := after }) ∧ Storage.Moved ids desk.storage after := by
  by_cases none : ids = []
  · subst none
    exact ⟨desk.storage, rfl, .refl desk.storage⟩
  · obtain ⟨after, made, moved⟩ := ready.updateThreads none
    refine ⟨after, ?_, moved⟩
    have some : ¬ ids.isEmpty = true := by
      rw [List.isEmpty_iff]
      exact none
    unfold Accumulator.flushThreads
    rw [if_neg some]
    simp only [Desk.outlet, made]

/-- Reporting a refusal only writes the log. -/
theorem reportRefusal_desk (craft : Job.Craft Work Job.Store) (stamps : Nat → Job.Stamp)
    (message : String) (answer : Except BatchError Unit) (desk : Desk World) :
    ∃ log, Accumulator.reportRefusal (Desk.outlet craft stamps) message answer desk =
      { desk with log := log } := by
  cases answer with
  | ok => exact ⟨desk.log, rfl⟩
  | error reason => exact ⟨_, rfl⟩

/-- What a flush of the accumulating cache does to the desk, if storage is ready for the threads. -/
structure Flush (craft : Job.Craft Work Job.Store) (stamps : Nat → Job.Stamp) (works : List Work)
    (ids : List ThreadId) (before after : Desk World) : Prop where
  jobs : after.jobs =
    (Job.addAll craft (fun place => stamps (before.stamped + place)) works before.jobs).2
  storage : Storage.Moved ids before.storage after.storage
  world : after.world = before.world

/-- A flush of the accumulating cache submits the jobs together and moves the threads together. -/
theorem finish_accumulating (craft : Job.Craft Work Job.Store) (stamps : Nat → Job.Stamp)
    (cache : Accumulator Work) (desk : Desk World) (ready : desk.storage.Ready cache.threads)
    (answers : Answers) :
    ∃ answer, (finish craft stamps ⟨.accumulating cache, desk, answers⟩).answers =
        answers ++ [answer] ∧
      Flush craft stamps cache.jobs cache.threads desk
        (finish craft stamps ⟨.accumulating cache, desk, answers⟩).state := by
  refine ⟨_, rfl, ?_⟩
  show Flush craft stamps cache.jobs cache.threads desk
    (cache.flush (Desk.outlet craft stamps) desk).state
  unfold Accumulator.flush
  rcases flushed : Accumulator.flushJobs (Desk.outlet craft stamps) cache.jobs desk with
    ⟨answer, between⟩
  have submitted := flushJobs_desk craft stamps cache.jobs desk
  rw [flushed] at submitted
  have readyBetween : between.storage.Ready cache.threads := by
    rw [show between = _ from submitted]
    exact ready
  obtain ⟨after, made, moved⟩ := flushThreads_desk craft stamps readyBetween
  obtain ⟨log, reported⟩ := reportRefusal_desk craft stamps "failed to flush batched jobs"
    (answer.mapError BatchError.jobs) { between with storage := after }
  simp only [made, reported]
  change between = _ at submitted
  subst submitted
  exact ⟨rfl, moved, rfl⟩

end

end Mailroom.Batch
