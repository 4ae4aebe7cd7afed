import Mailroom.Proofs.Job.Submission
import Mailroom.Proofs.Job.Watched
import Mailroom.Proofs.Job.Workforce

/-!
# Schedulers on one store

Any number of schedulers share a store of jobs and take their turns in any order. A turn claims a
job, handles the claim, and records how that ended. The turns of several workers overlap, and a job
may use the store while it runs, so a turn is two steps here, and anything may happen between them.
`Bureau.Sound.exists_turned` says that a turn that nobody interrupts is one claim and its end.

A `Visit` is what the handling of a claim came to. The visits are kept in the order in which they
ended, with all that the jobs saw being called on them. A turn that crashes gives no visit, so the
runs here are those in which no turn crashes. `Bureau.Change` is what a step can change.
-/

namespace Mailroom.Job

/-- The record of a job that has asked for another run and waits until it is due. -/
def Record.await (started now due : Instant) (payload : List UInt8) (record : Record) : Record :=
  note started now (some retryNote)
    { record with
      payload := payload
      status := .retrying record.attempt
      updated := now
      scheduled := some due }

/-- A record that is marked for another run waits until it is due. -/
theorem Record.retry_eq_ok {record next : Record} {payload : List UInt8} {started now : Instant}
    {delay : Span}
    (retried : { record with payload := payload }.retry started now delay = (.ok (), next)) :
    ∃ due, now.add? delay.asDelay = some due ∧ next = record.await started now due payload := by
  unfold Record.retry at retried
  cases later : now.add? delay.asDelay with
  | none =>
    rw [later] at retried
    cases retried
  | some due =>
    rw [later] at retried
    cases retried
    exact ⟨due, rfl, rfl⟩

/-- What the handling of a claim came to. -/
structure Visit where
  /-- The record as it was handed out. -/
  claim : Record
  /-- The record with which the handling ended. -/
  ended : Record
  /-- What the scheduler reports. -/
  result : RunResult
  /-- Whether the job could be rebuilt. -/
  rebuilt : Bool
  /-- What the job saw being called on it, in order. -/
  calls : List JobCall

section

variable {Work σ : Type}

/-- The visit that handling a claim comes to, unless it crashes. The calls are noted by the job. -/
def visit? (craft : Craft Work σ) (settings : Settings) (clock : Readings) (claim : Record)
    (state : σ) : Option Visit :=
  let execution := execute craft.watched settings clock claim (state, [])
  match execution.ending with
  | .error _ => none
  | .ok (ended, result) =>
    some
      { claim := claim
        ended := ended
        result := result
        rebuilt := (craft.rebuild claim).isOk
        calls := execution.state.2 }

end

namespace Visit

/-- What the job answered, if it was run. -/
def answer (visit : Visit) : Option Outcome := visit.calls.findSome? JobCall.answer?

/-- How a visit can go, as its record and the calls show it. -/
inductive Course (clock : Readings) : Visit → Prop where
  /-- The job could not be rebuilt. -/
  | undecodable (claim : Record) (reason : JobError) :
    Course clock
      ⟨claim, claim.fail clock.started clock.finished reason.message, .failed reason.message,
        false, []⟩
  /-- The job came too late. -/
  | expired (claim : Record) :
    Course clock
      ⟨claim, claim.fail clock.started clock.finished "lifespan exceeded",
        .failed "lifespan exceeded", true, [.giveUp]⟩
  /-- A constraint was not met. -/
  | deferred (claim : Record) (due : Instant) (constraint : String) :
    Course clock
      ⟨claim, claim.defer due clock.finished, .deferred constraint, true, []⟩
  /-- The job was done. -/
  | done (claim : Record) :
    Course clock
      ⟨claim, claim.complete clock.started clock.finished, .completed, true, [.run .success]⟩
  /-- The job gave itself up. -/
  | rejected (claim : Record) (reason : String) :
    Course clock
      ⟨claim, claim.fail clock.started clock.finished reason, .failed reason, true,
        [.run (.permanentFailure reason), .giveUp]⟩
  /-- The job asked for another run that it may not have. -/
  | exhausted (claim : Record)
    (last : claim.parameters.limit.allowsAnother claim.attempt = false) :
    Course clock
      ⟨claim, claim.fail clock.started clock.finished "attempts exhausted",
        .failed "attempts exhausted", true, [.run .retry, .giveUp]⟩
  /-- The job asked for another run and could not be saved for it. -/
  | unsaved (claim : Record)
    (allowed : claim.parameters.limit.allowsAnother claim.attempt = true) (reason : JobError) :
    Course clock
      ⟨claim, claim.fail clock.started clock.finished reason.message, .failed reason.message, true,
        [.run .retry, .giveUp]⟩
  /-- The job asked for another run and waits for it. -/
  | waiting (claim : Record)
    (allowed : claim.parameters.limit.allowsAnother claim.attempt = true) (payload : List UInt8)
    (due : Instant) :
    Course clock
      ⟨claim, claim.await clock.started clock.finished due payload, .retrying claim.attempt, true,
        [.run .retry]⟩

/-- The record with which a visit ends is of the job that was visited. -/
theorem Course.sameJob {clock : Readings} {visit : Visit} (course : visit.Course clock) :
    visit.ended.SameJob visit.claim := by
  cases course with
  | _ => exact ⟨rfl, rfl, rfl, rfl⟩

/-- A visit leaves no running record behind. -/
theorem Course.rests {clock : Readings} {visit : Visit} (course : visit.Course clock) :
    visit.ended.status ≠ .running := by
  cases course with
  | deferred claim due constraint =>
    have ends : Mark.deferred due ≠ .running := Mark.noConfusion
    exact Mark.status_apply_ne_running ends clock.started clock.finished claim
  | _ => exact Status.noConfusion

end Visit

section

variable {Work σ : Type} {craft : Craft Work σ} {settings : Settings} {clock : Readings}
  {claim : Record} {state : σ} {visit : Visit}

/-- A visit is of the claim that was handled. -/
theorem claim_of_visit? (visited : visit? craft settings clock claim state = some visit) :
    visit.claim = claim := by
  unfold visit? at visited
  generalize execute craft.watched settings clock claim (state, []) = execution at visited
  obtain ⟨cause | ending, after⟩ := execution
  · cases visited
  · cases visited
    rfl

/-- Handling a claim comes to a visit if it ends without a crash. -/
theorem visit?_of_ending {after : σ × List JobCall} {ended : Record} {result : RunResult}
    (handled : execute craft.watched settings clock claim (state, []) =
      ⟨.ok (ended, result), after⟩) :
    visit? craft settings clock claim state =
      some ⟨claim, ended, result, (craft.rebuild claim).isOk, after.2⟩ := by
  unfold visit?
  rw [handled]

/-- The visit that handling a claim comes to goes in one of these ways. -/
theorem course_of_visit? (visited : visit? craft settings clock claim state = some visit) :
    visit.Course clock := by
  have handling := execute_handling craft.watched settings clock claim (state, [])
  have rebuild : craft.watched.rebuild claim = craft.rebuild claim := rfl
  unfold visit? at visited
  rw [← rebuild] at visited
  generalize execute craft.watched settings clock claim (state, []) = execution
    at handling visited
  cases handling with
  | undecodable reason broken =>
    simp only [broken] at visited
    cases visited
    exact .undecodable claim reason
  | expired work rebuilt late =>
    simp only [giveUp, rebuilt] at visited
    cases visited
    exact .expired claim
  | deferred work rebuilt inTime constraint unmet due later =>
    simp only [rebuilt] at visited
    cases visited
    exact .deferred claim due constraint
  | stuck | overflowing => cases visited
  | done work ready left after ran =>
    simp only [ready.rebuilt, notes_of_run ran] at visited
    cases visited
    exact .done claim
  | rejected work ready left after reason ran =>
    simp only [giveUp, ready.rebuilt] at visited
    rw [Craft.giveUp_watched, notes_of_run ran] at visited
    cases visited
    exact .rejected claim reason
  | exhausted work ready left after ran last =>
    simp only [giveUp, ready.rebuilt] at visited
    rw [Craft.giveUp_watched, notes_of_run ran] at visited
    cases visited
    exact .exhausted claim last
  | unsaved work ready left after ran allowed reason saved =>
    simp only [giveUp, ready.rebuilt] at visited
    rw [Craft.giveUp_watched, notes_of_run ran] at visited
    cases visited
    exact .unsaved claim allowed reason
  | waiting work ready left after ran allowed payload saved next retried =>
    simp only [ready.rebuilt, notes_of_run ran] at visited
    cases visited
    obtain ⟨due, -, rfl⟩ := Record.retry_eq_ok retried
    exact .waiting claim allowed payload due

end

/-- While a claim is handled, jobs that only submit others submit them to the store. -/
theorem Handling.submitted {Work World : Type} {craft : Craft Work (Store × World)}
    {settings : Settings} {clock : Readings} {record : Record} {state : Store × World}
    {execution : Execution (Store × World)} (only : craft.OnlySubmits)
    (handling : Handling craft settings clock record state execution) :
    state.1.Submitted execution.state.1 := by
  let kept (after : Store × World) : Prop := state.1.Submitted after.1
  have still : kept execution.state :=
    handling.preserves (fun work _ => only.run work state)
      (fun work after submitted => submitted.trans (only.giveUp work after)) .unchanged
  exact still

/-- A store of jobs, the claims that are being handled, and the visits so far. -/
structure Bureau where
  store : Store
  /-- The claims that are being handled, each as it was handed out. -/
  claims : List Record
  /-- What handling came to, in the order in which it ended. -/
  visits : List Visit

namespace Bureau

/-- An empty store that nobody has worked on. -/
def empty : Bureau := ⟨Store.empty, [], []⟩

/-- The result of a visit is recorded, as a scheduler does it. -/
def finish (clock : Readings) (visit : Visit) (bureau : Bureau) : Bureau where
  store :=
    (settle clock visit.claim
      ⟨.ok (visit.ended, visit.result), bureau.store⟩ : Turn Store).state
  claims := bureau.claims.filter fun claim => decide (claim.id ≠ visit.claim.id)
  visits := bureau.visits ++ [visit]

/-- One step of the schedulers. -/
inductive Step (bureau : Bureau) : Bureau → Prop where
  /-- A scheduler takes on a job, or refuses it. -/
  | add {Work : Type} (craft : Craft Work Store) (stamp : Stamp) (work : Work) :
    Step bureau { bureau with store := (add craft stamp work bureau.store).2 }
  /-- A scheduler takes on several jobs, or refuses them. -/
  | addAll {Work : Type} (craft : Craft Work Store) (stamps : Nat → Stamp) (works : List Work) :
    Step bureau { bureau with store := (addAll craft stamps works bureau.store).2 }
  /-- A scheduler begins a turn with a claim. -/
  | claim (clock : Readings) (claim : Record) (store : Store)
    (claimed : bureau.store.claimNext clock.looked clock.claimed = (.ok (some claim), store)) :
    Step bureau { bureau with store := store, claims := bureau.claims ++ [claim] }
  /-- A scheduler handles a claim that it holds and ends its turn. The jobs may be of any kind and
  act on anything. -/
  | finish {Work World : Type} (craft : Craft Work World) (settings : Settings) (clock : Readings)
    (world : World) (claim : Record) (held : claim ∈ bureau.claims) (visit : Visit)
    (visited : visit? craft settings clock claim world = some visit) :
    Step bureau (bureau.finish clock visit)

/-- What any number of steps leads to. -/
inductive Leads (bureau : Bureau) : Bureau → Prop where
  | here : Leads bureau bureau
  | next {between later : Bureau} (leads : Leads bureau between) (step : Step between later) :
    Leads bureau later

/-- What any number of steps leads to from an empty store. -/
def Reachable (bureau : Bureau) : Prop := empty.Leads bureau

/-- One run behind another is a run. -/
theorem Leads.trans {first second third : Bureau} (left : first.Leads second)
    (right : second.Leads third) : first.Leads third := by
  induction right with
  | here => exact left
  | next _ step ih => exact ih.next step

/-- The workers of a bureau are those that hold its claims. -/
def crew (bureau : Bureau) : Workforce := ⟨bureau.store, bureau.claims, []⟩

/-- The store is not poisoned, and it is worked on in order. -/
structure Sound (bureau : Bureau) : Prop where
  intact : bureau.store.poisoned = false
  orderly : bureau.crew.Orderly

/-- What a step can change. -/
inductive Change (bureau : Bureau) : Bureau → Prop where
  /-- Nothing. -/
  | nothing : Change bureau bureau
  /-- New records come last. -/
  | takenOn (records : List Record) (jobs : Jobs) (fresh : ∀ record ∈ records, record.IsNew)
    (filed : jobs.records = bureau.store.value.records ++ records) :
    Change bureau { bureau with store := ⟨jobs, false⟩ }
  /-- The job to run next is claimed. -/
  | claimed (clock : Readings) (record claim : Record)
    (claimed : Claimed clock bureau.store record claim) :
    Change bureau
      { bureau with
        store := ⟨bureau.store.value.insert claim, false⟩
        claims := bureau.claims ++ [claim] }
  /-- A visit has ended, and its record takes the place of the claim. -/
  | ended (clock : Readings) (visit : Visit) (held : visit.claim ∈ bureau.claims)
    (course : visit.Course clock) :
    Change bureau
      { store := ⟨bureau.store.value.insert visit.ended, false⟩
        claims := bureau.claims.filter fun claim => decide (claim.id ≠ visit.claim.id)
        visits := bureau.visits ++ [visit] }

/-- Submitting jobs changes nothing or files new records. -/
theorem change_of_takesOn {bureau : Bureau} {store : Store} (takesOn : bureau.store.TakesOn store) :
    Change bureau { bureau with store := store } := by
  cases takesOn with
  | refused => exact .nothing
  | filed sound records jobs fresh last => exact .takenOn records jobs fresh last

/-- The store accepts the record that ends a claim, because the claim holds its place. -/
theorem Sound.update_ended {bureau : Bureau} (sound : bureau.Sound) {clock : Readings}
    {visit : Visit} (held : visit.claim ∈ bureau.claims) (course : visit.Course clock) :
    bureau.store.update visit.ended =
      (.ok (), ⟨bureau.store.value.insert visit.ended, false⟩) := by
  have kept := ((sound.orderly.claims_iff visit.claim).1 held).1
  have present : bureau.store.value.contains visit.ended.id = true :=
    Table.contains_iff.2 ⟨visit.claim, kept, course.sameJob.id.symm⟩
  rcases Store.update_cases visit.ended bureau.store with
    ⟨reason, -, poisoned | absent⟩ | ⟨-, -, filed⟩
  · rw [sound.intact] at poisoned
    cases poisoned
  · rw [present] at absent
    cases absent
  · exact filed

/-- The end of a turn files the record of the visit. -/
theorem Sound.finish_eq {bureau : Bureau} (sound : bureau.Sound) {clock : Readings}
    {visit : Visit} (held : visit.claim ∈ bureau.claims) (course : visit.Course clock) :
    bureau.finish clock visit =
      ⟨⟨bureau.store.value.insert visit.ended, false⟩,
        bureau.claims.filter fun claim => decide (claim.id ≠ visit.claim.id),
        bureau.visits ++ [visit]⟩ := by
  rw [finish, settle_of_updated (sound.update_ended held course)]

/-- A step changes nothing else. -/
theorem Step.change {bureau later : Bureau} (step : Step bureau later) (sound : bureau.Sound) :
    Change bureau later := by
  cases step with
  | add craft stamp work => exact change_of_takesOn (add_takesOn craft stamp work bureau.store)
  | addAll craft stamps works =>
    exact change_of_takesOn (addAll_takesOn craft stamps works bureau.store)
  | claim clock claim store claimed =>
    obtain ⟨record, made, rfl⟩ := Store.exists_claimed claimed
    exact .claimed clock record claim made
  | finish craft settings clock world claim held visit visited =>
    obtain rfl := claim_of_visit? visited
    have course := course_of_visit? visited
    rw [sound.finish_eq held course]
    exact .ended clock visit held course

/-- What a step changes keeps a bureau sound. -/
theorem Change.sound {bureau later : Bureau} (change : Change bureau later)
    (sound : bureau.Sound) : later.Sound := by
  cases change with
  | nothing => exact sound
  | takenOn records jobs fresh filed =>
    exact ⟨rfl, sound.orderly.takenOn (fun record kept => (fresh record kept).pending) filed []⟩
  | claimed clock record claim claimed =>
    refine ⟨rfl, sound.orderly.claimed (.of_candidate? claimed.next) claimed.sameJob ?_⟩
    rw [claimed.started]
  | ended clock visit held course =>
    refine ⟨rfl, ?_⟩
    have orderly := sound.orderly.ended course.rests
    rw [course.sameJob.id] at orderly
    exact orderly

/-- A bureau without claims and with an empty store is sound. -/
theorem sound_empty : empty.Sound := ⟨rfl, Workforce.sound_empty.orderly rfl⟩

/-- Every run keeps a bureau sound. -/
theorem Leads.sound {bureau later : Bureau} (leads : bureau.Leads later) (sound : bureau.Sound) :
    later.Sound := by
  induction leads with
  | here => exact sound
  | next _ step ih => exact (step.change ih).sound ih

/-- A bureau that can be reached is sound. -/
theorem Reachable.sound {bureau : Bureau} (reached : bureau.Reachable) : bureau.Sound :=
  Leads.sound reached sound_empty

/-- A claim that was not held yet is gone when its turn has ended. -/
theorem claims_append_filter {claims : List Record} {claim : Record}
    (apart : ∀ other ∈ claims, other.id ≠ claim.id) :
    ((claims ++ [claim]).filter fun other => decide (other.id ≠ claim.id)) = claims := by
  rw [List.filter_append, List.filter_singleton, List.filter_eq_self.2]
  · simp
  · simpa using apart

/-- Jobs that are submitted are taken on in steps. -/
theorem Leads.submitted {bureau later : Bureau} (leads : bureau.Leads later) {store : Store}
    (submitted : later.store.Submitted store) : bureau.Leads { later with store := store } := by
  induction submitted with
  | unchanged => exact leads
  | add _ craft stamp work ih => exact ih.next (.add craft stamp work)
  | addAll _ craft stamps works ih => exact ih.next (.addAll craft stamps works)

/-- What a turn that nobody interrupts comes to: steps lead to the store that the turn leaves, no
claim is left behind, and the calls of the visits are those that the job saw. Noting these does not
change the turn. -/
structure Turned {Work World : Type} (craft : Craft Work (Store × World)) (settings : Settings)
    (clock : Readings) (world : World) (bureau later : Bureau) : Prop where
  leads : bureau.Leads later
  store : later.store = (runNext craft settings clock (bureau.store, world)).state.1
  claims : later.claims = bureau.claims
  visits : ∃ visits, later.visits = bureau.visits ++ visits ∧
    visits.flatMap Visit.calls = callsSeen craft settings clock (bureau.store, world)
  unwatched : (runNext craft.watched settings clock ((bureau.store, world), [])).unwatched =
    runNext craft settings clock (bureau.store, world)

section

variable {Work World : Type} {craft : Craft Work (Store × World)} {settings : Settings}
  {clock : Readings} {world : World} {bureau : Bureau}

/-- A turn that is handed a claim and does not crash is the claim and its end, also if the job
submits further jobs meanwhile. -/
theorem Sound.exists_turned_of_claimNext (sound : bureau.Sound) (only : craft.OnlySubmits)
    {claim : Record} {held : Store}
    (handed : bureau.store.claimNext clock.looked clock.claimed = (.ok (some claim), held))
    (ends : ∀ cause, (runNext craft settings clock (bureau.store, world)).answer ≠
      .error (.crash cause)) :
    ∃ later, Turned craft settings clock world bureau later := by
  obtain ⟨record, claimed, -⟩ := Store.exists_claimed handed
  have begun : bureau.Leads ⟨held, bureau.claims ++ [claim], bureau.visits⟩ :=
    Leads.here.next (.claim clock claim held handed)
  have apart : ∀ other ∈ bureau.claims, other.id ≠ claim.id := by
    rw [claimed.sameJob.id]
    exact sound.orderly.id_ne_of_claimable (.of_candidate? claimed.next)
  have member : claim ∈ bureau.claims ++ [claim] := List.mem_append_right _ List.mem_cons_self
  have seen : callsSeen craft settings clock (bureau.store, world) = _ :=
    callsSeen_of_claimNext handed
  have plain : runNext craft settings clock (bureau.store, world) = _ := runNext_of_claimNext handed
  have submitted := (execute_handling craft settings clock claim (held, world)).submitted only
  rw [← execute_unwatched craft settings clock claim ((held, world), [])] at plain submitted
  generalize handled : execute craft.watched settings clock claim ((held, world), []) = execution
    at seen plain submitted
  -- What the job submits while the claim is handled comes between the claim and its end.
  have between := begun.submitted submitted
  have intact := between.sound sound
  obtain ⟨cause | ⟨ended, result⟩, ⟨left, after⟩, calls⟩ := execution
  · rw [plain] at ends
    exact absurd rfl (ends cause)
  · have visited := visit?_of_ending handled
    have course := course_of_visit? visited
    have finished :=
      between.next (.finish craft settings clock (held, world) claim member _ visited)
    rw [intact.finish_eq member course, claims_append_filter apart] at finished
    have filed : left.update ended = (.ok (), ⟨left.value.insert ended, false⟩) :=
      intact.update_ended member course
    have updated : JobKeeper.update ended (left, after) =
        (.ok (), ⟨left.value.insert ended, false⟩, after) := by
      rw [update_beside, filed]
    refine ⟨_, finished, ?_, rfl, ⟨_, rfl, ?_⟩, runNext_unwatched craft settings clock _⟩
    · rw [plain]
      exact congrArg (fun turn : Turn (Store × World) => turn.state.1)
        (settle_of_updated updated).symm
    · rw [seen]
      exact List.append_nil calls

/-- A turn that nobody interrupts and that does not crash is nothing, or a claim and its end. -/
theorem Sound.exists_turned (sound : bureau.Sound) (only : craft.OnlySubmits) (settings : Settings)
    (clock : Readings) (world : World)
    (ends : ∀ cause, (runNext craft settings clock (bureau.store, world)).answer ≠
      .error (.crash cause)) :
    ∃ later, Turned craft settings clock world bureau later := by
  have led := bureau.store.claimNext_claiming clock.looked clock.claimed
  rcases handed : bureau.store.claimNext clock.looked clock.claimed with ⟨fault | _ | claim, held⟩
  · rw [handed] at led
    cases led with
    | refused poisoned =>
      rw [sound.intact] at poisoned
      cases poisoned
    | crashed intact record next full =>
      simp only [runNext, claimNext_beside, handed] at ends
      exact absurd rfl (ends .counterOverflow)
  · rw [handed] at led
    cases led
    have idle : runNext craft settings clock (bureau.store, world) =
        ⟨.ok none, (bureau.store, world)⟩ := by
      simp only [runNext, claimNext_beside, handed]
    have silent : callsSeen craft settings clock (bureau.store, world) = [] := by
      simp only [callsSeen, runNext, JobKeeper.claimNext, handed]
    exact ⟨bureau, .here, by rw [idle], rfl, ⟨[], (List.append_nil _).symm, silent.symm⟩,
      runNext_unwatched craft settings clock _⟩
  · exact sound.exists_turned_of_claimNext only handed ends

end

end Bureau

end Mailroom.Job
