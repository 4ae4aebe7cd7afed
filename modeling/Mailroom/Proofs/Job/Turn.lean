import Mailroom.Job.Scheduler
import Mailroom.Proofs.Job.Store

/-!
# What a turn of the scheduler can do

`Handling` says how the handling of a claimed record can end, one case for each branch of the
scheduler with the conditions that lead there. `Turning` says what a whole turn can do to a store
and to what lies beside it, for jobs that leave the store alone. Later modules take cases by these
two and do not look into the scheduler.

Whatever a turn does, every record stays the record of its job, and its payload changes only if
the job was claimed, ran and asked for another run: `runNext_kept`.
-/

namespace Mailroom.Job

section

variable {Work σ : Type}

/-- Whether a claimed record is run: its job can be rebuilt, it is not expired, and its
constraints are met. -/
structure Craft.Runs (craft : Craft Work σ) (clock : Readings) (record : Record) (state : σ)
    (work : Work) : Prop where
  rebuilt : craft.rebuild record = .ok work
  inTime : record.isExpired clock.started = false
  met : craft.unmet? record.parameters.constraints state = none

/-- How the handling of a claimed record can end. -/
inductive Handling (craft : Craft Work σ) (settings : Settings) (clock : Readings)
    (record : Record) (state : σ) : Execution σ → Prop where
  /-- The job cannot be rebuilt. -/
  | undecodable (reason : JobError) (broken : craft.rebuild record = .error reason) :
    Handling craft settings clock record state
      ⟨.ok (record.fail clock.started clock.finished reason.message, .failed reason.message),
        state⟩
  /-- The job comes too late. -/
  | expired (work : Work) (rebuilt : craft.rebuild record = .ok work)
    (late : record.isExpired clock.started = true) :
    Handling craft settings clock record state
      (giveUp craft clock record work "lifespan exceeded" state)
  /-- A constraint is not met, and the job waits for the poll interval. -/
  | deferred (work : Work) (rebuilt : craft.rebuild record = .ok work)
    (inTime : record.isExpired clock.started = false) (constraint : String)
    (unmet : craft.unmet? record.parameters.constraints state = some constraint) (due : Instant)
    (later : clock.started.add? settings.pollInterval.asDelay = some due) :
    Handling craft settings clock record state
      ⟨.ok (record.defer due clock.finished, .deferred constraint), state⟩
  /-- A constraint is not met, and the end of the poll interval cannot be represented. -/
  | stuck (work : Work) (rebuilt : craft.rebuild record = .ok work)
    (inTime : record.isExpired clock.started = false) (constraint : String)
    (unmet : craft.unmet? record.parameters.constraints state = some constraint)
    (never : clock.started.add? settings.pollInterval.asDelay = none) :
    Handling craft settings clock record state ⟨.error .instantOverflow, state⟩
  /-- The job ran and is done. -/
  | done (work : Work) (ready : craft.Runs clock record state work) (left : Work) (after : σ)
    (ran : craft.run work state = (.success, left, after)) :
    Handling craft settings clock record state
      ⟨.ok (record.complete clock.started clock.finished, .completed), after⟩
  /-- The job ran and gave itself up. -/
  | rejected (work : Work) (ready : craft.Runs clock record state work) (left : Work) (after : σ)
    (reason : String) (ran : craft.run work state = (.permanentFailure reason, left, after)) :
    Handling craft settings clock record state
      (giveUp craft clock record left reason after)
  /-- The job ran for the last time that it may. -/
  | exhausted (work : Work) (ready : craft.Runs clock record state work) (left : Work) (after : σ)
    (ran : craft.run work state = (.retry, left, after))
    (last : record.parameters.limit.allowsAnother record.attempt = false) :
    Handling craft settings clock record state
      (giveUp craft clock record left "attempts exhausted" after)
  /-- The job ran and cannot be saved for another run. -/
  | unsaved (work : Work) (ready : craft.Runs clock record state work) (left : Work) (after : σ)
    (ran : craft.run work state = (.retry, left, after))
    (allowed : record.parameters.limit.allowsAnother record.attempt = true) (reason : JobError)
    (saved : craft.save left = .error reason) :
    Handling craft settings clock record state
      (giveUp craft clock record left reason.message after)
  /-- The job ran and waits for another run. -/
  | waiting (work : Work) (ready : craft.Runs clock record state work) (left : Work) (after : σ)
    (ran : craft.run work state = (.retry, left, after))
    (allowed : record.parameters.limit.allowsAnother record.attempt = true) (payload : List UInt8)
    (saved : craft.save left = .ok payload) (next : Record)
    (retried : { record with payload := payload }.retry clock.started clock.finished
      ((record.parameters.retryPolicy.getD settings.retryPolicy).delay record.attempt) =
        (.ok (), next)) :
    Handling craft settings clock record state ⟨.ok (next, .retrying record.attempt), after⟩
  /-- The job ran, and the time of its next run cannot be represented. -/
  | overflowing (work : Work) (ready : craft.Runs clock record state work) (left : Work)
    (after : σ) (ran : craft.run work state = (.retry, left, after))
    (allowed : record.parameters.limit.allowsAnother record.attempt = true) (payload : List UInt8)
    (saved : craft.save left = .ok payload) (cause : Crash) (broken : Record)
    (retried : { record with payload := payload }.retry clock.started clock.finished
      ((record.parameters.retryPolicy.getD settings.retryPolicy).delay record.attempt) =
        (.error cause, broken)) :
    Handling craft settings clock record state ⟨.error cause, after⟩

variable {craft : Craft Work σ} {settings : Settings} {clock : Readings} {record : Record}
  {state : σ} {execution : Execution σ}

theorem rerun_handling {work left : Work} {after : σ} (ready : craft.Runs clock record state work)
    (ran : craft.run work state = (.retry, left, after)) :
    Handling craft settings clock record state
      (rerun craft settings clock record left after) := by
  unfold rerun
  by_cases allowed : record.parameters.limit.allowsAnother record.attempt = true
  · rw [if_pos allowed]
    cases saved : craft.save left with
    | error reason => exact .unsaved work ready left after ran allowed reason saved
    | ok payload =>
      dsimp only
      generalize retried : Record.retry clock.started clock.finished
        ((record.parameters.retryPolicy.getD settings.retryPolicy).delay record.attempt)
        { record with payload := payload } = waiting
      obtain ⟨answer, next⟩ := waiting
      cases answer with
      | error cause =>
        exact .overflowing work ready left after ran allowed payload saved cause next retried
      | ok done => exact .waiting work ready left after ran allowed payload saved next retried
  · rw [if_neg allowed]
    exact .exhausted work ready left after ran (Bool.eq_false_iff.2 allowed)

/-- Handling a claimed record ends in one of these ways. -/
theorem execute_handling (craft : Craft Work σ) (settings : Settings) (clock : Readings)
    (record : Record) (state : σ) :
    Handling craft settings clock record state (execute craft settings clock record state) := by
  unfold execute
  cases rebuilt : craft.rebuild record with
  | error reason => exact .undecodable reason rebuilt
  | ok work =>
    by_cases late : record.isExpired clock.started = true
    · simp only [if_pos late]
      exact .expired work rebuilt late
    · have inTime := Bool.eq_false_iff.2 late
      simp only [if_neg late]
      cases unmet : craft.unmet? record.parameters.constraints state with
      | some constraint =>
        cases later : clock.started.add? settings.pollInterval.asDelay with
        | some due => exact .deferred work rebuilt inTime constraint unmet due later
        | none => exact .stuck work rebuilt inTime constraint unmet later
      | none =>
        have ready : craft.Runs clock record state work := ⟨rebuilt, inTime, unmet⟩
        dsimp only
        rcases ran : craft.run work state with ⟨success | retry | reason, left, after⟩
        · exact .done work ready left after ran
        · exact rerun_handling ready ran
        · exact .rejected work ready left after reason ran

/-- A turn that is handed a claim settles how the handling of the claim ended. -/
theorem runNext_eq_settle [JobKeeper σ] {held : σ}
    (claimed : JobKeeper.claimNext clock.looked clock.claimed state = (.ok (some record), held)) :
    runNext craft settings clock state =
      settle clock record (execute craft settings clock record held) := by
  simp only [runNext, claimed]

section

variable [JobKeeper σ] {claim ended : Record} {result : RunResult} {left after : σ}

/-- A result that the keeper accepts is reported. -/
theorem settle_of_updated (updated : JobKeeper.update ended left = (.ok (), after)) :
    settle clock claim ⟨.ok (ended, result), left⟩ =
      ⟨.ok (some ⟨ended.id, ended.factoryKey, result⟩), after⟩ := by
  simp only [settle, updated]

/-- A result that the keeper refuses gives the claim back, and the refusal is answered. -/
theorem settle_of_refused {reason : StoreError}
    (refused : JobKeeper.update ended left = (.error reason, after)) :
    settle clock claim ⟨.ok (ended, result), left⟩ =
      ⟨.error (.error (.store reason)),
        (JobKeeper.update (claim.defer clock.released clock.restamped) after).2⟩ := by
  simp only [settle, refused]

/-- A claim that is settled is reported, or answered with what went wrong. -/
theorem settle_ne_none (clock : Readings) (claim : Record) (execution : Execution σ) :
    (settle clock claim execution).answer ≠ .ok none := by
  intro silent
  obtain ⟨cause | ⟨ended, result⟩, left⟩ := execution
  · cases silent
  · rcases updated : JobKeeper.update ended left with ⟨reason | accepted, after⟩
    · rw [settle_of_refused updated] at silent
      cases silent
    · rw [settle_of_updated updated] at silent
      cases silent

end

namespace Handling

/-- What running the job and giving it up preserve, handling its record preserves. -/
theorem preserves {kept : σ → Prop}
    (handling : Handling craft settings clock record state execution)
    (run : ∀ work, craft.Runs clock record state work → kept (craft.run work state).2.2)
    (gaveUp : ∀ work state, kept state → kept (craft.giveUp work state)) (holds : kept state) :
    kept execution.state := by
  have behind : ∀ {work outcome left after}, craft.Runs clock record state work →
      craft.run work state = (outcome, left, after) → kept after := by
    intro work outcome left after ready ran
    have met := run work ready
    rwa [ran] at met
  cases handling with
  | undecodable | deferred | stuck => exact holds
  | expired work rebuilt late => exact gaveUp work state holds
  | done work ready left after ran => exact behind ready ran
  | rejected work ready left after reason ran => exact gaveUp left after (behind ready ran)
  | exhausted work ready left after ran last => exact gaveUp left after (behind ready ran)
  | unsaved work ready left after ran allowed reason saved =>
    exact gaveUp left after (behind ready ran)
  | waiting work ready left after ran => exact behind ready ran
  | overflowing work ready left after ran => exact behind ready ran

/-- Where a handled record got its payload from: it kept the one it had, or the job asked for
another run and was saved. -/
inductive Payload (craft : Craft Work σ) (clock : Readings) (record : Record) (state : σ) :
    List UInt8 → Prop
  | kept : Payload craft clock record state record.payload
  | saved (work : Work) (ready : craft.Runs clock record state work)
    (asked : (craft.run work state).1 = .retry) {payload : List UInt8}
    (saved : craft.save (craft.run work state).2.1 = .ok payload) :
    Payload craft clock record state payload

/-- A handled record stays the record of its job, and its payload is the one before unless the job
asked for another run. -/
theorem ended {next : Record} {result : RunResult}
    (handling : Handling craft settings clock record state execution)
    (ending : execution.ending = .ok (next, result)) :
    next.SameJob record ∧ Payload craft clock record state next.payload := by
  cases handling with
  | undecodable | expired | deferred | done | rejected | exhausted | unsaved =>
    cases ending
    exact ⟨⟨rfl, rfl, rfl, rfl⟩, .kept⟩
  | stuck | overflowing => cases ending
  | waiting work ready left after ran allowed payload saved next retried =>
    cases ending
    have same := Record.retry_sameJob clock.started clock.finished
      ((record.parameters.retryPolicy.getD settings.retryPolicy).delay record.attempt)
      { record with payload := payload }
    have held := Record.payload_retry clock.started clock.finished
      ((record.parameters.retryPolicy.getD settings.retryPolicy).delay record.attempt)
      { record with payload := payload }
    rw [retried] at same held
    refine ⟨⟨same.id, same.factoryKey, same.parameters, same.created⟩, ?_⟩
    refine .saved work ready (by rw [ran]) ?_
    rw [ran, saved, held]

end Handling

end

section

variable {Work World : Type}

/-- A store takes on jobs beside anything else. -/
theorem enqueue_beside (record : Record) (store : Store) (world : World) :
    JobKeeper.enqueue record (store, world) =
      ((store.enqueue record).1, (store.enqueue record).2, world) :=
  rfl

/-- A store hands out claims beside anything else. -/
theorem claimNext_beside (now stamp : Instant) (store : Store) (world : World) :
    JobKeeper.claimNext now stamp (store, world) =
      ((store.claimNext now stamp).1, (store.claimNext now stamp).2, world) :=
  rfl

/-- A store replaces records beside anything else. -/
theorem update_beside (record : Record) (store : Store) (world : World) :
    JobKeeper.update record (store, world) =
      ((store.update record).1, (store.update record).2, world) :=
  rfl

/-- Whether jobs leave the store alone that they are kept in. -/
structure Craft.LeavesStore (craft : Craft Work (Store × World)) : Prop where
  run : ∀ work state, (craft.run work state).2.2.1 = state.1
  giveUp : ∀ work state, (craft.giveUp work state).1 = state.1

/-- Whether a claim is the record of the job to run next, made to run and counted. -/
structure Claimed (clock : Readings) (store : Store) (record claim : Record) : Prop where
  sound : store.poisoned = false
  next : store.value.candidate? clock.looked = some record
  room : record.attempt.toNat + 1 < UInt32.size
  started : claim =
    { record with status := .running, attempt := record.attempt + 1, updated := clock.claimed }

namespace Claimed

variable {clock : Readings} {store : Store} {record claim : Record}

theorem kept (claimed : Claimed clock store record claim) : record ∈ store.value.records :=
  (Jobs.Claimable.of_candidate? claimed.next).kept

theorem runnable (claimed : Claimed clock store record claim) :
    record.status.isRunnable = true := by
  have ready := (Jobs.Claimable.of_candidate? claimed.next).ready
  rw [Record.isReady, Bool.and_eq_true] at ready
  exact ready.1

theorem sameJob (claimed : Claimed clock store record claim) : claim.SameJob record := by
  rw [claimed.started]
  exact ⟨rfl, rfl, rfl, rfl⟩

theorem payload (claimed : Claimed clock store record claim) : claim.payload = record.payload := by
  rw [claimed.started]

/-- Giving a claim back takes its run off the count again. -/
theorem attempt_defer (claimed : Claimed clock store record claim) (due now : Instant) :
    (claim.defer due now).attempt = record.attempt := by
  have counted := Record.toNat_attempt_add_one claimed.room
  -- The count had room for the run, so it did not wrap around to zero.
  have begun : record.attempt + 1 ≠ 0 := by
    intro none
    rw [none] at counted
    have nothing : (0 : UInt32).toNat = 0 := rfl
    omega
  rw [claimed.started]
  show (if record.attempt + 1 = 0 then 0 else record.attempt + 1 - 1 : UInt32) = _
  rw [if_neg begun]
  exact UInt32.add_sub_cancel record.attempt 1

theorem eq_of_claimNext (claimed : Claimed clock store record claim) {other : Record}
    (answered : (store.claimNext clock.looked clock.claimed).1 = .ok (some other)) :
    claim = other := by
  obtain ⟨found, next, started⟩ := Store.candidate?_of_claimNext answered
  have same := claimed.next
  rw [next] at same
  cases same
  rw [claimed.started, started]

end Claimed

/-- A claim that is handed out is the record of the job to run next, made to run and counted, and
the store files it. -/
theorem Store.exists_claimed {clock : Readings} {store held : Store} {claim : Record}
    (answered : store.claimNext clock.looked clock.claimed = (.ok (some claim), held)) :
    ∃ record, Claimed clock store record claim ∧ held = ⟨store.value.insert claim, false⟩ := by
  have led := store.claimNext_claiming clock.looked clock.claimed
  rw [answered] at led
  cases led with
  | claimed sound record next room claim started =>
    exact ⟨record, ⟨sound, next, room, started⟩, rfl⟩

/-- A turn that has claimed a record settles how the handling of the claim ended. -/
theorem runNext_of_claimNext {craft : Craft Work (Store × World)} {settings : Settings}
    {clock : Readings} {store held : Store} {world : World} {claim : Record}
    (claimed : store.claimNext clock.looked clock.claimed = (.ok (some claim), held)) :
    runNext craft settings clock (store, world) =
      settle clock claim (execute craft settings clock claim (held, world)) := by
  apply runNext_eq_settle
  rw [claimNext_beside, claimed]

/-- What a turn of the scheduler can lead to, for jobs that leave the store alone. -/
inductive Turning (craft : Craft Work (Store × World)) (settings : Settings) (clock : Readings)
    (store : Store) (world : World) : Turn (Store × World) → Prop where
  /-- A poisoned store refuses. -/
  | refused (poisoned : store.poisoned = true) :
    Turning craft settings clock store world
      ⟨.error (.error (.store .poisoned)), (store, world)⟩
  /-- Nothing is to run next. -/
  | idle (sound : store.poisoned = false) (nothing : store.value.candidate? clock.looked = none) :
    Turning craft settings clock store world ⟨.ok none, (store, world)⟩
  /-- The job to run next has no room for one more run. -/
  | full (sound : store.poisoned = false) (record : Record)
    (next : store.value.candidate? clock.looked = some record)
    (full : ¬ record.attempt.toNat + 1 < UInt32.size) :
    Turning craft settings clock store world
      ⟨.error (.crash .counterOverflow),
        (⟨store.value.insert { record with status := .running }, true⟩, world)⟩
  /-- The handling of the claim crashes, and the claim stays. -/
  | crashed (record claim : Record) (claimed : Claimed clock store record claim) (cause : Crash)
    (after : World)
    (handling : Handling craft settings clock claim (⟨store.value.insert claim, false⟩, world)
      ⟨.error cause, (⟨store.value.insert claim, false⟩, after)⟩) :
    Turning craft settings clock store world
      ⟨.error (.crash cause), (⟨store.value.insert claim, false⟩, after)⟩
  /-- The handling of the claim ends, and its record takes the place of the claim. -/
  | settled (record claim : Record) (claimed : Claimed clock store record claim) (ended : Record)
    (result : RunResult) (after : World)
    (handling : Handling craft settings clock claim (⟨store.value.insert claim, false⟩, world)
      ⟨.ok (ended, result), (⟨store.value.insert claim, false⟩, after)⟩) :
    Turning craft settings clock store world
      ⟨.ok (some ⟨ended.id, ended.factoryKey, result⟩),
        (⟨(store.value.insert claim).insert ended, false⟩, after)⟩

variable {craft : Craft Work (Store × World)} {settings : Settings} {clock : Readings}

theorem settle_turning (leaves : craft.LeavesStore) {store : Store} {world : World}
    {record claim : Record} (claimed : Claimed clock store record claim)
    {execution : Execution (Store × World)}
    (handling : Handling craft settings clock claim (⟨store.value.insert claim, false⟩, world)
      execution) :
    Turning craft settings clock store world (settle clock claim execution) := by
  have kept : execution.state.1 = ⟨store.value.insert claim, false⟩ :=
    handling.preserves (fun work ready => leaves.run work _)
      (fun work state held => (leaves.giveUp work state).trans held) rfl
  obtain ⟨ending, left, after⟩ := execution
  change left = _ at kept
  subst kept
  unfold settle
  rcases ending with cause | ⟨ended, result⟩
  · exact .crashed record claim claimed cause after handling
  · have same := (handling.ended rfl).1
    -- The claim holds the place of the record that ends it, so the store does not refuse.
    have present : (store.value.insert claim).contains ended.id = true :=
      Table.contains_iff.2 ⟨claim, Table.mem_insert_self _ claim, same.id.symm⟩
    have filed : Store.update ended ⟨store.value.insert claim, false⟩ =
        (.ok (), ⟨(store.value.insert claim).insert ended, false⟩) := by
      rcases Store.update_cases ended ⟨store.value.insert claim, false⟩ with
        ⟨reason, -, poisoned | absent⟩ | ⟨-, -, filed⟩
      · cases poisoned
      · rw [present] at absent
        cases absent
      · exact filed
    simp only [update_beside, filed]
    exact .settled record claim claimed ended result after handling

/-- A turn leads to nothing else. -/
theorem runNext_turning (leaves : craft.LeavesStore) (settings : Settings) (clock : Readings)
    (store : Store) (world : World) :
    Turning craft settings clock store world (runNext craft settings clock (store, world)) := by
  have led := store.claimNext_claiming clock.looked clock.claimed
  unfold runNext
  rw [claimNext_beside]
  generalize store.claimNext clock.looked clock.claimed = turn at led ⊢
  cases led with
  | refused poisoned => exact .refused poisoned
  | nothing sound idle => exact .idle sound idle
  | claimed sound record next room claim started =>
    exact settle_turning leaves ⟨sound, next, room, started⟩ (execute_handling ..)
  | crashed sound record next full => exact .full sound record next full

/-- A job that is taken on is saved in a new record of the store. -/
theorem add_ok {stamp : Stamp} {work : Work} {store : Store} {world : World} {id : JobId}
    (answered : (add craft stamp work (store, world)).1 = .ok id) :
    ∃ payload, craft.save work = .ok payload ∧ id = stamp.id ∧
      store.value.contains id = false ∧
      (add craft stamp work (store, world)).2 =
        (⟨store.value.insert
          (.new id stamp.created (craft.key work) (craft.parameters work) payload), false⟩,
          world) := by
  unfold add toRecord at answered ⊢
  cases saved : craft.save work with
  | error reason =>
    rw [saved] at answered
    cases answered
  | ok payload =>
    rw [saved] at answered
    simp only [Except.map] at answered ⊢
    rw [enqueue_beside] at answered ⊢
    rcases Store.enqueue_cases
      (.new stamp.id stamp.created (craft.key work) (craft.parameters work) payload) store
      with ⟨reason, refused⟩ | ⟨sound, absent, filed⟩
    · rw [refused] at answered
      cases answered
    · rw [filed] at answered ⊢
      cases answered
      exact ⟨payload, rfl, rfl, absent, rfl⟩

/-- Whatever a turn does, a record stays the record of its job, and its payload changes only if the
turn claimed the job, ran it and saved it for another run. -/
theorem runNext_kept (leaves : craft.LeavesStore) (settings : Settings) (clock : Readings)
    (store : Store) (world : World) {id : JobId} {record : Record}
    (found : store.value.get? id = some record) :
    ∃ later, (runNext craft settings clock (store, world)).state.1.value.get? id = some later ∧
      later.SameJob record ∧
      (later.payload = record.payload ∨
        ∃ claim, claim.SameJob record ∧ claim.payload = record.payload ∧
          Handling.Payload craft clock claim (⟨store.value.insert claim, false⟩, world)
            later.payload) := by
  have turning := runNext_turning leaves settings clock store world
  generalize runNext craft settings clock (store, world) = turn at turning ⊢
  cases turning with
  | refused | idle => exact ⟨record, found, .refl record, .inl rfl⟩
  | full sound next chosen full =>
    have broken : ({ next with status := .running } : Record).SameJob next := ⟨rfl, rfl, rfl, rfl⟩
    obtain ⟨later, held, same, rfl | ⟨rfl, rfl⟩⟩ :=
      Jobs.get?_insert_sameJob (Jobs.Claimable.of_candidate? chosen).kept broken found
    · exact ⟨later, held, same, .inl rfl⟩
    · exact ⟨_, held, same, .inl rfl⟩
  | crashed next claim claimed cause after handling =>
    obtain ⟨later, held, same, rfl | ⟨rfl, rfl⟩⟩ :=
      Jobs.get?_insert_sameJob claimed.kept claimed.sameJob found
    · exact ⟨later, held, same, .inl rfl⟩
    · exact ⟨later, held, same, .inl claimed.payload⟩
  | settled next claim claimed ended result after handling =>
    obtain ⟨ends, saved⟩ := handling.ended rfl
    obtain ⟨between, held, same, step⟩ :=
      Jobs.get?_insert_sameJob claimed.kept claimed.sameJob found
    obtain ⟨later, heldLater, sameLater, rfl | ⟨rfl, rfl⟩⟩ :=
      Jobs.get?_insert_sameJob (Table.mem_insert_self _ claim) ends held
    · rcases step with rfl | ⟨rfl, rfl⟩
      · exact ⟨later, heldLater, sameLater, .inl rfl⟩
      · exact ⟨later, heldLater, same, .inl claimed.payload⟩
    · refine ⟨later, heldLater, sameLater.trans same, .inr ⟨between, same, ?_, saved⟩⟩
      rcases step with rfl | ⟨rfl, -⟩
      · rfl
      · exact claimed.payload

end

end Mailroom.Job
