import Mailroom.Proofs.Job.Release
import Mailroom.Proofs.Job.Watched

/-!
# Which claimed jobs run

A claimed job is run exactly if it can be rebuilt, its lifespan has not ended, and each constraint
that it declares is known to be met. What keeps it from running is looked for in this order, and
the first thing found decides: a job that cannot be rebuilt fails and is not told, one whose
lifespan has ended is told that it is given up and fails, and one with an unmet constraint waits
for the poll interval. `claim_admission` says so of a whole turn of the scheduler, where the calls
are those that the job sees.

A job can wait only until an instant that can be represented. Where the poll interval reaches
beyond the last one, the turn crashes and the job stays claimed.
-/

namespace Mailroom.Job

namespace Record

/-- Whether the lifespan of a job has ended: it has one, its end can be represented, and that is not
after the time. -/
def Outlived (record : Record) (now : Instant) : Prop :=
  ∃ lifespan, record.parameters.lifespan = some lifespan ∧
    (record.created.advance lifespan).InRange ∧ record.created.advance lifespan ≤ now

variable {record : Record} {now later : Instant}

/-- The test for expiry is whether the lifespan has ended. -/
theorem isExpired_iff : record.isExpired now = true ↔ record.Outlived now := by
  unfold isExpired deadline? Outlived
  cases lifespan : record.parameters.lifespan with
  | none => simp
  | some span =>
    by_cases inRange : (record.created.advance span).InRange
    · simp [Instant.add?, inRange]
    · simp [Instant.add?, inRange]

/-- A lifespan that has ended stays ended. -/
theorem Outlived.mono (outlived : record.Outlived now) (after : now ≤ later) :
    record.Outlived later := by
  obtain ⟨lifespan, declared, inRange, past⟩ := outlived
  exact ⟨lifespan, declared, inRange, Int.le_trans past after⟩

end Record

section

variable {Work σ : Type}

/-- Whether the bytes of a record are the state of a job that somebody can rebuild. -/
def Craft.Rebuilds (craft : Craft Work σ) (record : Record) : Prop :=
  ∃ restore work, craft.restore record.factoryKey = some restore ∧
    restore record.parameters record.payload = .ok work

variable {craft : Craft Work σ} {settings : Settings} {clock : Readings} {record : Record}
  {state : σ} {execution : Execution σ}

/-- A job is rebuilt by who is registered under its key. -/
theorem Craft.rebuilds_iff : craft.Rebuilds record ↔ ∃ work, craft.rebuild record = .ok work := by
  unfold Craft.Rebuilds Craft.rebuild
  cases craft.restore record.factoryKey with
  | none => simp
  | some restore => simp

/-- No constraint is unmet exactly if each is known to be met. -/
theorem Craft.unmet?_eq_none_iff {constraints : List String} :
    craft.unmet? constraints state = none ↔
      ∀ key ∈ constraints, craft.check key state = some true := by
  simp [Craft.unmet?, List.find?_eq_none]

/-- The constraint that is named is the first that is not known to be met. -/
theorem Craft.unmet?_of_first {met rest : List String} {constraint : String}
    (before : ∀ key ∈ met, craft.check key state = some true)
    (unmet : craft.check constraint state ≠ some true) :
    craft.unmet? (met ++ constraint :: rest) state = some constraint := by
  have skipped : craft.unmet? met state = none := Craft.unmet?_eq_none_iff.2 before
  unfold Craft.unmet? at skipped ⊢
  rw [List.find?_append, skipped, List.find?_cons_of_pos (by simpa using unmet)]
  rfl

/-- Whether nothing keeps a claimed job from running. -/
structure Craft.Admits (craft : Craft Work σ) (clock : Readings) (record : Record) (state : σ) :
    Prop where
  rebuilds : craft.Rebuilds record
  inTime : ¬ record.Outlived clock.started
  met : ∀ key ∈ record.parameters.constraints, craft.check key state = some true

/-- A claimed job runs exactly if nothing keeps it from running. -/
theorem Craft.admits_iff :
    craft.Admits clock record state ↔ ∃ work, craft.Runs clock record state work := by
  constructor
  · intro admits
    obtain ⟨work, rebuilt⟩ := Craft.rebuilds_iff.1 admits.rebuilds
    have inTime : record.isExpired clock.started = false := by
      rw [← Bool.not_eq_true, Record.isExpired_iff]
      exact admits.inTime
    exact ⟨work, rebuilt, inTime, Craft.unmet?_eq_none_iff.2 admits.met⟩
  · rintro ⟨work, runs⟩
    have inTime : ¬ record.Outlived clock.started := by
      rw [← Record.isExpired_iff, Bool.not_eq_true]
      exact runs.inTime
    exact ⟨Craft.rebuilds_iff.2 ⟨work, runs.rebuilt⟩, inTime, Craft.unmet?_eq_none_iff.1 runs.met⟩

/-- In the handling of a claimed record the job sees itself being run once if nothing keeps it from
running, and not at all otherwise. -/
theorem Handling.count_run {execution : Execution (σ × List JobCall)}
    (handling : Handling craft.watched settings clock record (state, []) execution) :
    (∃ work, craft.Runs clock record state work) ∧ execution.state.2.countP JobCall.isRun = 1 ∨
      (¬ ∃ work, craft.Runs clock record state work) ∧
        execution.state.2.countP JobCall.isRun = 0 := by
  cases handling with
  | undecodable reason broken =>
    refine .inr ⟨?_, rfl⟩
    rintro ⟨work, runs⟩
    have rebuilt : craft.watched.rebuild record = .ok work := runs.rebuilt
    rw [rebuilt] at broken
    cases broken
  | expired work rebuilt late =>
    refine .inr ⟨?_, rfl⟩
    rintro ⟨work, runs⟩
    rw [runs.inTime] at late
    cases late
  | deferred work rebuilt inTime constraint unmet | stuck work rebuilt inTime constraint unmet =>
    refine .inr ⟨?_, rfl⟩
    rintro ⟨work, runs⟩
    have met : craft.watched.unmet? record.parameters.constraints (state, []) = none := runs.met
    rw [met] at unmet
    cases unmet
  | done work ready left after ran | waiting work ready left after ran
  | overflowing work ready left after ran =>
    refine .inl ⟨⟨work, Craft.runs_watched.1 ready⟩, ?_⟩
    show after.2.countP JobCall.isRun = 1
    rw [notes_of_run ran]
    rfl
  | rejected work ready left after reason ran | exhausted work ready left after ran
  | unsaved work ready left after ran =>
    refine .inl ⟨⟨work, Craft.runs_watched.1 ready⟩, ?_⟩
    show (after.2 ++ [JobCall.giveUp]).countP JobCall.isRun = 1
    rw [notes_of_run ran]
    rfl

/-- A job that cannot be rebuilt fails. -/
theorem execute_of_undecodable {reason : JobError} (broken : craft.rebuild record = .error reason) :
    execute craft settings clock record state =
      ⟨.ok (record.fail clock.started clock.finished reason.message, .failed reason.message),
        state⟩ := by
  simp only [execute, broken]

/-- A job whose lifespan has ended is given up. -/
theorem execute_of_outlived {work : Work} (rebuilt : craft.rebuild record = .ok work)
    (late : record.Outlived clock.started) :
    execute craft settings clock record state =
      ⟨.ok (record.fail clock.started clock.finished "lifespan exceeded",
          .failed "lifespan exceeded"), craft.giveUp work state⟩ := by
  simp only [execute, rebuilt, Record.isExpired_iff.2 late, if_true]
  rfl

/-- A job with an unmet constraint waits for the poll interval, or crashes if it cannot. -/
theorem execute_of_unmet (settings : Settings) (rebuilds : craft.Rebuilds record)
    (inTime : ¬ record.Outlived clock.started) {constraint : String}
    (unmet : craft.unmet? record.parameters.constraints state = some constraint) :
    execute craft settings clock record state =
      ⟨match clock.started.add? settings.pollInterval.asDelay with
        | some due => .ok (record.defer due clock.finished, .deferred constraint)
        | none => .error .instantOverflow, state⟩ := by
  obtain ⟨work, rebuilt⟩ := Craft.rebuilds_iff.1 rebuilds
  have early : record.isExpired clock.started = false := by
    rw [← Bool.not_eq_true, Record.isExpired_iff]
    exact inTime
  simp only [execute, rebuilt, early, unmet, Bool.false_eq_true, if_false]
  cases clock.started.add? settings.pollInterval.asDelay with
  | none => rfl
  | some due => rfl

end

section

variable {Work World : Type} {craft : Craft Work (Store × World)} {settings : Settings}
  {clock : Readings} {store held : Store} {world : World} {claim : Record}

/-- How a turn concludes a claim: it says what happened to the job, and the store keeps the record
with which that ended, in which the state of the job is as it was. -/
structure Concluded (claim ended : Record) (result : RunResult) (turn : Turn (Store × World)) :
    Prop where
  answered : turn.answer = .ok (some ⟨claim.id, claim.factoryKey, result⟩)
  stored : turn.state.1.value.get? claim.id = some ended
  payload : ended.payload = claim.payload

/-- A turn that has claimed a record concludes the claim with the record with which its handling
ends, in a store that keeps the claim. -/
theorem concluded_of_executed
    (claimed : store.claimNext clock.looked clock.claimed = (.ok (some claim), held))
    {ended : Record} {result : RunResult} {left : Store} {after : World}
    (executed : execute craft settings clock claim (held, world) =
      ⟨.ok (ended, result), (left, after)⟩)
    (keeps : left.Keeps claim.id) (same : ended.SameJob claim)
    (payload : ended.payload = claim.payload) :
    Concluded claim ended result (runNext craft settings clock (store, world)) := by
  rw [runNext_of_claimNext claimed, executed, settle_of_keeps keeps same.id]
  refine ⟨?_, ?_, payload⟩
  · rw [same.id, same.factoryKey]
  · exact (Table.get?_insert ..).trans (if_pos same.id)

/-- What a turn does with a claimed job, by what keeps the job from running. The calls are those
that the job sees. -/
structure Admission (craft : Craft Work (Store × World)) (settings : Settings) (clock : Readings)
    (claim : Record) (held : Store) (world : World) (turn : Turn (Store × World))
    (calls : List JobCall) : Prop where
  /-- The job is run once if nothing keeps it from running. -/
  run : craft.Admits clock claim (held, world) → calls.countP JobCall.isRun = 1
  /-- It is not run otherwise. -/
  spared : ¬ craft.Admits clock claim (held, world) → calls.countP JobCall.isRun = 0
  /-- A job that nobody can rebuild fails, and is not told. -/
  unregistered : craft.restore claim.factoryKey = none → calls = [] ∧
    Concluded claim
      (claim.fail clock.started clock.finished ("no factory registered for " ++ claim.factoryKey))
      (.failed ("no factory registered for " ++ claim.factoryKey)) turn
  /-- A job whose bytes are refused fails with the refusal, and is not told. -/
  undecodable : ∀ restore reason, craft.restore claim.factoryKey = some restore →
    restore claim.parameters claim.payload = .error reason → calls = [] ∧
      Concluded claim (claim.fail clock.started clock.finished reason.message)
        (.failed reason.message) turn
  /-- A job whose lifespan has ended is told once that it is given up, and fails. What it does then
  is what the turn leaves beside the store. Nothing that the store offers to a job that is given up
  can prevent the failure. -/
  outlived : ∀ restore work, craft.restore claim.factoryKey = some restore →
    restore claim.parameters claim.payload = .ok work → claim.Outlived clock.started →
      calls = [.giveUp] ∧ turn.state.2 = (craft.giveUp work (held, world)).2 ∧
        (held.Used (craft.giveUp work (held, world)).1 →
          Concluded claim (claim.fail clock.started clock.finished "lifespan exceeded")
            (.failed "lifespan exceeded") turn)
  /-- A job with an unmet constraint waits for the poll interval, and the first such constraint is
  named. -/
  deferred : craft.Rebuilds claim → ¬ claim.Outlived clock.started → ∀ met constraint rest,
    claim.parameters.constraints = met ++ constraint :: rest →
      (∀ key ∈ met, craft.check key (held, world) = some true) →
        craft.check constraint (held, world) ≠ some true → ∀ due,
          clock.started.add? settings.pollInterval.asDelay = some due → calls = [] ∧
            Concluded claim (claim.defer due clock.finished) (.deferred constraint) turn
  /-- If the end of the poll interval cannot be represented, the turn crashes, and the job stays
  claimed. -/
  stuck : craft.Rebuilds claim → ¬ claim.Outlived clock.started →
    (∃ key ∈ claim.parameters.constraints, craft.check key (held, world) ≠ some true) →
      clock.started.add? settings.pollInterval.asDelay = none →
        calls = [] ∧ turn = ⟨.error (.crash .instantOverflow), (held, world)⟩
  /-- A lifespan that has ended stays ended, for any job. -/
  lasting : ∀ (record : Record) (now later : Instant), now ≤ later →
    record.isExpired now = true → record.isExpired later = true

/-- A turn that has claimed a job that cannot be rebuilt concludes the claim with its failure, and
nothing is called on the job. -/
theorem concluded_of_undecodable
    (claimed : store.claimNext clock.looked clock.claimed = (.ok (some claim), held))
    {reason : JobError} (broken : craft.rebuild claim = .error reason) :
    callsSeen craft settings clock (store, world) = [] ∧
      Concluded claim (claim.fail clock.started clock.finished reason.message)
        (.failed reason.message) (runNext craft settings clock (store, world)) := by
  have executed : execute craft settings clock claim (held, world) = _ :=
    execute_of_undecodable broken
  have seen : execute craft.watched settings clock claim ((held, world), []) = _ :=
    execute_of_undecodable broken
  have kept : held.Keeps claim.id := Store.keeps_of_claimNext claimed
  refine ⟨?_, concluded_of_executed claimed executed kept ⟨rfl, rfl, rfl, rfl⟩ rfl⟩
  rw [callsSeen_of_claimNext claimed, seen]

/-- What a turn of the scheduler does with the job that it has claimed. The calls are noted by the
job, and the notes do not change the turn. -/
theorem claim_admission (craft : Craft Work (Store × World)) (settings : Settings) (world : World)
    (claimed : store.claimNext clock.looked clock.claimed = (.ok (some claim), held)) :
    (runNext craft.watched settings clock ((store, world), [])).unwatched =
        runNext craft settings clock (store, world) ∧
      Admission craft settings clock claim held world
        (runNext craft settings clock (store, world))
        (callsSeen craft settings clock (store, world)) := by
  refine ⟨runNext_unwatched craft settings clock _, ?run, ?spared, ?unregistered, ?undecodable,
    ?outlived, ?deferred, ?stuck, ?lasting⟩
  case run =>
    intro admits
    have handling := execute_handling craft.watched settings clock claim ((held, world), [])
    rw [callsSeen_of_claimNext claimed]
    rcases handling.count_run with ⟨-, once⟩ | ⟨kept, -⟩
    · exact once
    · exact absurd (Craft.admits_iff.1 admits) kept
  case spared =>
    intro refused
    have handling := execute_handling craft.watched settings clock claim ((held, world), [])
    rw [callsSeen_of_claimNext claimed]
    rcases handling.count_run with ⟨runs, -⟩ | ⟨-, never⟩
    · exact absurd (Craft.admits_iff.2 runs) refused
    · exact never
  case unregistered =>
    intro unknown
    have broken : craft.rebuild claim = .error (.unknownFactory claim.factoryKey) := by
      rw [Craft.rebuild, unknown]
    exact concluded_of_undecodable claimed broken
  case undecodable =>
    intro restore reason known refused
    have broken : craft.rebuild claim = .error reason := by
      rw [Craft.rebuild, known]
      exact refused
    exact concluded_of_undecodable claimed broken
  case outlived =>
    intro restore work known decoded late
    have rebuilt : craft.rebuild claim = .ok work := by
      rw [Craft.rebuild, known]
      exact decoded
    have executed : execute craft settings clock claim (held, world) = _ :=
      execute_of_outlived rebuilt late
    have seen : execute craft.watched settings clock claim ((held, world), []) = _ :=
      execute_of_outlived rebuilt late
    have kept : held.Keeps claim.id := Store.keeps_of_claimNext claimed
    refine ⟨?_, ?_, fun used => ?_⟩
    · rw [callsSeen_of_claimNext claimed, seen]
      rfl
    · rw [runNext_of_claimNext claimed, executed, settle_beside]
    · exact concluded_of_executed claimed executed (used.keeps kept) ⟨rfl, rfl, rfl, rfl⟩ rfl
  case deferred =>
    intro rebuilds inTime met constraint rest declared before unmet due later
    have first : craft.unmet? claim.parameters.constraints (held, world) = some constraint := by
      rw [declared]
      exact Craft.unmet?_of_first before unmet
    have executed := execute_of_unmet settings rebuilds inTime first
    have again : craft.watched.Rebuilds claim := rebuilds
    have seen : execute craft.watched settings clock claim ((held, world), []) = _ :=
      execute_of_unmet settings again inTime first
    rw [later] at executed
    have kept : held.Keeps claim.id := Store.keeps_of_claimNext claimed
    refine ⟨?_, concluded_of_executed claimed executed kept ⟨rfl, rfl, rfl, rfl⟩ rfl⟩
    rw [callsSeen_of_claimNext claimed, seen]
  case stuck =>
    intro rebuilds inTime unmet never
    cases first : craft.unmet? claim.parameters.constraints (held, world) with
    | none =>
      obtain ⟨key, declared, lacking⟩ := unmet
      exact absurd (Craft.unmet?_eq_none_iff.1 first key declared) lacking
    | some constraint =>
      have executed := execute_of_unmet settings rebuilds inTime first
      have again : craft.watched.Rebuilds claim := rebuilds
      have seen : execute craft.watched settings clock claim ((held, world), []) = _ :=
        execute_of_unmet settings again inTime first
      rw [never] at executed
      refine ⟨?_, ?_⟩
      · rw [callsSeen_of_claimNext claimed, seen]
      · rw [runNext_of_claimNext claimed, executed]
        rfl
  case lasting =>
    intro record now later after expired
    rw [Record.isExpired_iff] at expired ⊢
    exact expired.mono after

end

/-- The crossing can be rebuilt. -/
theorem rebuilds_crossing : (crossings crossing).Rebuilds crossingClaim :=
  ⟨fun _ _ => .ok (), (), rfl, rfl⟩

/-- The crossing has all the time in the world. -/
theorem not_outlived_crossing (now : Instant) : ¬ crossingClaim.Outlived now := by
  rintro ⟨lifespan, declared, -⟩
  cases declared

/-- With the bridge closed, the crossing waits for the poll interval. -/
theorem claim_admission_closed_bridge :
    callsSeen (crossings crossing) Settings.standard (.still default) (road, false) = [] ∧
      Concluded crossingClaim
        (crossingClaim.defer ((default : Instant).advance Settings.standard.pollInterval) default)
        (.deferred "bridge")
        (runNext (crossings crossing) Settings.standard (.still default) (road, false)) := by
  have later : (default : Instant).add? Settings.standard.pollInterval.asDelay =
      some ((default : Instant).advance Settings.standard.pollInterval) := by decide
  have closed : (crossings crossing).check "bridge" (roadTaken, false) ≠ some true := by decide
  have admission := (claim_admission (crossings crossing) Settings.standard false claimNext_road).2
  exact admission.deferred rebuilds_crossing (not_outlived_crossing default) [] "bridge" [] rfl
    (List.forall_mem_nil _) closed _ later

/-- With the longest poll interval there is, the same crossing does not wait: its turn crashes, and
the store keeps it as running. -/
theorem not_deferred_longest_poll :
    let turn := runNext (crossings crossing) longPolling (.still default) (road, false)
    (crossings crossing).Rebuilds crossingClaim ∧ ¬ crossingClaim.Outlived default ∧
      crossingClaim.parameters.constraints = ["bridge"] ∧
      (crossings crossing).check "bridge" (roadTaken, false) = some false ∧
      (∀ due, ¬ Concluded crossingClaim (crossingClaim.defer due default) (.deferred "bridge")
        turn) ∧
      turn.answer = .error (.crash .instantOverflow) ∧
      turn.state.1.value.get? crossingClaim.id = some crossingClaim := by
  intro turn
  have stuck : turn = ⟨.error (.crash .instantOverflow), (roadTaken, false)⟩ :=
    runNext_of_claimNext claimNext_road
  rw [stuck]
  refine ⟨rebuilds_crossing, not_outlived_crossing default, rfl, rfl, ?_, rfl, by cbv⟩
  intro due concluded
  cases concluded.answered

end Mailroom.Job
