import Mailroom.Proofs.Job.Turn

/-!
# What is called on a job

A job sees what the scheduler calls on it. To speak of it, a craft is watched: every call made on
its jobs is noted behind the calls before it, a run together with its answer, and the state changes
as before. The notes do not change what a turn does: `runNext_unwatched`.
-/

namespace Mailroom.Job

/-- A call made on a job. -/
inductive JobCall where
  /-- The job was run, and answered. -/
  | run (answer : Outcome)
  /-- The job was told that it is given up. -/
  | giveUp
  deriving DecidableEq

namespace JobCall

/-- What the job answered, if it was run. -/
def answer? : JobCall → Option Outcome
  | run answer => some answer
  | giveUp => none

/-- Whether the job was run. -/
def isRun (call : JobCall) : Bool := call.answer?.isSome

/-- Whether the job was told that it is given up. -/
def isGiveUp (call : JobCall) : Bool := call.answer?.isNone

end JobCall

section

variable {Work σ : Type}

/-- A craft with a note of every call made on its jobs. -/
def Craft.watched (craft : Craft Work σ) : Craft Work (σ × List JobCall) where
  key := craft.key
  parameters := craft.parameters
  save := craft.save
  restore := craft.restore
  check key seen := craft.check key seen.1
  run work seen :=
    let (answer, work, state) := craft.run work seen.1
    (answer, work, state, seen.2 ++ [.run answer])
  giveUp work seen := (craft.giveUp work seen.1, seen.2 ++ [.giveUp])

/-- An execution without the notes. -/
def Execution.unwatched (execution : Execution (σ × List JobCall)) : Execution σ :=
  ⟨execution.ending, execution.state.1⟩

/-- A turn without the notes. -/
def Turn.unwatched (turn : Turn (σ × List JobCall)) : Turn σ := ⟨turn.answer, turn.state.1⟩

/-- Whether a claimed record is run does not depend on the notes. -/
theorem Craft.runs_watched {craft : Craft Work σ} {clock : Readings} {record : Record}
    {seen : σ × List JobCall} {work : Work} :
    craft.watched.Runs clock record seen work ↔ craft.Runs clock record seen.1 work :=
  ⟨fun ready => ⟨ready.rebuilt, ready.inTime, ready.met⟩,
    fun ready => ⟨ready.rebuilt, ready.inTime, ready.met⟩⟩

/-- A run is noted with its answer, and otherwise it is the run of the job. -/
theorem Craft.run_watched (craft : Craft Work σ) (work : Work) (seen : σ × List JobCall) :
    craft.watched.run work seen =
      ((craft.run work seen.1).1, (craft.run work seen.1).2.1, (craft.run work seen.1).2.2,
        seen.2 ++ [.run (craft.run work seen.1).1]) :=
  rfl

/-- A job that is given up is told so with a note, and otherwise as before. -/
theorem Craft.giveUp_watched (craft : Craft Work σ) (work : Work) (seen : σ × List JobCall) :
    craft.watched.giveUp work seen = (craft.giveUp work seen.1, seen.2 ++ [.giveUp]) :=
  rfl

/-- A run notes nothing but its answer. -/
theorem notes_of_run {craft : Craft Work σ} {work left : Work} {answer : Outcome}
    {seen after : σ × List JobCall} (ran : craft.watched.run work seen = (answer, left, after)) :
    after.2 = seen.2 ++ [.run answer] := by
  rw [Craft.run_watched] at ran
  cases ran
  rfl

variable (craft : Craft Work σ) (settings : Settings) (clock : Readings) (record : Record)

theorem rerun_unwatched (work : Work) (seen : σ × List JobCall) :
    (rerun craft.watched settings clock record work seen).unwatched =
      rerun craft settings clock record work seen.1 := by
  have save : craft.watched.save work = craft.save work := rfl
  unfold rerun
  rw [save]
  split
  · cases craft.save work with
    | error reason => rfl
    | ok payload =>
      dsimp only
      generalize Record.retry clock.started clock.finished
        ((record.parameters.retryPolicy.getD settings.retryPolicy).delay record.attempt)
        { record with payload := payload } = waiting
      obtain ⟨_ | _, next⟩ := waiting
      · rfl
      · rfl
  · rfl

/-- The handling of a claim is the same if its calls are noted. -/
theorem execute_unwatched (seen : σ × List JobCall) :
    (execute craft.watched settings clock record seen).unwatched =
      execute craft settings clock record seen.1 := by
  have rebuild : craft.watched.rebuild record = craft.rebuild record := rfl
  have unmet : craft.watched.unmet? record.parameters.constraints seen =
      craft.unmet? record.parameters.constraints seen.1 := rfl
  unfold execute
  rw [rebuild]
  cases craft.rebuild record with
  | error reason => rfl
  | ok work =>
    dsimp only
    split
    · rfl
    · rw [unmet]
      cases craft.unmet? record.parameters.constraints seen.1 with
      | some constraint =>
        cases clock.started.add? settings.pollInterval.asDelay with
        | some due => rfl
        | none => rfl
      | none =>
        rw [craft.run_watched]
        obtain ⟨_ | _ | reason, left, after⟩ := craft.run work seen.1
        · rfl
        · exact rerun_unwatched craft settings clock record left (after, _)
        · rfl

variable [JobKeeper σ]

/-- The end of a turn touches nothing beside what keeps the jobs. -/
theorem settle_beside {World : Type} (execution : Execution (σ × World)) :
    settle clock record execution =
      let turn : Turn σ := settle clock record ⟨execution.ending, execution.state.1⟩
      ⟨turn.answer, turn.state, execution.state.2⟩ := by
  obtain ⟨cause | ⟨ended, result⟩, state, world⟩ := execution
  · rfl
  · have beside : JobKeeper.update ended (state, world) =
        ((JobKeeper.update ended state).1, (JobKeeper.update ended state).2, world) := rfl
    unfold settle
    dsimp only
    rw [beside]
    rcases JobKeeper.update ended state with ⟨_ | _, after⟩
    · rfl
    · rfl

/-- A turn is the same if the calls on its job are noted. -/
theorem runNext_unwatched (seen : σ × List JobCall) :
    (runNext craft.watched settings clock seen).unwatched =
      runNext craft settings clock seen.1 := by
  have beside : JobKeeper.claimNext clock.looked clock.claimed seen =
      ((JobKeeper.claimNext clock.looked clock.claimed seen.1).1,
        (JobKeeper.claimNext clock.looked clock.claimed seen.1).2, seen.2) := rfl
  unfold runNext
  rw [beside]
  rcases JobKeeper.claimNext clock.looked clock.claimed seen.1 with ⟨_ | _ | claim, held⟩
  · rfl
  · rfl
  · dsimp only
    rw [settle_beside, ← execute_unwatched craft settings clock claim (held, seen.2)]
    rfl

/-- What the jobs see being called on them in a turn. -/
def callsSeen (state : σ) : List JobCall :=
  (runNext craft.watched settings clock (state, [])).state.2

end

section

variable {Work World : Type} {craft : Craft Work (Store × World)} {settings : Settings}
  {clock : Readings} {store held : Store} {world : World} {claim : Record}

/-- In a turn that has claimed a record the job sees what the handling of the claim calls. -/
theorem callsSeen_of_claimNext
    (claimed : store.claimNext clock.looked clock.claimed = (.ok (some claim), held)) :
    callsSeen craft settings clock (store, world) =
      (execute craft.watched settings clock claim ((held, world), [])).state.2 := by
  have handed : JobKeeper.claimNext clock.looked clock.claimed
      ((store, world), ([] : List JobCall)) = (.ok (some claim), (held, world), []) := by
    show ((store.claimNext clock.looked clock.claimed).1,
      ((store.claimNext clock.looked clock.claimed).2, world), ([] : List JobCall)) = _
    rw [claimed]
  rw [callsSeen, runNext_eq_settle handed, settle_beside]

end

end Mailroom.Job
