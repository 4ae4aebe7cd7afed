import Mailroom.Batch.Processor
import Mailroom.Rehearsal.Scheduling

/-!
# Batches on stage

The cache at hand, and a batch loop whose handler does as it was told before.
-/

namespace Mailroom.Rehearsal

/-- The effects of batches go to the scheduler, to storage and to the log. -/
def outlet : Batch.Outlet Work Stage where
  addJob work := Stage.add work
  addJobs works := Stage.addAll works
  updateThread id := Stage.askStorage (RemoteStorage.updateThread id true)
  updateThreads ids := Stage.askStorage (RemoteStorage.updateThreads ids true)
  report event := Stage.report [event]

/-- Answers a request, where the states of groups are loaded from storage. -/
def perform {C : Type} [Batch.Cache C Work] (lock : Batch.GroupLock) (request : Batch.Request Work)
    (cache : C) (stage : Stage) : Batch.Effect Batch.BatchError Batch.Reply C Stage :=
  Batch.perform outlet (fun id => Stage.askStorage (MessageKeeper.group id)) lock request cache
    stage

/-- Makes moves one after another until one fails, and notes what the cache answered. -/
def makeMoves (lock : Batch.GroupLock) :
    List Move → List Batch.Reply → Batch.Accumulator Work → Stage →
      Batch.Effect String Unit (Batch.Accumulator Work) Stage
  | [], replies, cache, stage =>
    ⟨.ok (), cache, { stage with seen := stage.seen ++ [⟨lock.held, replies⟩] }⟩
  | .fail reason :: _, replies, cache, stage =>
    ⟨.error (.error reason), cache, { stage with seen := stage.seen ++ [⟨lock.held, replies⟩] }⟩
  | .ask request :: rest, replies, cache, stage =>
    let led := perform lock request cache stage
    match led.answer with
    | .ok reply => makeMoves lock rest (replies ++ [reply]) led.cache led.state
    | .error (.error reason) =>
      ⟨.error (.error reason.message), led.cache,
        { led.state with seen := led.state.seen ++ [⟨lock.held, replies⟩] }⟩
    | .error (.crash cause) => ⟨.error (.crash cause), led.cache, led.state⟩

/-- The handler of a rehearsal makes the moves that were set down for the message. -/
def handler : Batch.Handler Work Stage := fun _ lock cache stage =>
  match stage.moves with
  | [] => makeMoves lock [] [] cache stage
  | moves :: rest => makeMoves lock moves [] cache { stage with moves := rest }

/-- The duties of the batch loop. Nobody else is on stage who could take the lock. -/
def duties : Batch.Duties (Batch.Accumulator Work) Stage :=
  .accumulating (fun _ stage => stage) (fun _ => outlet) handler

namespace Stage

/-- A new cache is at hand, perhaps bound to the group lock. -/
def newCache (holdsBack bound : Bool) (stage : Stage) : Stage :=
  let lookups : Batch.Lookups := { bound := bound }
  let cache : Batch.AnyCache Work :=
    if holdsBack then .accumulating { lookups := lookups } else .passing ⟨lookups⟩
  { stage with cache := some cache }

/-- Asks something of the cache at hand. -/
def askCache (request : Batch.Request Work) (stage : Stage) :
    Option (Except (Fault Batch.BatchError) Batch.Reply) × Stage :=
  match stage.cache with
  | none => (none, stage)
  | some cache =>
    let led := perform stage.lock request cache stage
    (some led.answer, { led.state with cache := some led.cache })

/-- Sends messages through the batch loop, where the moves of the handler are given beside each.
After a crash the loop starts over with a new cache. -/
def process (messages : List (Incoming × List Move)) (stage : Stage) :
    Except (Fault Batch.BatchError) Batch.Summary × Stage :=
  let led := Batch.process duties (messages.map Prod.fst) stage.lock stage.loop
    { stage with moves := messages.map Prod.snd }
  let loop := match led.answer with
    | .error (.crash _) => .bound
    | _ => led.cache
  (led.answer, { led.state with lock := led.lock, loop := loop, moves := [] })

end Stage

end Mailroom.Rehearsal
