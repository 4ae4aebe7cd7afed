import Mailroom.Batch.Request
import Mailroom.Fanout.Craft
import Mailroom.Job.Settings
import Mailroom.Rehearsal.Errand
import Mailroom.Rehearsal.Storage
import Mailroom.Rehearsal.Store
import Mailroom.Rehearsal.Transport

/-!
# The stage of a rehearsal

A rehearsal runs everything together, one step after another: storage, transport and store that
can be told to fail, a scheduler over them, the group lock, and at most one fan-out, one restored
fan-out and one cache at hand. The clock stands still during a step, apart from the nanosecond by
which every new job is younger than the one before.
-/

namespace Mailroom.Rehearsal

/-- A job in memory. -/
inductive Work where
  | errand (errand : Errand)
  | fanout (fanout : Fanout)

/-- What a handler does with a message. -/
inductive Move where
  /-- It asks something of the cache, and fails if that is refused. -/
  | ask (request : Batch.Request Work)
  | fail (reason : String)

/-- What a handler saw: whether the group lock was held, and what the cache answered. -/
structure Sight where
  held : Bool
  replies : List Batch.Reply

/-- Everything that takes part in a rehearsal. -/
structure Stage where
  jobs : DiskStore := {}
  /-- What fan-outs act on. -/
  around : Fanout.Surroundings RemoteStorage LossyTransport
  /-- The settings of the scheduler. -/
  settings : Job.Settings
  /-- The constraints that somebody can tell about, and whether they are met. -/
  constraints : Ledger String Bool := Table.empty
  /-- How many errands were given up. -/
  failures : Nat := 0
  lock : Batch.GroupLock := {}
  /-- The fan-out at hand. -/
  fanout : Option Fanout := none
  /-- The fan-out that was brought back last. -/
  restored : Option Fanout := none
  /-- The cache at hand. -/
  cache : Option (Batch.AnyCache Work) := none
  /-- The cache of the batch loop. -/
  loop : Batch.Accumulator Work := .bound
  /-- What the handler will do with each of the messages to come. -/
  moves : List (List Move) := []
  /-- What the handler saw during this step. -/
  seen : List Sight := []

namespace Stage

/-- The time at which every rehearsal starts: the first second of 2026. -/
def opening : Instant := .ofNanos (1767225600 * 1000000000)

/-- The settings of the scheduler where nothing else is said: a long poll interval, and no delay
between attempts. -/
def standardSettings : Job.Settings := ⟨.ofSeconds 3600, "session", .fixed .zero⟩

/-- A stage on which nothing has happened yet. -/
def initial (settings : Job.Settings) (constraints : List (String × Bool)) : Stage where
  around := ⟨{}, {}, opening, []⟩
  settings := settings
  constraints := Table.insertAll Table.empty constraints

/-- The time on stage. -/
def now (stage : Stage) : Instant := stage.around.now

/-- Lets time pass. -/
def wait (nanos : Nat) (stage : Stage) : Stage :=
  { stage with around := { stage.around with now := .ofNanos (stage.now.toNanos + nanos) } }

/-- Begins a step: time moves on, and what was reported and seen before is forgotten. -/
def nextStep (stage : Stage) : Stage :=
  let stage := stage.wait 1
  { stage with around := { stage.around with log := [] }, seen := [] }

/-- Adds to the log of the step. -/
def report (events : Log) (stage : Stage) : Stage :=
  { stage with around := stage.around.report events }

/-- Asks something of storage. -/
def askStorage {ε α : Type} (question : RemoteStorage → Except ε α × RemoteStorage)
    (stage : Stage) : Except ε α × Stage :=
  let (answer, storage) := question stage.around.storage
  (answer, { stage with around := { stage.around with storage := storage } })

/-- Asks something of the archive behind the line, which cannot fail to be reached. -/
def askArchive {ε α : Type} (question : Storage → Except ε α × Storage) (stage : Stage) :
    Except ε α × Stage :=
  stage.askStorage fun remote =>
    let (answer, storage) := question remote.storage
    (answer, { remote with storage := storage })

/-- Asks something of the transport. -/
def askTransport {α : Type} (question : LossyTransport → α × LossyTransport) (stage : Stage) :
    α × Stage :=
  let (answer, transport) := question stage.around.transport
  (answer, { stage with around := { stage.around with transport := transport } })

/-- Asks something of the store of jobs. -/
def askStore {α : Type} (question : DiskStore → α × DiskStore) (stage : Stage) : α × Stage :=
  let (answer, jobs) := question stage.jobs
  (answer, { stage with jobs := jobs })

end Stage

instance : Job.JobKeeper Stage where
  enqueue record := Stage.askStore (Job.JobKeeper.enqueue record)
  enqueueAll records := Stage.askStore (Job.JobKeeper.enqueueAll records)
  update record := Stage.askStore (Job.JobKeeper.update record)
  claimNext now stamp := Stage.askStore (Job.JobKeeper.claimNext now stamp)

/-- The jobs of a rehearsal: errands and fan-outs. -/
def craft : Job.Craft Work Stage where
  key
    | .errand errand => errand.key
    | .fanout _ => Fanout.factoryKey
  parameters
    | .errand errand => errand.parameters
    | .fanout fanout => fanout.parameters
  save
    | .errand errand => errand.save
    | .fanout fanout => fanout.save
  restore key :=
    if key = Errand.factoryKey then
      some fun parameters payload => (Errand.restore parameters payload).map Work.errand
    else if key = Fanout.factoryKey then
      some fun parameters payload => (Fanout.restore parameters payload).map Work.fanout
    else none
  check key stage := stage.constraints.find? key
  run work stage :=
    match work with
    | .errand errand => (errand.outcome, .errand errand.step, stage)
    | .fanout fanout =>
      let (outcome, fanout, around) := fanout.run stage.around
      (outcome, .fanout fanout, { stage with around := around })
  giveUp work stage :=
    match work with
    | .errand _ => { stage with failures := stage.failures + 1 }
    | .fanout fanout => { stage with around := fanout.giveUp stage.around }

end Mailroom.Rehearsal
