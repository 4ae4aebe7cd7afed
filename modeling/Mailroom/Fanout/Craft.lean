import Mailroom.Fanout.Schedule

/-!
# Fan-outs as jobs

A fan-out acts on message storage and on a transport, and it reports to a log. Its key and its
bytes are enough to bring it back, so a scheduler may rebuild it for every run.
-/

namespace Mailroom.Fanout

/-- What fan-outs act on. -/
structure Surroundings (σ τ : Type) where
  storage : σ
  transport : τ
  /-- The time that messages are stamped with. -/
  now : Instant
  /-- What was reported so far. -/
  log : Log := []

namespace Surroundings

variable {σ τ : Type}

/-- Adds to the log. -/
def report (events : Log) (around : Surroundings σ τ) : Surroundings σ τ :=
  { around with log := around.log ++ events }

end Surroundings

section

variable {σ τ : Type}

/-- Runs a fan-out once. -/
def run [MessageKeeper σ] [GroupSender τ] (fanout : Fanout) (around : Surroundings σ τ) :
    Job.Outcome × Fanout × Surroundings σ τ :=
  let led := attempt around.now fanout.progress around.storage around.transport
  let around := { around with storage := led.storage, transport := led.transport }
  (led.outcome, { fanout with progress := led.progress }, around.report led.log)

/-- Reports how far a fan-out came that is given up. -/
def giveUp (fanout : Fanout) (around : Surroundings σ τ) : Surroundings σ τ :=
  around.report [failureEvent fanout.progress]

/-- The state of a fan-out as bytes. -/
def save (fanout : Fanout) : Except Job.JobError (List UInt8) := .ok fanout.progress.encode

end

/-- Fan-outs as jobs, where constraints are checked by a given rule. The jobs are kept by a keeper
beside the surroundings. -/
def craft {Keeper σ τ : Type} [MessageKeeper σ] [GroupSender τ] (check : String → Option Bool) :
    Job.Craft Fanout (Keeper × Surroundings σ τ) where
  key _ := factoryKey
  parameters fanout := fanout.parameters
  save := Fanout.save
  restore key := if key = factoryKey then some restore else none
  check constraint _ := check constraint
  run fanout state :=
    let (outcome, fanout, around) := fanout.run state.2
    (outcome, fanout, state.1, around)
  giveUp fanout state := (state.1, fanout.giveUp state.2)

end Mailroom.Fanout
