import Mailroom.Rehearsal.Scheduling

/-!
# Sending on stage

The fan-out at hand, the one that was brought back, and calls to the transport itself.
-/

namespace Mailroom.Rehearsal.Stage

/-- Makes the fan-out of a message the one at hand. If the conversation is gone, none is at hand;
if storage refuses, nothing changes. -/
def createFanout (target : MessageId) (stage : Stage) :
    Except StorageError (Option Fanout) × Stage :=
  match stage.askStorage (Fanout.create target) with
  | (.error reason, stage) => (.error reason, stage)
  | (.ok fanout, stage) => (.ok fanout, { stage with fanout := fanout })

/-- Runs the fan-out at hand. -/
def runFanout (stage : Stage) : Option Job.Outcome × Stage :=
  match stage.fanout with
  | none => (none, stage)
  | some fanout =>
    let (outcome, fanout, around) := fanout.run stage.around
    (some outcome, { stage with around := around, fanout := some fanout })

/-- Gives the fan-out at hand up. -/
def giveUpFanout (stage : Stage) : Stage :=
  match stage.fanout with
  | none => stage
  | some fanout => { stage with around := fanout.giveUp stage.around }

/-- Brings a fan-out back. If that fails, the one that was brought back before stays. -/
def restoreFanout (parameters : Job.Parameters) (payload : List UInt8) (stage : Stage) :
    Except Job.JobError Fanout × Stage :=
  match Fanout.restore parameters payload with
  | .error reason => (.error reason, stage)
  | .ok fanout => (.ok fanout, { stage with restored := some fanout })

/-- Runs the fan-out that was brought back. -/
def runRestored (stage : Stage) : Option (Job.Outcome × Fanout) × Stage :=
  match stage.restored with
  | none => (none, stage)
  | some fanout =>
    let (outcome, fanout, around) := fanout.run stage.around
    (some (outcome, fanout), { stage with around := around, restored := some fanout })

/-- Notes a delete and schedules its fan-out. -/
def scheduleDelete (target : MessageId) (deleter : RecipientId) (stage : Stage) :
    Except Fanout.ScheduleError (Option Job.JobId) × Stage :=
  let led := Fanout.schedule (fun fanout => Stage.add (.fanout fanout)) target deleter
    stage.around.storage stage
  let stage := { led.keeper with around := { led.keeper.around with storage := led.storage } }
  (led.answer, stage.report led.log)

/-- A delete of a message that nobody wrote. -/
def directMessage (groupId : GroupId) (sent : Int64) (stage : Stage) : Outgoing :=
  .ofDelete (Int64.ofInt stage.now.toMillis) groupId ⟨default, sent⟩

/-- Sends to members of a group, past any fan-out. -/
def sendToGroup (groupId : GroupId) (recipients : List Recipient) (sent : Int64) (stage : Stage) :
    Except TransportError (List SendResult) × Stage :=
  stage.askTransport
    (GroupSender.sendToGroup groupId recipients ⟨0⟩ (stage.directMessage groupId sent))

/-- Sends a copy to the own devices, past any fan-out. -/
def sendToSelf (groupId : GroupId) (sent : Int64) (stage : Stage) :
    Except TransportError SendStatus × Stage :=
  stage.askTransport (GroupSender.sendToSelf (stage.directMessage groupId sent))

/-- Marks a recipient as gone and reports it if that is news. -/
def markGone (id : RecipientId) (stage : Stage) : Except StorageError Unit × Stage :=
  match stage.askStorage (MessageKeeper.markGone id) with
  | (.error reason, stage) => (.error reason, stage)
  | (.ok isNews, stage) => (.ok (), stage.report (if isNews then [goneEvent id] else []))

end Mailroom.Rehearsal.Stage
