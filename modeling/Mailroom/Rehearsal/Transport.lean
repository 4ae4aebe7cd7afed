import Mailroom.Delivery.Script

/-!
# A transport that loses results

A scripted transport behind a line on which the results for some recipients get lost.
-/

namespace Mailroom.Rehearsal

/-- A scripted transport and the recipients whose results get lost. -/
structure LossyTransport where
  script : Script := {}
  lost : List RecipientId := []

namespace LossyTransport

/-- Changes the script. -/
def onScript (change : Script → Script) (transport : LossyTransport) : LossyTransport :=
  { transport with script := change transport.script }

/-- Says whose results get lost from now on. -/
def lose (ids : List RecipientId) (transport : LossyTransport) : LossyTransport :=
  { transport with lost := ids }

end LossyTransport

instance : GroupSender LossyTransport where
  sendToGroup groupId recipients about message transport :=
    let (answer, script) :=
      GroupSender.sendToGroup groupId recipients about message transport.script
    (answer.map (List.filter fun result => !transport.lost.contains result.recipient),
      { transport with script := script })
  sendToSelf message transport :=
    let (answer, script) := GroupSender.sendToSelf message transport.script
    (answer, { transport with script := script })

end Mailroom.Rehearsal
