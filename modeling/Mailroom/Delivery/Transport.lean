import Mailroom.Conversation.Outgoing
import Mailroom.Conversation.Recipient
import Mailroom.Time.Span

/-!
# Transport

A transport sends a message to several members of a group in one call, and a copy of it to the
other devices of the local account. A call as a whole can fail; one that does not reports for each
recipient how it went.
-/

namespace Mailroom

/-- How sending to one recipient went. -/
inductive SendStatus where
  | delivered
  /-- The service no longer knows the recipient. -/
  | unregistered
  | failed (reason : String)
  deriving DecidableEq

/-- How sending to a recipient went. -/
structure SendResult where
  recipient : RecipientId
  status : SendStatus
  deriving DecidableEq

/-- Why a call failed as a whole. -/
inductive TransportError where
  | network (reason : String)
  /-- The service wants no calls for a while. -/
  | rateLimited (retryAfter : Span)
  | rejected (reason : String)
  deriving DecidableEq

namespace TransportError

/-- The wording of the failure. -/
def message : TransportError → String
  | .network reason => "network unavailable: " ++ reason
  | .rateLimited retryAfter => "rate limited, retry after " ++ retryAfter.text
  | .rejected reason => "rejected by the service: " ++ reason

/-- Whether the same call may succeed later. -/
def isRetryable : TransportError → Bool
  | .rejected _ => false
  | _ => true

end TransportError

/-- A state that can send. -/
class GroupSender (τ : Type) where
  /-- Sends a message to members of a group; `MessageId` is the local message it is about. -/
  sendToGroup : GroupId → List Recipient → MessageId → Outgoing → τ →
    Except TransportError (List SendResult) × τ
  /-- Sends a copy to the other devices of the local account. -/
  sendToSelf : Outgoing → τ → Except TransportError SendStatus × τ

end Mailroom
