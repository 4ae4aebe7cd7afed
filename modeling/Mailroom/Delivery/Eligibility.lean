import Mailroom.Conversation.Recipient

/-!
# Eligibility

Whom the group protocol can reach: somebody with an account who is no group and whom the service
has not forgotten.
-/

namespace Mailroom

namespace Recipient

/-- Whether a message can be sent to a recipient. -/
def isEligible (recipient : Recipient) : Bool :=
  recipient.hasServiceId && !recipient.isGroup && recipient.registered != .notRegistered

/-- Splits recipients into those that can be reached and the others, each in order. -/
def splitEligible (recipients : List Recipient) : List Recipient × List Recipient :=
  recipients.partition isEligible

end Recipient

end Mailroom
