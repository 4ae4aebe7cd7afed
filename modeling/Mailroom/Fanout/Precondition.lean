import Mailroom.Conversation.Outgoing
import Mailroom.Storage.Keeper

/-!
# Preconditions of a fan-out

A delete may be sent only by a registered account that is an admin of the group that the message
is in, and only while message, author and group are known. The conditions are checked in a fixed
order, and the first one that is not met ends the fan-out. A storage that cannot answer halts the
check without deciding anything.
-/

namespace Mailroom.Fanout

/-- Why a delete can never be sent. -/
inductive Precondition where
  | registered
  | messageKnown
  | authorAddressable
  | conversationKnown
  | v2Group
  | groupKnown
  | admin
  deriving DecidableEq

/-- The reason that is given when a condition is not met. -/
def Precondition.message : Precondition → String
  | .registered => "not registered"
  | .messageKnown => "target message no longer exists"
  | .authorAddressable => "missing service id for the target author"
  | .conversationKnown => "have the message but could not find its thread"
  | .v2Group => "cannot admin delete outside a V2 group"
  | .groupKnown => "group no longer exists"
  | .admin => "not an admin of the group"

/-- Why a check stopped. -/
inductive Halt where
  /-- A condition is not met. -/
  | unmet (condition : Precondition)
  /-- The storage did not answer. -/
  | storage (error : StorageError)
  deriving DecidableEq

/-- All that a run needs to know once the conditions are met. -/
structure Target where
  /-- The group to send to. -/
  groupId : GroupId
  /-- The delete to send. -/
  delete : AdminDelete
  deriving DecidableEq

variable {σ : Type} [MessageKeeper σ]

/-- A check that may stop and that may change the state it asks. -/
abbrev Check (σ : Type) : Type → Type := ExceptT Halt (StateM σ)

/-- Asks the storage and stops if it does not answer. -/
def ask {α : Type} (question : σ → Except StorageError α × σ) : Check σ α := fun state =>
  match question state with
  | (.ok answer, state) => (.ok answer, state)
  | (.error error, state) => (.error (.storage error), state)

/-- Asks the storage for something that must be there. -/
def askFor {α : Type} (condition : Precondition) (question : σ → Except StorageError α × σ) :
    Check σ α := fun state =>
  match question state with
  | (.ok answer, state) => (.ok answer, state)
  | (.error error, state) =>
    (.error (if error.isNotFound then .unmet condition else .storage error), state)

/-- Stops unless something is there. -/
def demand {α : Type} (condition : Precondition) : Option α → Check σ α
  | some value => pure value
  | none => throw (.unmet condition)

/-- Checks all conditions for the delete of a message. -/
def checkTarget (target : MessageId) : Check σ Target := do
  let registered ← ask MessageKeeper.isRegistered
  demand .registered (if registered then some () else none)
  let message ← askFor .messageKnown (MessageKeeper.message target)
  let author ← askFor .authorAddressable (MessageKeeper.recipient message.sender)
  let serviceId ← demand .authorAddressable author.serviceId
  let conversation ← ask (MessageKeeper.conversation message.threadId)
  let conversation ← demand .conversationKnown conversation
  let groupId ← demand .v2Group (conversation.groupId?.filter GroupId.isV2)
  let roster ← ask (MessageKeeper.group groupId)
  let roster ← demand .groupKnown roster
  let self ← ask MessageKeeper.selfId
  demand .admin (if roster.isAdmin self then some () else none)
  pure ⟨groupId, ⟨serviceId, message.dateSent⟩⟩

end Mailroom.Fanout
