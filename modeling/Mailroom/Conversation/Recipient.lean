import Mailroom.Identity.Group
import Mailroom.Identity.RowId
import Mailroom.Identity.Uuid

/-!
# Recipients

A recipient is a contact, a group, or the local account. It stands for a conversation with one
person or with a group, and it may or may not be known to the service.
-/

namespace Mailroom

/-- Whether the service still knows a recipient. -/
inductive Registration where
  | unknown
  | registered
  | notRegistered
  deriving DecidableEq

namespace Registration

/-- The state that nothing is known about. -/
instance : Inhabited Registration := ⟨.unknown⟩

/-- The name of the state in records. -/
def name : Registration → String
  | .unknown => "unknown"
  | .registered => "registered"
  | .notRegistered => "not_registered"

/-- The state of a name. -/
def ofName? (name : String) : Option Registration :=
  [Registration.unknown, .registered, .notRegistered].find? fun state => state.name = name

/-- A state as a choice without content. -/
def toJson (state : Registration) : Json := .text state.name

/-- The state that a choice names. -/
def ofJson? (value : Json) : Option Registration := do
  let (name, content) ← value.choice?
  if Json.isPlain content then ofName? name else none

end Registration

/-- What a recipient stands for. -/
inductive ConversationKind where
  | individual
  | group (id : GroupId)
  deriving DecidableEq

namespace ConversationKind

/-- A kind as a choice. -/
def toJson : ConversationKind → Json
  | .individual => .text "individual"
  | .group id => .record [("group", id.toJson)]

/-- The kind that a choice names. -/
def ofJson? (value : Json) : Option ConversationKind := do
  match ← value.choice? with
  | ("individual", content) => if Json.isPlain content then some .individual else none
  | ("group", some content) => (GroupId.ofJson? content).map ConversationKind.group
  | _ => none

end ConversationKind

/-- A contact, a group, or the local account. -/
structure Recipient where
  /-- The row of the recipient. -/
  id : RecipientId
  /-- The account at the service, if there is one. -/
  serviceId : Option ServiceId
  /-- Whether the service still knows the recipient. -/
  registered : Registration
  /-- What the recipient stands for. -/
  kind : ConversationKind
  /-- The members of a group; nobody for an individual. -/
  participants : List RecipientId
  /-- Whether this is the local account. -/
  isSelf : Bool
  deriving DecidableEq

namespace Recipient

/-- A person, known to the service exactly if there is an account. -/
def individual (id : RecipientId) (serviceId : Option ServiceId) : Recipient where
  id := id
  serviceId := serviceId
  registered := if serviceId.isSome then .registered else .unknown
  kind := .individual
  participants := []
  isSelf := false

/-- A group with its members. -/
def group (id : RecipientId) (groupId : GroupId) (participants : List RecipientId) : Recipient where
  id := id
  serviceId := none
  registered := .registered
  kind := .group groupId
  participants := participants
  isSelf := false

/-- The recipient as the local account. -/
def asSelf (recipient : Recipient) : Recipient := { recipient with isSelf := true }

/-- Whether there is an account at the service. -/
def hasServiceId (recipient : Recipient) : Bool := recipient.serviceId.isSome

/-- The group that a recipient stands for. -/
def groupId? (recipient : Recipient) : Option GroupId :=
  match recipient.kind with
  | .individual => none
  | .group id => some id

/-- Whether a recipient stands for a group. -/
def isGroup (recipient : Recipient) : Bool := recipient.groupId?.isSome

/-- Whether a recipient stands for a group of the second version. -/
def isV2Group (recipient : Recipient) : Bool := recipient.groupId?.any GroupId.isV2

/-- A recipient as a record. -/
def toJson (recipient : Recipient) : Json :=
  .record
    [("id", recipient.id.toJson),
     ("service_id", .option ServiceId.toJson recipient.serviceId),
     ("registered", recipient.registered.toJson),
     ("kind", recipient.kind.toJson),
     ("participant_ids", .list RowId.toJson recipient.participants),
     ("is_self", .bool recipient.isSelf)]

/-- The recipient that a record holds. -/
def ofJson? (value : Json) : Option Recipient := do
  match ← value.fields?
    ["id", "service_id", "registered", "kind", "participant_ids", "is_self"] with
  | [id, serviceId, registered, kind, participants, isSelf] =>
    some
      { id := ← Json.required RowId.ofJson? id
        serviceId := ← Json.optional ServiceId.ofJson? serviceId
        registered := ← Json.required Registration.ofJson? registered
        kind := ← Json.required ConversationKind.ofJson? kind
        participants := ← Json.required (Json.toList? RowId.ofJson?) participants
        isSelf := ← Json.required Json.toBool? isSelf }
  | _ => none

end Recipient

end Mailroom
