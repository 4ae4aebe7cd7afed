import Mailroom.Identity.Group
import Mailroom.Identity.RowId

/-!
# Rosters

A roster is the local view of a group: its revision, who is a member, and who may act as admin.
-/

namespace Mailroom

/-- The state of a group. -/
structure Roster where
  /-- The group. -/
  id : GroupId
  /-- The revision of the group that this state is of. -/
  revision : UInt32
  /-- Who belongs to the group. -/
  members : List RecipientId
  /-- Who may act as admin. -/
  admins : List RecipientId
  deriving DecidableEq

namespace Roster

/-- Whether a recipient is an admin. -/
def isAdmin (roster : Roster) (id : RecipientId) : Bool := roster.admins.contains id

/-- Whether a recipient is a member. -/
def isMember (roster : Roster) (id : RecipientId) : Bool := roster.members.contains id

/-- A roster as a record. -/
def toJson (roster : Roster) : Json :=
  .record
    [("id", roster.id.toJson),
     ("revision", .int roster.revision.toNat),
     ("members", .list RowId.toJson roster.members),
     ("admins", .list RowId.toJson roster.admins)]

/-- The roster that a record holds. -/
def ofJson? (value : Json) : Option Roster := do
  match ← value.fields? ["id", "revision", "members", "admins"] with
  | [id, revision, members, admins] =>
    some
      { id := ← Json.required GroupId.ofJson? id
        revision := ← Json.required Json.toUInt32? revision
        members := ← Json.required (Json.toList? RowId.ofJson?) members
        admins := ← Json.required (Json.toList? RowId.ofJson?) admins }
  | _ => none

end Roster

end Mailroom
