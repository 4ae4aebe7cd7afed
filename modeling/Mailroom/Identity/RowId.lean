import Mailroom.Identity.Error
import Mailroom.Json.Fields
import Mailroom.Text.Whole

/-!
# Row identifiers

Recipients, threads and messages are rows of the local store, numbered by 64 bits with sign. The
kind of row is part of the type, so that a thread is never taken for a message.
-/

namespace Mailroom

/-- What a row identifier counts. -/
inductive RowKind where
  | recipient
  | thread
  | message
  deriving DecidableEq

/-- The name of the identifier in messages. -/
def RowKind.name : RowKind → String
  | .recipient => "RecipientId"
  | .thread => "ThreadId"
  | .message => "MessageId"

/-- The identifier of a row. -/
structure RowId (kind : RowKind) where
  /-- The number of the row. -/
  value : Int64
  deriving DecidableEq

/-- A contact, a group or the local account. -/
abbrev RecipientId : Type := RowId .recipient

/-- A conversation in the thread list. -/
abbrev ThreadId : Type := RowId .thread

/-- A stored message. -/
abbrev MessageId : Type := RowId .message

namespace RowId

variable {kind : RowKind}

/-- The number in decimal digits. -/
def text (id : RowId kind) : String := Text.writeSigned id.value

/-- The identifier with the name of its kind. -/
def shown (id : RowId kind) : String := kind.name ++ "(" ++ id.text ++ ")"

/-- Reads an identifier. -/
def parse (text : String) : Except IdentityError (RowId kind) :=
  match Text.readSigned text.toList with
  | .ok value => .ok ⟨value⟩
  | .error reason => .error (.identifier (kind.name ++ ": " ++ reason.message))

/-- The key of the queue that holds the work for one recipient. -/
def queueKey (id : RecipientId) : String := "RecipientId::" ++ id.text

/-- An identifier as a number. -/
def toJson (id : RowId kind) : Json := .int id.value.toInt

/-- The identifier that a number names. -/
def ofJson? (value : Json) : Option (RowId kind) := value.toInt64?.map RowId.mk

end RowId

end Mailroom
