import Mailroom.Identity.RowId
import Mailroom.Job.Error
import Mailroom.Json.Reader
import Mailroom.Json.Writer

/-!
# Progress of a fan-out

A fan-out takes the delete of one message to everybody in its group. Its progress is all that it
remembers between runs: the message, who still has to be reached, and how many there were at the
start. Progress is kept as a JSON record.
-/

namespace Mailroom.Fanout

/-- The key under which fan-outs are rebuilt. -/
def factoryKey : String := "AdminDeleteSendJob"

/-- What a fan-out remembers between runs. -/
structure Progress where
  /-- The message to delete. -/
  target : MessageId
  /-- Who still has to be reached. It only ever gets shorter. -/
  remaining : List RecipientId
  /-- How many had to be reached at the start, at most what 31 bits hold. -/
  initialCount : Int32
  deriving DecidableEq

namespace Progress

/-- Progress as a record. -/
def toJson (progress : Progress) : Json :=
  .record
    [("targetMessageId", progress.target.toJson),
     ("remainingRecipients", .list RowId.toJson progress.remaining),
     ("initialRecipientCount", .int progress.initialCount.toInt)]

/-- The progress that a record holds. -/
def ofJson? (value : Json) : Option Progress := do
  match ← value.fields? ["targetMessageId", "remainingRecipients", "initialRecipientCount"] with
  | [target, remaining, initialCount] =>
    some
      { target := ← Json.required RowId.ofJson? target
        remaining := ← Json.required (Json.toList? RowId.ofJson?) remaining
        initialCount := ← Json.required Json.toInt32? initialCount }
  | _ => none

/-- Progress as bytes. -/
def encode (progress : Progress) : List UInt8 := progress.toJson.write

/-- The progress that bytes hold. -/
def decode? (bytes : List UInt8) : Option Progress := (Json.read? bytes).bind ofJson?

/-- The progress that bytes hold, or why they hold none. -/
def decode (bytes : List UInt8) : Except Job.JobError Progress :=
  match decode? bytes with
  | some progress => .ok progress
  | none => .error (.decode factoryKey "malformed progress")

/-- Takes everybody off the list who is on another. -/
def drop (progress : Progress) (ids : List RecipientId) : Progress :=
  { progress with remaining := progress.remaining.filter fun id => !ids.contains id }

/-- A count as a word of 32 bits, at most the largest. -/
def capped (count : Nat) : Int32 := if count < 2147483648 then Int32.ofInt count else 2147483647

/-- The difference of two words of 32 bits, at most the largest and at least the smallest. -/
def saturatingSub (left right : Int32) : Int32 :=
  let difference := left.toInt - right.toInt
  if difference < -2147483648 then -2147483648
  else if 2147483647 < difference then 2147483647
  else Int32.ofInt difference

/-- How many have been dealt with so far. -/
def reached (progress : Progress) : Int32 :=
  saturatingSub progress.initialCount (capped progress.remaining.length)

/-- What is shown of progress. -/
def shown (progress : Progress) : String :=
  "AdminDeleteJobData \x7b target_message_id: " ++ progress.target.shown
    ++ ", remaining_recipients: ["
    ++ String.intercalate ", " (progress.remaining.map RowId.shown)
    ++ "], initial_recipient_count: " ++ toString progress.initialCount.toInt ++ " \x7d"

end Progress

end Mailroom.Fanout
