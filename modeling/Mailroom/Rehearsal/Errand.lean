import Mailroom.Bytes.Utf8
import Mailroom.Job.Scheduler

/-!
# Errands

An errand is a job that does as it is told. Its state is a list of words between commas, and every
run takes the first word and does what it says: `r` asks for another run, `s` or nothing at all is
done, and any other word is why the errand is given up. A state whose first word is `x` cannot be
saved, and one that begins with `!` cannot be brought back. An errand is brought back as text, so
bytes that are none are repaired then; one that was never brought back keeps its bytes as given.
-/

namespace Mailroom.Rehearsal

/-- A job that does as it is told. -/
structure Errand where
  /-- Who can rebuild the errand. -/
  key : String
  /-- The words still to follow. -/
  words : List UInt8
  /-- The scheduling of the errand. -/
  parameters : Job.Parameters

namespace Errand

/-- The key under which errands are rebuilt. -/
def factoryKey : String := "Script"

/-- The byte between words. -/
def comma : UInt8 := 0x2c

/-- The first word. -/
def word (errand : Errand) : List UInt8 := errand.words.takeWhile fun byte => byte ≠ comma

/-- The errand once its first word was followed. -/
def step (errand : Errand) : Errand :=
  { errand with words := (errand.words.dropWhile fun byte => byte ≠ comma).drop 1 }

/-- What the first word asks for. -/
def outcome (errand : Errand) : Job.Outcome :=
  if errand.word = Utf8.bytes "r" then .retry
  else if errand.word = [] ∨ errand.word = Utf8.bytes "s" then .success
  else .permanentFailure (Utf8.repair errand.word)

/-- The state of an errand as bytes. -/
def save (errand : Errand) : Except Job.JobError (List UInt8) :=
  if errand.word = Utf8.bytes "x" then .error (.serialize errand.key "unserializable")
  else .ok errand.words

/-- Brings an errand back, as text. -/
def restore (parameters : Job.Parameters) (payload : List UInt8) : Except Job.JobError Errand :=
  if Utf8.bytes "!" <+: payload then .error (.decode factoryKey "bad script")
  else .ok ⟨factoryKey, Utf8.bytes (Utf8.repair payload), parameters⟩

end Errand

end Mailroom.Rehearsal
