import Mailroom.Fanout.Progress
import Mailroom.Proofs.Identity.Kept

/-!
# How progress moves

Progress only narrows: the message and the count at the start stay, and the list of those who
remain loses members without changing its order. What is saved of progress is read back as it was.
-/

namespace Mailroom

namespace Fanout.Progress

/-- A count is capped to the largest word of 32 bits. -/
theorem toInt_capped (count : Nat) : (capped count).toInt = min (count : Int) 2147483647 := by
  unfold capped
  by_cases room : count < 2147483648
  · rw [if_pos room, Int32.toInt_ofInt_of_le (by omega) (by omega)]
    omega
  · rw [if_neg room, show (2147483647 : Int32).toInt = 2147483647 from rfl]
    omega

/-- Keeps those on the list who meet a condition. -/
def keep (wanted : RecipientId → Bool) (progress : Progress) : Progress :=
  { progress with remaining := progress.remaining.filter wanted }

/-- Dropping keeps the message. -/
@[simp] theorem target_drop (progress : Progress) (ids : List RecipientId) :
    (progress.drop ids).target = progress.target :=
  rfl

/-- Dropping those who miss a condition keeps those who meet it. -/
theorem drop_eq_keep {progress : Progress} {ids : List RecipientId} {wanted : RecipientId → Bool}
    (left_out : ∀ id ∈ progress.remaining, id ∈ ids ↔ wanted id = false) :
    progress.drop ids = progress.keep wanted := by
  unfold drop keep
  congr 1
  refine List.filter_congr fun id held => ?_
  have agrees := left_out id held
  cases unwanted : wanted id with
  | false => simpa using agrees.2 unwanted
  | true =>
    have stays : id ∉ ids := fun listed => by rw [agrees.1 listed] at unwanted; cases unwanted
    simpa using stays

/-- Keeping some of those who are kept is keeping those who meet both conditions. -/
theorem keep_keep {progress : Progress} {first second both : RecipientId → Bool}
    (agrees : ∀ id ∈ progress.remaining, first id = true → second id = both id) :
    (progress.keep first).keep second = progress.keep fun id => first id && both id := by
  unfold keep
  dsimp only
  rw [List.filter_filter]
  congr 1
  apply List.filter_congr
  intro id held
  cases wanted : first id with
  | false => rw [Bool.and_false, Bool.false_and]
  | true => rw [agrees id held wanted, Bool.and_true, Bool.true_and]

/-- Progress of the same fan-out whose list is what is left of another's, in its order. -/
structure Narrows (later earlier : Progress) : Prop where
  target : later.target = earlier.target
  initialCount : later.initialCount = earlier.initialCount
  remaining : later.remaining.Sublist earlier.remaining

/-- Progress narrows itself. -/
theorem Narrows.refl (progress : Progress) : progress.Narrows progress :=
  ⟨rfl, rfl, .refl _⟩

/-- Narrowing twice is narrowing. -/
theorem Narrows.trans {first second third : Progress} (left : first.Narrows second)
    (right : second.Narrows third) : first.Narrows third :=
  ⟨left.target.trans right.target, left.initialCount.trans right.initialCount,
    left.remaining.trans right.remaining⟩

/-- Keeping some narrows. -/
theorem narrows_keep (wanted : RecipientId → Bool) (progress : Progress) :
    (progress.keep wanted).Narrows progress :=
  ⟨rfl, rfl, List.filter_sublist⟩

/-- Dropping narrows. -/
theorem narrows_drop (ids : List RecipientId) (progress : Progress) :
    (progress.drop ids).Narrows progress :=
  ⟨rfl, rfl, List.filter_sublist⟩

/-- The members of saved progress. -/
def members (progress : Progress) : List (String × Json) :=
  [("targetMessageId", progress.target.toJson),
   ("remainingRecipients", .list RowId.toJson progress.remaining),
   ("initialRecipientCount", .int progress.initialCount.toInt)]

/-- The members of progress are written. -/
theorem written_members (progress : Progress) :
    ∀ member ∈ progress.members, member.2.Written := by
  intro member held
  simp only [members, List.mem_cons, List.not_mem_nil, or_false] at held
  rcases held with rfl | rfl | rfl
  · exact progress.target.kept.written
  · exact (RowId.kept_list progress.remaining).written
  · exact Json.written_int _

/-- The record of progress is written. -/
theorem written_toJson (progress : Progress) : progress.toJson.Written :=
  Json.written_record progress.written_members

/-- Progress is read back from its record. -/
theorem ofJson?_toJson (progress : Progress) : ofJson? progress.toJson = some progress := by
  have distinct : ["targetMessageId", "remainingRecipients", "initialRecipientCount"].Nodup := by
    decide
  have fields : progress.toJson.fields?
      ["targetMessageId", "remainingRecipients", "initialRecipientCount"] =
        some [some progress.target.toJson, some (.list RowId.toJson progress.remaining),
          some (.int progress.initialCount.toInt)] :=
    Json.fields?_record distinct
  have initialCount : Json.required Json.toInt32? (some (.int progress.initialCount.toInt)) =
      some progress.initialCount :=
    Json.toInt32?_int progress.initialCount
  rw [ofJson?, fields]
  dsimp only [Option.bind_eq_bind, Option.bind_some]
  rw [progress.target.kept.required, Option.bind_some,
    (RowId.kept_list progress.remaining).required, Option.bind_some, initialCount, Option.bind_some]

/-- What is saved of progress is read back as it was. -/
@[simp] theorem decode?_encode (progress : Progress) : decode? progress.encode = some progress := by
  rw [decode?, encode, Json.read?_write progress.written_toJson, Option.bind_some, ofJson?_toJson]

/-- Bytes are accepted exactly if they hold progress. -/
theorem decode_eq_ok_iff {bytes : List UInt8} {progress : Progress} :
    decode bytes = .ok progress ↔ decode? bytes = some progress := by
  unfold decode
  cases decode? bytes <;> simp

end Fanout.Progress

end Mailroom
