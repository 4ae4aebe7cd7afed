import Mailroom.Proofs.Fanout.Scheduled
import Mailroom.Proofs.Identity.Text

/-!
# Fan-outs of different conversations

A fan-out waits in the queue that is named after its conversation, and the scheduler runs one job of
a queue at a time. That this is once for each conversation rests on names that tell recipients
apart: `texts_tell_apart` says so of the names of queues and of the texts of all identifiers of rows
and groups, the smallest number and both versions included.
-/

namespace Mailroom

/-- Whether texts tell apart what they stand for, and queues the fan-outs in them. -/
structure TextsTellApart : Prop where
  /-- A recipient, a thread and a message are read back from their texts. -/
  readBack : ∀ (kind : RowKind) (id : RowId kind), RowId.parse id.text = .ok id
  /-- The keys of two queues are the same only for the same recipient. -/
  queueKey : ∀ left right : RecipientId, left.queueKey = right.queueKey ↔ left = right
  /-- A fan-out is one for the conversation that its message is in, whatever keeps the messages. -/
  created : ∀ {σ : Type} [MessageKeeper σ] (storage : σ) (target : MessageId) (fanout : Fanout),
    (Fanout.create target storage).1 = .ok (some fanout) ↔
      ∃ conversation, Fanout.Finds storage target conversation ∧
        fanout = Fanout.start target conversation
  /-- The jobs of two fan-outs wait in the same queue only if the conversation is the same. -/
  sharesQueue : ∀ (stamp later : Job.Stamp) (target other : MessageId) (left right : Recipient),
    (Fanout.recordOf stamp (Fanout.start target left)).SharesQueue
        (Fanout.recordOf later (Fanout.start other right)) ↔
      left.id = right.id
  /-- Two groups have the same text only if they are the same, of whichever version. -/
  group : ∀ left right : GroupId, left.text = right.text ↔ left = right

/-- Fan-outs share a queue exactly if their conversations have the same recipient. -/
theorem Fanout.sharesQueue_recordOf (stamp later : Job.Stamp) (target other : MessageId)
    (left right : Recipient) :
    (recordOf stamp (start target left)).SharesQueue (recordOf later (start other right)) ↔
      left.id = right.id := by
  have inQueue : (recordOf stamp (start target left)).queue = some left.id.queueKey := rfl
  have inOther : (recordOf later (start other right)).queue = some right.id.queueKey := rfl
  rw [Job.Record.SharesQueue, inQueue, inOther]
  constructor
  · rintro ⟨queue, here, there⟩
    exact RowId.queueKey_injective (Option.some.inj (here.trans there.symm))
  · intro same
    exact ⟨left.id.queueKey, rfl, by rw [same]⟩

/-- Texts tell apart what they stand for. -/
theorem texts_tell_apart : TextsTellApart where
  readBack _ id := id.parse_text
  queueKey _ _ := RowId.queueKey_injective.eq_iff
  created _ _ _ := Fanout.create_eq_some_iff
  sharesQueue := Fanout.sharesQueue_recordOf
  group _ _ := GroupId.text_injective.eq_iff

/-- The smallest number of 64 bits is written with all its digits, and is read back. -/
example : (⟨Int64.minValue⟩ : ThreadId).text = "-9223372036854775808" ∧
    RowId.parse "-9223372036854775808" = .ok (⟨Int64.minValue⟩ : ThreadId) := by
  decide

end Mailroom
