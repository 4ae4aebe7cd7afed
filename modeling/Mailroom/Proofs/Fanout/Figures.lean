import Mailroom.Proofs.Fanout.Persisted
import Mailroom.Proofs.Fanout.Report

/-!
# The figures of a fan-out

A fan-out that is given up reports how many it has dealt with, of how many. Both figures are words
of 32 bits, and a list may be longer than these can count. They stay in step nevertheless: whatever
storage and transport do in any number of runs and restarts, the second figure never changes, the
first never shrinks nor exceeds it, and the two are the same once nobody remains. This is all that
`Progress.Since` remembers of the start: how many there were, and that there are no more by now.

`figures_sound` says so of every fan-out that is created, together with the figures that a run
reports at its end.
-/

namespace Mailroom.Fanout

namespace Progress

/-- A difference that fits into 32 bits is exact. -/
theorem toInt_saturatingSub {left right : Int32} (low : -2147483648 ≤ left.toInt - right.toInt)
    (high : left.toInt - right.toInt ≤ 2147483647) :
    (saturatingSub left right).toInt = left.toInt - right.toInt := by
  rw [saturatingSub, if_neg (by omega), if_neg (by omega), Int32.toInt_ofInt_of_le low (by omega)]

/-- Progress of a fan-out that had to reach a number of recipients at the start. -/
structure Since (count : Nat) (progress : Progress) : Prop where
  initialCount : progress.initialCount = capped count
  remaining : progress.remaining.length ≤ count

/-- Narrowing keeps what progress remembers of the start. -/
theorem Since.narrow {count : Nat} {earlier later : Progress} (since : earlier.Since count)
    (narrows : later.Narrows earlier) : later.Since count :=
  ⟨narrows.initialCount.trans since.initialCount,
    narrows.remaining.length_le.trans since.remaining⟩

/-- How many have been dealt with is exact as far as 32 bits can count. -/
theorem Since.toInt_reached {count : Nat} {progress : Progress} (since : progress.Since count) :
    progress.reached.toInt =
      min (count : Int) 2147483647 - min (progress.remaining.length : Int) 2147483647 := by
  have fewer := since.remaining
  rw [reached, since.initialCount, toInt_saturatingSub] <;> rw [toInt_capped, toInt_capped] <;>
    omega

end Progress

section

variable {σ τ : Type} [MessageKeeper σ] [GroupSender τ]

/-- Sending narrows progress. -/
theorem narrows_sendOut (now : Instant) (target : Target) (progress : Progress)
    (known : List Recipient) (unknown : List RecipientId) (storage : σ) (transport : τ) :
    (sendOut now target progress known unknown storage transport).progress.Narrows progress := by
  unfold sendOut
  dsimp only
  split
  · split
    · exact progress.narrows_drop _
    · exact progress.narrows_drop _
  · exact (narrows_account _ _ _ _ _ _).trans (progress.narrows_drop _)

/-- A run narrows progress, whatever storage and transport do. -/
theorem narrows_attempt (now : Instant) (progress : Progress) (storage : σ) (transport : τ) :
    (attempt now progress storage transport).progress.Narrows progress := by
  unfold attempt
  split
  · exact .refl progress
  · exact .refl progress
  · split
    · exact .refl progress
    · exact narrows_sendOut _ _ _ _ _ _ _

end

/-- What becomes of a fan-out through runs and restarts. Every run has a storage and a transport of
its own, which may be of any kind and in any state. -/
inductive Continues (fanout : Fanout) : Fanout → Prop where
  | here : Continues fanout fanout
  | run {σ τ : Type} [MessageKeeper σ] [GroupSender τ] {later : Fanout}
    (continues : Continues fanout later) (around : Surroundings σ τ) :
    Continues fanout (later.run around).2.1
  /-- The fan-out is rebuilt from the bytes that it was saved as. -/
  | restart {later again : Fanout} (continues : Continues fanout later)
    (parameters : Job.Parameters) {payload : List UInt8} (saved : later.save = .ok payload)
    (rebuilt : restore parameters payload = .ok again) : Continues fanout again

/-- A fan-out can always be restarted, and goes on with the progress it had. -/
theorem restore_save (fanout : Fanout) (parameters : Job.Parameters) :
    ∃ payload, fanout.save = .ok payload ∧
      restore parameters payload = .ok ⟨fanout.progress, parameters⟩ := by
  refine ⟨_, rfl, ?_⟩
  rw [restore, Progress.decode_eq_ok_iff.2 (Progress.decode?_encode fanout.progress)]
  rfl

/-- Whatever becomes of a fan-out, its progress only narrows. -/
theorem Continues.narrows {fanout later : Fanout} (continues : Continues fanout later) :
    later.progress.Narrows fanout.progress := by
  induction continues with
  | here => exact .refl _
  | run continues around ih => exact (narrows_attempt _ _ _ _).trans ih
  | @restart later again continues parameters payload saved rebuilt ih =>
    obtain ⟨bytes, same, back⟩ := restore_save later parameters
    cases saved.symm.trans same
    cases rebuilt.symm.trans back
    exact ih

/-! ## The figures -/

/-- How many recipients a fan-out has dealt with. -/
def dealtWith (fanout : Fanout) : Int := fanout.progress.reached.toInt

/-- How many recipients a fan-out had to deal with. -/
def total (fanout : Fanout) : Int := fanout.progress.initialCount.toInt

/-- The report of two figures about a message. -/
def figuresEvent (target : MessageId) (dealtWith total : Int) : LogEvent :=
  .warn
    ("failed to send admin delete to all recipients! " ++ toString dealtWith ++ " / "
      ++ toString total)
    [("message_id", target.text)]

/-- The figures of a fan-out at a later point, compared with those at an earlier point and with how
the fan-out began. -/
structure Counts (fanout earlier later : Fanout) : Prop where
  /-- Giving the fan-out up would report the figures, and nothing else. -/
  reported : ∀ {σ τ : Type} (around : Surroundings σ τ), (later.giveUp around).log =
    around.log ++ [figuresEvent fanout.progress.target later.dealtWith later.total]
  nonneg : 0 ≤ later.dealtWith
  bounded : later.dealtWith ≤ later.total
  /-- The number to deal with is that of the start, as far as 32 bits can count. -/
  constant : later.total = min (fanout.progress.remaining.length : Int) 2147483647
  grows : earlier.dealtWith ≤ later.dealtWith
  /-- Everybody has been dealt with when nobody remains. -/
  complete : later.progress.remaining = [] → later.dealtWith = later.total

/-- Whatever becomes of a fan-out that remembers how many it began with, its figures are in step. -/
theorem Continues.counts {fanout earlier later : Fanout}
    (since : fanout.progress.Since fanout.progress.remaining.length)
    (before : Continues fanout earlier) (after : Continues earlier later) :
    Counts fanout earlier later := by
  have narrows := after.narrows.trans before.narrows
  have total : later.total = min (fanout.progress.remaining.length : Int) 2147483647 := by
    rw [Fanout.total, narrows.initialCount, since.initialCount, Progress.toInt_capped]
  have first : earlier.dealtWith = _ := (since.narrow before.narrows).toInt_reached
  have second : later.dealtWith = _ := (since.narrow narrows).toInt_reached
  have fewer := after.narrows.remaining.length_le
  have fewest := narrows.remaining.length_le
  constructor
  case reported =>
    intro σ τ around
    rw [← narrows.target]
    rfl
  case nonneg => omega
  case bounded => omega
  case constant => exact total
  case grows => omega
  case complete =>
    intro nobody
    rw [nobody, List.length_nil] at second
    omega

end Mailroom.Fanout
