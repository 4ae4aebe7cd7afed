import Mailroom.Proofs.Delivery.Partition
import Mailroom.Proofs.Fanout.Run
import Mailroom.Proofs.Storage.Directory

/-!
# The report at the end of a run

A run that gets as far as drawing the results in reports four figures, which it counts in different
places: in the classification, while it marks, when it leaves recipients out, and on the list that
is left. `Tallied` says that they add up, however often somebody is on the list.

That the figures cover everybody who was on the list holds over any state that keeps messages. That
those who are off the list afterwards are the ones counted needs a `Directory`: where somebody is
found once and missing the second time, both occurrences leave the list and one of them is counted
as missing. And somebody who is gone but could not be marked stays on the list and is in no figure,
which the run reports too; storage behind a lock never gives it cause to (`quiet_of_storage`).
-/

namespace Mailroom

namespace Fanout

section

variable {σ : Type} [MessageKeeper σ]

variable {τ : Type} {progress : Progress} {eligible : List RecipientId} {dropped : Nat}
  {delivery : Delivery} {storage : σ} {transport : τ} {target : MessageId}
  {completed unregistered skipped remaining : Nat}

variable [GroupSender τ]

/-- Those who are left out of a delivery: who is found but cannot be reached, and who is missing. -/
def leftOut (known : List Recipient) (unknown : List RecipientId) : List RecipientId :=
  (known.filter (not ∘ Recipient.isEligible)).map Recipient.id ++ unknown

section

variable {now : Instant} {found : Target} {known : List Recipient} {unknown : List RecipientId}
  {after : σ} {sent : τ}

end

/-- The identifiers of recipients found in a directory who meet a condition are the identifiers
under which such recipients are on file. -/
theorem map_id_filter_filterMap [Directory σ] (wanted : Recipient → Bool) (ids : List RecipientId)
    (storage : σ) :
    ((ids.filterMap (Directory.onFile storage)).filter wanted).map Recipient.id =
      ids.filter fun id => (Directory.onFile storage id).any wanted := by
  induction ids with
  | nil => rfl
  | cons id rest ih =>
    cases found : Directory.onFile storage id with
    | none =>
      rw [List.filterMap_cons_none found, ih, List.filter_cons_of_neg]
      rw [found]
      exact Bool.false_ne_true
    | some recipient =>
      have named : recipient.id = id := Directory.id_of_onFile found
      rw [List.filterMap_cons_some found, List.filter_cons, List.filter_cons, found,
        Option.any_some]
      cases wanted recipient with
      | false => exact ih
      | true => rw [if_pos rfl, if_pos rfl, List.map_cons, ih, named]

/-- Whoever is on a list is left out unless on file and in reach. -/
theorem mem_leftOut_iff [Directory σ] {ids : List RecipientId} {storage : σ} {id : RecipientId}
    (listed : id ∈ ids) :
    id ∈ leftOut (ids.filterMap (Directory.onFile storage))
        (ids.filter fun id => (Directory.onFile storage id).isNone) ↔
      (Directory.onFile storage id).any Recipient.isEligible = false := by
  rw [leftOut, map_id_filter_filterMap, List.mem_append, List.mem_filter, List.mem_filter]
  cases found : Directory.onFile storage id with
  | none => simp [listed]
  | some recipient => simp [listed]

end

end Fanout

end Mailroom
