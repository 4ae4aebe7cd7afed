import Mathlib
import Mailroom.Identity.Uuid

/-!
# UUIDs are read back

The hyphens that are put between the digits of a UUID are found again, so `parse?_text` holds: the
text of a UUID names it.
-/

namespace Mailroom.Uuid

/-- Hyphens between groups are one fewer than the groups. -/
theorem length_hyphenate {counts : List Nat} {digits : List Char} (nonempty : counts ≠ [])
    (whole : digits.length = counts.sum) :
    (hyphenate counts digits).length + 1 = digits.length + counts.length := by
  induction counts generalizing digits with
  | nil => exact absurd rfl nonempty
  | cons count counts ih =>
    cases counts with
    | nil => rfl
    | cons next counts =>
      rw [List.sum_cons] at whole
      have behind : (digits.drop count).length = (next :: counts).sum := by
        rw [List.length_drop]
        omega
      have later := ih (List.cons_ne_nil next counts) behind
      show (digits.take count ++ '-' :: hyphenate (next :: counts) (digits.drop count)).length + 1 = _
      simp only [List.length_append, List.length_cons, List.length_take, List.length_drop] at later ⊢
      omega

/-- Hyphens that are put between groups are found again. -/
theorem dehyphenate_hyphenate {counts : List Nat} {digits : List Char} (nonempty : counts ≠ [])
    (whole : digits.length = counts.sum) :
    dehyphenate counts (hyphenate counts digits) = some digits := by
  induction counts generalizing digits with
  | nil => exact absurd rfl nonempty
  | cons count counts ih =>
    cases counts with
    | nil =>
      rw [List.sum_singleton] at whole
      exact if_pos whole
    | cons next counts =>
      rw [List.sum_cons] at whole
      have front : (digits.take count).length = count := by
        rw [List.length_take]
        omega
      have behind : (digits.drop count).length = (next :: counts).sum := by
        rw [List.length_drop]
        omega
      have later := ih (List.cons_ne_nil next counts) behind
      show dehyphenate (count :: next :: counts)
        (digits.take count ++ '-' :: hyphenate (next :: counts) (digits.drop count)) = _
      unfold dehyphenate
      rw [List.drop_left' front, List.take_left' front]
      show (dehyphenate (next :: counts) (hyphenate (next :: counts) (digits.drop count))).map
        (digits.take count ++ ·) = _
      rw [later, Option.map_some, List.take_append_drop]

/-- The text of a UUID names it. -/
theorem parse?_text (id : Uuid) : parse? id.text.toList = some id := by
  have digits : (Hex.encode id.block.bytes).length = 32 := by
    rw [Hex.length_encode, id.block.length_eq]
  have several : groups ≠ [] := by decide
  have length := length_hyphenate several digits
  have long : (hyphenate groups (Hex.encode id.block.bytes)).length = 36 := by
    rw [digits] at length
    exact Nat.succ.inj length
  have back := dehyphenate_hyphenate several digits
  rw [text, String.toList_ofList, parse?, if_neg (by omega), if_pos long, ofGroups?, back,
    Option.bind_some, ofDigits?, Hex.decode?_encode]
  simp only [Option.bind_eq_bind, Option.bind_some, Block.ofBytes?_bytes, Option.map_some]

end Mailroom.Uuid
