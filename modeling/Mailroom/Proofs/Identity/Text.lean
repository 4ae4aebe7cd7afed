import Mailroom.Identity.Group
import Mailroom.Identity.RowId
import Mailroom.Proofs.Text.Whole

/-!
# The texts of identifiers

A row identifier is read back from its text, whatever its number. So the keys of queues tell
recipients apart, and the texts of group identifiers tell groups apart: the marks in front differ
between the versions, and within a version the digits spell the bytes.
-/

namespace Mailroom

namespace RowId

variable {kind : RowKind}

/-- A row identifier is read back from its text. -/
theorem parse_text (id : RowId kind) : parse id.text = .ok id := by
  rw [parse, text, Text.readSigned_writeSigned]

/-- The texts of row identifiers tell them apart. -/
theorem text_injective : Function.Injective (text : RowId kind → String) := by
  rintro ⟨left⟩ ⟨right⟩ same
  exact congrArg RowId.mk (Text.writeSigned_injective same)

/-- The keys of queues tell recipients apart. -/
theorem queueKey_injective : Function.Injective queueKey := by
  intro left right same
  exact text_injective (String.append_right_inj _ |>.1 same)

end RowId

/-- The digits of a block tell it apart from others of its length. -/
theorem Block.hex_injective {size : Nat} : Function.Injective (hex : Block size → String) := by
  intro left right same
  exact Block.ext (Hex.encode_injective (String.ofList_injective same))

namespace GroupId

/-- The marks of the two versions do not begin alike. -/
theorem text_v1_ne_v2 (left : Block 16) (right : Block 32) : (v1 left).text ≠ (v2 right).text := by
  intro same
  have chars : ("__textsecure_group__!" ++ left.hex).toList =
      ("__signal_group__v2__!" ++ right.hex).toList := congrArg String.toList same
  rw [String.toList_append, String.toList_append] at chars
  have marks : "__textsecure_group__!".toList = "__signal_group__v2__!".toList :=
    List.append_inj_left chars (by decide)
  exact absurd marks (by decide)

/-- The texts of group identifiers tell them apart, the versions too. -/
theorem text_injective : Function.Injective text := by
  intro left right same
  match left, right with
  | .v1 left, .v1 right =>
    rw [Block.hex_injective (String.append_right_inj _ |>.1 same)]
  | .v2 left, .v2 right =>
    rw [Block.hex_injective (String.append_right_inj _ |>.1 same)]
  | .v1 left, .v2 right => exact absurd same (text_v1_ne_v2 left right)
  | .v2 left, .v1 right => exact absurd same.symm (text_v1_ne_v2 right left)

end GroupId

end Mailroom
