import Mailroom.Json.Block
import Mailroom.Proofs.Json.RoundTrip

/-!
# Values kept in JSON

A value is kept if its JSON form is written, is something else than null, and gives the value back.
Texts, truth values, machine words and byte strings are kept whatever their value. A list is kept
if its items are, and a field that may be missing is read back if what it holds is kept: null stands
for nothing there, so nothing else may be written as null.
-/

namespace Mailroom.Json

/-- A value that its JSON form gives back. -/
structure Kept {α : Type} (encode : α → Json) (decode : Json → Option α) (value : α) : Prop where
  /-- The writer spells the form. -/
  written : (encode value).Written
  /-- The form does not say that there is no value. -/
  solid : encode value ≠ .null
  /-- The form is read as the value. -/
  back : decode (encode value) = some value

section

variable {α : Type} {encode : α → Json} {decode : Json → Option α}

/-- A field that must be there is read back. -/
theorem Kept.required {value : α} (kept : Kept encode decode value) :
    Json.required decode (some (encode value)) = some value :=
  kept.back

/-- A value and its absence are written. -/
theorem written_option {value : Option α} (kept : ∀ inner ∈ value, Kept encode decode inner) :
    (option encode value).Written := by
  cases value with
  | none => exact written_null
  | some inner => exact (kept inner rfl).written

/-- A field that may be missing is read back. -/
theorem optional_option {value : Option α} (kept : ∀ inner ∈ value, Kept encode decode inner) :
    optional decode (some (option encode value)) = some value := by
  cases value with
  | none => rfl
  | some inner =>
    obtain ⟨-, solid, back⟩ := kept inner rfl
    show nullable? decode (encode inner) = _
    unfold nullable?
    split
    · rename_i null
      exact absurd null solid
    · rw [back, Option.map_some]

/-- A value with a name around it is kept if the value itself is. -/
theorem Kept.named {β : Type} {value : α} (kept : Kept encode decode value) (wrap : α → β)
    (unwrap : β → α) (same : unwrap (wrap value) = value) :
    Kept (fun outer => encode (unwrap outer)) (fun form => (decode form).map wrap)
      (wrap value) where
  written := by
    rw [same]
    exact kept.written
  solid := by
    rw [same]
    exact kept.solid
  back := by rw [same, kept.back, Option.map_some]

/-- A list is kept if its items are. -/
theorem kept_list {values : List α} (kept : ∀ value ∈ values, Kept encode decode value) :
    Kept (list encode) (toList? decode) values where
  written := by
    apply written_array
    intro item among
    obtain ⟨value, held, rfl⟩ := List.mem_map.1 among
    exact (kept value held).written
  solid := nofun
  back := toList?_list fun value held => (kept value held).back

end

/-- Texts are kept. -/
theorem kept_text (value : String) : Kept text toText? value :=
  ⟨written_text value, nofun, rfl⟩

/-- Truth values are kept. -/
theorem kept_bool (value : Bool) : Kept .bool toBool? value :=
  ⟨written_bool value, nofun, rfl⟩

/-- Whole numbers within bounds are read back. -/
theorem toInt?_int {least most : Int} {value : Nat} (low : least ≤ 0) (high : (value : Int) ≤ most) :
    (int value).toInt? least most = some (value : Int) := by
  rw [int, toInt?, Numeral.toIntWithin?_ofInt ⟨by omega, high⟩]

/-- Bytes are kept. -/
theorem kept_byte (value : UInt8) : Kept (fun byte => int byte.toNat) toUInt8? value where
  written := written_int _
  solid := nofun
  back := by
    have room := value.toNat_lt
    rw [toUInt8?, toInt?_int (by decide) (by omega), Option.map_some, Int.toNat_natCast,
      UInt8.ofNat_toNat]

/-- Words of 32 bits are kept. -/
theorem kept_word32 (value : UInt32) : Kept (fun word => int word.toNat) toUInt32? value where
  written := written_int _
  solid := nofun
  back := by
    have room := value.toNat_lt
    rw [toUInt32?, toInt?_int (by decide) (by omega), Option.map_some, Int.toNat_natCast,
      UInt32.ofNat_toNat]

/-- Words of 64 bits are kept. -/
theorem kept_word64 (value : UInt64) : Kept (fun word => int word.toNat) toUInt64? value where
  written := written_int _
  solid := nofun
  back := by
    have room := value.toNat_lt
    rw [toUInt64?, toInt?_int (by decide) (by omega), Option.map_some, Int.toNat_natCast,
      UInt64.ofNat_toNat]

/-- Words of 64 bits with sign are kept. -/
theorem kept_signed64 (value : Int64) : Kept (fun word => int word.toInt) toInt64? value :=
  ⟨written_int _, nofun, toInt64?_int value⟩

/-- Byte strings are kept. -/
theorem kept_bytes (value : List UInt8) : Kept bytes toBytes? value :=
  kept_list fun byte _ => kept_byte byte

/-- A record with distinct names that are the only ones admitted gives its fields back. -/
theorem closedFields?_record {members : List (String × Json)}
    (distinct : (members.map Prod.fst).Nodup) :
    (record members).closedFields? (members.map Prod.fst) =
      some (members.map fun member => some member.2) := by
  have proper : (members.map fun member => (some member.1, member.2)).all
      (fun member => member.1.any (members.map Prod.fst).contains) = true := by
    rw [List.all_eq_true]
    intro member among
    obtain ⟨source, held, rfl⟩ := List.mem_map.1 among
    have listed : source.1 ∈ members.map Prod.fst := List.mem_map_of_mem held
    simpa using listed
  have fields := fields?_record distinct
  rw [record, fields?] at fields
  rw [record, closedFields?, if_pos proper]
  split at fields
  · exact fields
  · cases fields

/-- A choice with content is told by its name. -/
theorem choice?_record (name : String) (content : Json) :
    (record [(name, content)]).choice? = some (name, some content) :=
  rfl

end Mailroom.Json
