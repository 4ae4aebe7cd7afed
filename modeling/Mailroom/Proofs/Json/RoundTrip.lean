import Mailroom.Json.Fields
import Mailroom.Json.Writer
import Mailroom.Proofs.Json.Grammar

/-!
# What is written is read back

The writer spells values in the grammar, so the reader gives them back. `Written` says this of one
value, and it is shown for each way to make a value: texts, integers, lists and records of what is
written are written. A record with distinct names then gives its fields back by name.
-/

namespace Mailroom.Json

/-- The writer spells the value. -/
def Written (value : Json) : Prop := Grammar.Value value value.write

/-- What is spelled by the writer is read back. -/
theorem read?_write {value : Json} (written : value.Written) : read? value.write = some value :=
  read?_of_spelled (Grammar.Value.padded written)

/-- The byte of a decimal digit is a digit of the same value. -/
theorem digit_of_isDigit {c : Char} (digit : c.isDigit = true) :
    isDigit (UInt8.ofNat c.toNat) = true ∧
      digitValue (UInt8.ofNat c.toNat) = c.toNat - '0'.toNat := by
  have bounds : 48 ≤ c.toNat ∧ c.toNat ≤ 57 := by
    simpa [Char.isDigit, UInt32.le_iff_toNat_le] using digit
  have small : (UInt8.ofNat c.toNat).toNat = c.toNat := by
    rw [UInt8.toNat_ofNat', Nat.mod_eq_of_lt (by omega)]
  constructor
  · rw [isDigit, Bool.and_eq_true, decide_eq_true_eq, decide_eq_true_eq, UInt8.le_iff_toNat_le,
      UInt8.le_iff_toNat_le, small]
    exact bounds
  · rw [digitValue, small]
    rfl

/-- The bytes of decimal digits spell the number that the digits do. -/
theorem foldl_ascii {chars : List Char} (digits : ∀ c ∈ chars, c.isDigit = true) (start : Nat) :
    (ascii chars).foldl (fun value byte => value * 10 + digitValue byte) start =
      Nat.ofDigitChars 10 chars start := by
  induction chars generalizing start with
  | nil => rfl
  | cons c rest ih =>
    have later := ih (fun c held => digits c (List.mem_cons_of_mem _ held))
    rw [Nat.ofDigitChars_cons, ← later, ascii, List.map_cons, List.foldl_cons,
      (digit_of_isDigit (digits c List.mem_cons_self)).2, Nat.mul_comm start 10]
    rfl

/-- The digits of a number spell the number. -/
theorem digits_toDigits (n : Nat) :
    Grammar.Digits (ascii (Nat.toDigits 10 n)) ∧ digitsValue (ascii (Nat.toDigits 10 n)) = n := by
  have digit : ∀ c ∈ Nat.toDigits 10 n, c.isDigit = true :=
    fun c held => Nat.isDigit_of_mem_toDigits (by decide) (by decide) held
  refine ⟨⟨?_, ?_⟩, (foldl_ascii digit 0).trans Nat.ofDigitChars_ten_toDigits⟩
  · rw [ascii, ne_eq, List.map_eq_nil_iff]
    exact Nat.toDigits_ne_nil
  · intro byte held
    obtain ⟨c, among, rfl⟩ := List.mem_map.1 held
    exact (digit_of_isDigit (digit c among)).1

/-- The digits of a positive number do not begin with a zero. -/
theorem head?_toDigits {n : Nat} (positive : 0 < n) :
    (ascii (Nat.toDigits 10 n)).head? ≠ some 0x30 := by
  induction n using Nat.strongRecOn with
  | ind n ih =>
    by_cases short : n < 10
    · have other : ∀ n < 10, 0 < n → UInt8.ofNat (Nat.digitChar n).toNat ≠ 0x30 := by decide
      rw [Nat.toDigits_of_lt_base short]
      intro zero
      exact other n short positive (Option.some.inj zero)
    · have begins := ih (n / 10) (by omega) (by omega)
      rw [Nat.toDigits_of_base_le (by decide) (by omega), ascii, List.map_append]
      rw [ascii] at begins
      cases front : (Nat.toDigits 10 (n / 10)).map fun c => UInt8.ofNat c.toNat with
      | nil => exact absurd (List.map_eq_nil_iff.1 front) Nat.toDigits_ne_nil
      | cons first more =>
        rw [front] at begins
        exact begins

/-- A leading zero stands alone. -/
theorem length_toDigits_of_zero {n : Nat}
    (zero : (ascii (Nat.toDigits 10 n)).head? = some 0x30) :
    (ascii (Nat.toDigits 10 n)).length = 1 := by
  rcases Nat.eq_zero_or_pos n with rfl | positive
  · rfl
  · exact absurd zero (head?_toDigits positive)

/-- The digits of a number are spelled as a number behind its sign. -/
theorem magnitude_toDigits (negative : Bool) (n : Nat) :
    Grammar.Magnitude negative ⟨negative, n, [], none⟩ (ascii (Nat.toDigits 10 n)) := by
  obtain ⟨digits, spells⟩ := digits_toDigits n
  have spelled : Grammar.Magnitude negative _ _ :=
    .spelled digits length_toDigits_of_zero .absent .absent
  rwa [spells, List.append_nil, List.append_nil] at spelled

/-- Integers are written. -/
theorem written_int (value : Int) : (int value).Written := by
  have digits := magnitude_toDigits (decide (value < 0)) value.natAbs
  have bytes : (int value).write =
      (if value < 0 then [0x2d] else []) ++ ascii (Nat.toDigits 10 value.natAbs) := by
    simp [int, write, writeNumeral, Numeral.ofInt]
  rw [Written, bytes]
  by_cases below : value < 0
  · rw [if_pos below]
    rw [decide_eq_true below] at digits
    rw [int, Numeral.ofInt, decide_eq_true below]
    exact .negative digits
  · rw [if_neg below]
    rw [decide_eq_false below] at digits
    rw [int, Numeral.ofInt, decide_eq_false below]
    exact .positive digits

/-- An escaped control character is one unit below the surrogates, and the character is a byte. -/
theorem escaped_control : ∀ n < 32,
    escapeValue? 0x30 0x30 (hexByte (n / 16)) (hexByte (n % 16)) = some n ∧
      String.utf8EncodeChar (Char.ofNat n) = [UInt8.ofNat n] := by
  decide

/-- A unit below the surrogates stands for its character. -/
theorem joinPieces_unit {n : Nat} (low : n < 0xd800) (pieces : List Piece) :
    joinPieces (.unit n :: pieces) =
      (joinPieces pieces).map (String.utf8EncodeChar (Char.ofNat n) ++ ·) := by
  have high : ¬ 0xd800 ≤ n := by omega
  rcases pieces with - | ⟨byte | unit, rest⟩ <;> simp [joinPieces, high]

/-- A byte of a text is spelled by one part, which stands for that byte. -/
theorem exists_piece (byte : UInt8) :
    ∃ piece,
      (∀ {pieces bytes}, Grammar.Pieces pieces bytes →
        Grammar.Pieces (piece :: pieces) (escapeByte byte ++ bytes)) ∧
      ∀ pieces, joinPieces (piece :: pieces) = (joinPieces pieces).map (byte :: ·) := by
  have short : ∀ letter : UInt8, shortEscape? letter = some byte →
      escapeByte byte = [0x5c, letter] → ∃ piece,
        (∀ {pieces bytes}, Grammar.Pieces pieces bytes →
          Grammar.Pieces (piece :: pieces) (escapeByte byte ++ bytes)) ∧
        ∀ pieces, joinPieces (piece :: pieces) = (joinPieces pieces).map (byte :: ·) := by
    intro letter known spelled
    refine ⟨.byte byte, fun rest => ?_, fun pieces => rfl⟩
    rw [spelled]
    exact .short known rest
  rcases eq_or_ne byte 0x22 with rfl | quote
  · exact short 0x22 rfl rfl
  rcases eq_or_ne byte 0x5c with rfl | backslash
  · exact short 0x5c rfl rfl
  rcases eq_or_ne byte 0x08 with rfl | backspace
  · exact short 0x62 rfl rfl
  rcases eq_or_ne byte 0x09 with rfl | tab
  · exact short 0x74 rfl rfl
  rcases eq_or_ne byte 0x0a with rfl | line
  · exact short 0x6e rfl rfl
  rcases eq_or_ne byte 0x0c with rfl | page
  · exact short 0x66 rfl rfl
  rcases eq_or_ne byte 0x0d with rfl | carriage
  · exact short 0x72 rfl rfl
  by_cases control : byte < 0x20
  · have low : byte.toNat < 32 := UInt8.lt_iff_toNat_lt.1 control
    obtain ⟨hex, character⟩ := escaped_control byte.toNat low
    refine ⟨.unit byte.toNat, fun rest => ?_, fun pieces => ?_⟩
    · simp only [escapeByte, quote, backslash, backspace, tab, line, page, carriage, control,
        if_pos, if_false]
      exact .unit hex rest
    · rw [joinPieces_unit (by omega), character, UInt8.ofNat_toNat]
      rfl
  · refine ⟨.byte byte, fun rest => ?_, fun pieces => rfl⟩
    simp only [escapeByte, quote, backslash, backspace, tab, line, page, carriage, control,
      if_false]
    exact .byte quote backslash control rest

/-- Texts are spelled as literals. -/
theorem literal_writeString (text : String) :
    Grammar.Literal (some text) (writeString (some text)) := by
  have spelled : ∀ bytes : List UInt8, ∃ pieces,
      Grammar.Pieces pieces (bytes.flatMap escapeByte) ∧ joinPieces pieces = some bytes := by
    intro bytes
    induction bytes with
    | nil => exact ⟨[], .done, rfl⟩
    | cons byte rest ih =>
      obtain ⟨pieces, spelled, means⟩ := ih
      obtain ⟨piece, spells, stands⟩ := exists_piece byte
      exact ⟨piece :: pieces, spells spelled, by rw [stands, means, Option.map_some]⟩
  obtain ⟨pieces, spelled, means⟩ := spelled (Utf8.bytes text)
  have meaning : textOfPieces pieces = some text := by
    rw [textOfPieces, means, Option.bind_some, Utf8.text?_bytes]
  have literal := Grammar.Literal.quoted spelled
  rwa [meaning] at literal

theorem written_text (value : String) : (text value).Written :=
  .string (literal_writeString value)

theorem written_null : Written .null := .null

theorem written_bool (value : Bool) : Written (.bool value) := by
  cases value
  · exact .no
  · exact .yes

/-- Lists of what is written are written. -/
theorem written_array {items : List Json} (written : ∀ item ∈ items, item.Written) :
    Written (.array items) := by
  have spelled : ∀ rest : List Json, rest ≠ [] → (∀ item ∈ rest, item.Written) →
      Grammar.Items rest (writeItems rest) := by
    intro rest
    induction rest with
    | nil => exact fun some _ => absurd rfl some
    | cons item more ih =>
      intro _ written
      have first := (written item List.mem_cons_self).padded
      cases more with
      | nil => exact .last first
      | cons next more =>
        exact .more first (ih (List.cons_ne_nil next more) fun other held =>
          written other (List.mem_cons_of_mem _ held))
  cases items with
  | nil => exact .noItems Grammar.blanks_nil
  | cons item rest => exact .array (spelled _ (List.cons_ne_nil item rest) written)

/-- Records of what is written are written. -/
theorem written_record {members : List (String × Json)}
    (written : ∀ member ∈ members, member.2.Written) : (record members).Written := by
  have spelled : ∀ rest : List (String × Json), rest ≠ [] →
      (∀ member ∈ rest, member.2.Written) →
        Grammar.Members (rest.map fun member => (some member.1, member.2))
          (writeMembers (rest.map fun member => (some member.1, member.2))) := by
    intro rest
    induction rest with
    | nil => exact fun some _ => absurd rfl some
    | cons member more ih =>
      intro _ written
      have first : Grammar.Member (some member.1, member.2)
          (writeString (some member.1) ++ 0x3a :: member.2.write) :=
        .pair Grammar.blanks_nil (literal_writeString member.1) Grammar.blanks_nil
          (Grammar.Value.padded (written member List.mem_cons_self))
      cases more with
      | nil => exact .last first
      | cons next more =>
        exact .more first (ih (List.cons_ne_nil next more) fun other held =>
          written other (List.mem_cons_of_mem _ held))
  cases members with
  | nil => exact .noMembers Grammar.blanks_nil
  | cons member rest => exact .object (spelled _ (List.cons_ne_nil member rest) written)

/-- Reading every item of a list succeeds if it does for each of them. -/
theorem mapM_eq_some {α β : Type} {items : List α} {read : α → Option β} {result : α → β}
    (each : ∀ item ∈ items, read item = some (result item)) :
    items.mapM read = some (items.map result) := by
  induction items with
  | nil => rfl
  | cons item rest ih =>
    have later := ih fun other held => each other (List.mem_cons_of_mem _ held)
    simp [List.mapM_cons, each item List.mem_cons_self, later]

/-- The values under a name are those of the members one after another. -/
theorem valuesOf_cons (name : String) (key : Option String) (value : Json)
    (rest : List (Option String × Json)) :
    valuesOf name ((key, value) :: rest) =
      if key = some name then value :: valuesOf name rest else valuesOf name rest := by
  by_cases same : key = some name <;> simp [valuesOf, same]

/-- A record has no values under a name that none of its members has. -/
theorem valuesOf_of_absent {members : List (String × Json)} {name : String}
    (missing : name ∉ members.map Prod.fst) :
    valuesOf name (members.map fun member => (some member.1, member.2)) = [] := by
  induction members with
  | nil => rfl
  | cons first rest ih =>
    rw [List.map_cons, List.mem_cons, not_or] at missing
    have other : some first.1 ≠ some name := fun same => missing.1 (Option.some.inj same).symm
    rw [List.map_cons, valuesOf_cons, if_neg other, ih missing.2]

/-- The values that a record has under the name of one of its members are that member's. -/
theorem valuesOf_record {members : List (String × Json)}
    (distinct : (members.map Prod.fst).Nodup) {member : String × Json}
    (held : member ∈ members) :
    valuesOf member.1 (members.map fun member => (some member.1, member.2)) = [member.2] := by
  induction members with
  | nil => cases held
  | cons first rest ih =>
    rw [List.map_cons, List.nodup_cons] at distinct
    rw [List.map_cons, valuesOf_cons]
    rcases List.mem_cons.1 held with rfl | later
    · rw [if_pos rfl, valuesOf_of_absent distinct.1]
    · have other : some first.1 ≠ some member.1 := fun same =>
        distinct.1 (Option.some.inj same ▸ List.mem_map_of_mem later)
      rw [if_neg other, ih distinct.2 later]

/-- A record with distinct names gives its fields back by their names. -/
theorem fields?_record {members : List (String × Json)}
    (distinct : (members.map Prod.fst).Nodup) :
    (record members).fields? (members.map Prod.fst) =
      some (members.map fun member => some member.2) := by
  have proper : (members.map fun member => (some member.1, member.2)).all
      (fun member => member.1.isSome) = true := by
    simp
  rw [record, fields?, if_pos proper, List.mapM_map]
  refine mapM_eq_some fun member held => ?_
  show field? _ member.1 = _
  rw [field?, valuesOf_record distinct held]

/-- A list gives its items back, if each of them is. -/
theorem toList?_list {α : Type} {encode : α → Json} {decode : Json → Option α} {values : List α}
    (each : ∀ value ∈ values, decode (encode value) = some value) :
    (list encode values).toList? decode = some values := by
  rw [list, toList?, List.mapM_map]
  have back : values.mapM (fun value => decode (encode value)) = some (values.map id) :=
    mapM_eq_some each
  rwa [List.map_id] at back

/-- An integer of 64 bits is read back. -/
theorem toInt64?_int (value : Int64) : (int value.toInt).toInt64? = some value := by
  have bounds : -9223372036854775808 ≤ value.toInt ∧ value.toInt ≤ 9223372036854775807 :=
    ⟨value.le_toInt, value.toInt_le⟩
  rw [toInt64?, int, toInt?, Numeral.toIntWithin?_ofInt bounds, Option.map_some, Int64.ofInt_toInt]

/-- An integer of 32 bits is read back. -/
theorem toInt32?_int (value : Int32) : (int value.toInt).toInt32? = some value := by
  have bounds : -2147483648 ≤ value.toInt ∧ value.toInt ≤ 2147483647 :=
    ⟨value.le_toInt, value.toInt_le⟩
  rw [toInt32?, int, toInt?, Numeral.toIntWithin?_ofInt bounds, Option.map_some, Int32.ofInt_toInt]

end Mailroom.Json
