import Mailroom.Text.Blank
import Mailroom.Text.Whole
import Mathlib.Data.List.TakeWhile

/-!
# What is read as a whole number

Reading goes digit by digit and stops at the first that is too much, yet what it accepts can be said
of the text as a whole: an optional plus and digits, whose value is not beyond the limit. With
blanks taken off, it is the same with any blanks around it: `readUnsigned_trim_eq_ok_iff`. The
smallest number of 64 bits has no positive counterpart, but what is written of any number is read
back: `readSigned_writeSigned`.
-/

namespace Mailroom.Text

/-- A digit is not blank. -/
theorem isBlank_of_isDigit {c : Char} (digit : c.isDigit = true) : isBlank c = false := by
  have bounds : 48 ≤ c.toNat ∧ c.toNat ≤ 57 := by
    simpa [Char.isDigit, UInt32.le_iff_toNat_le] using digit
  simp only [isBlank, blankRanges, List.any_eq_false, Bool.and_eq_true, decide_eq_true_eq,
    List.mem_cons, List.not_mem_nil, or_false]
  rintro range (rfl | rfl | rfl | rfl | rfl | rfl | rfl | rfl | rfl | rfl) <;> omega

/-- Nothing is taken off a text that does not begin with a blank. -/
theorem trimStart_cons {c : Char} (dark : isBlank c = false) (rest : List Char) :
    trimStart (c :: rest) = c :: rest := by
  rw [trimStart, List.dropWhile_cons_of_neg (by simp [dark])]

/-! ## Blanks around a text -/

/-- A text with blanks around it. -/
def Padded (text body : List Char) : Prop :=
  ∃ front back, text = front ++ body ++ back ∧
    (∀ c ∈ front, isBlank c = true) ∧ ∀ c ∈ back, isBlank c = true

/-- Blanks in front are taken off before whatever follows. -/
theorem trimStart_append {front : List Char} (blank : ∀ c ∈ front, isBlank c = true)
    (rest : List Char) : trimStart (front ++ rest) = trimStart rest :=
  List.dropWhile_append_of_pos blank

/-- What is taken off the front is blank. -/
theorem exists_trimStart (text : List Char) :
    ∃ front, text = front ++ trimStart text ∧ ∀ c ∈ front, isBlank c = true :=
  ⟨text.takeWhile isBlank, List.takeWhile_append_dropWhile.symm,
    fun _ held => List.mem_takeWhile_imp held⟩

/-- Nothing is taken off a text without blanks. -/
theorem trimStart_of_dark {body : List Char} (dark : ∀ c ∈ body, isBlank c = false) :
    trimStart body = body := by
  cases body with
  | nil => rfl
  | cons c rest => exact trimStart_cons (dark c List.mem_cons_self) rest

/-- What is taken off both ends is blank. -/
theorem padded_trim (text : List Char) : Padded text (trim text) := by
  obtain ⟨front, split, blankFront⟩ := exists_trimStart text
  obtain ⟨back, splitBack, blankBack⟩ := exists_trimStart (trimStart text).reverse
  refine ⟨front, back.reverse, ?_, blankFront, fun c held => blankBack c (List.mem_reverse.1 held)⟩
  have whole : trimStart text = trim text ++ back.reverse := by
    rw [trim, ← List.reverse_append, ← splitBack, List.reverse_reverse]
  rw [List.append_assoc, ← whole]
  exact split

/-- Blanks around a text without blanks are taken off. -/
theorem trim_of_padded {text body : List Char} (padded : Padded text body)
    (dark : ∀ c ∈ body, isBlank c = false) : trim text = body := by
  obtain ⟨front, back, rfl, blankFront, blankBack⟩ := padded
  have start : (trimStart (front ++ body ++ back)).reverse =
      (trimStart (body ++ back)).reverse := by
    rw [List.append_assoc, trimStart_append blankFront]
  rw [trim, start]
  cases body with
  | nil =>
    have nothing : trimStart back = [] := by
      rw [← List.append_nil back, trimStart_append blankBack]
      rfl
    rw [List.nil_append, nothing]
    rfl
  | cons c rest =>
    have blank : ∀ c ∈ back.reverse, isBlank c = true :=
      fun c held => blankBack c (List.mem_reverse.1 held)
    have darkReverse : ∀ d ∈ (c :: rest).reverse, isBlank d = false :=
      fun d held => dark d (List.mem_reverse.1 held)
    rw [List.cons_append, trimStart_cons (dark c List.mem_cons_self), ← List.cons_append,
      List.reverse_append, trimStart_append blank, trimStart_of_dark darkReverse,
      List.reverse_reverse]

/-! ## Digits -/

/-- A text of at least one digit that spells a value. -/
structure Digits (text : List Char) (value : Nat) : Prop where
  nonempty : text ≠ []
  digit : ∀ c ∈ text, c.isDigit = true
  value : Nat.ofDigitChars 10 text 0 = value

/-- A text of an optional plus and digits that spells a value. -/
def Whole (text : List Char) (value : Nat) : Prop :=
  Digits text value ∨ ∃ digits, text = '+' :: digits ∧ Digits digits value

/-- The digits of a number spell it. -/
theorem digits_toDigits (n : Nat) : Digits (Nat.toDigits 10 n) n where
  nonempty := Nat.toDigits_ne_nil
  digit _ held := Nat.isDigit_of_mem_toDigits (by decide) (by decide) held
  value := Nat.ofDigitChars_ten_toDigits

/-- More digits never make the value smaller. -/
theorem le_ofDigitChars (value : Nat) (text : List Char) :
    value ≤ Nat.ofDigitChars 10 text value := by
  rw [Nat.ofDigitChars_eq_ofDigitChars_zero]
  have grown : 1 * value ≤ 10 ^ text.length * value :=
    Nat.mul_le_mul_right value (Nat.one_le_two_pow.trans (Nat.pow_le_pow_left (by decide) _))
  omega

variable {limit n : Nat} {beyond : WholeError} {text : List Char}

/-- Digits behind a value within the limit are accepted exactly if what they make of it is still
within the limit. -/
theorem readDigits_eq_ok_iff {value : Nat} (fits : value ≤ limit) :
    readDigits limit beyond value text = .ok n ↔
      (∀ c ∈ text, c.isDigit = true) ∧ Nat.ofDigitChars 10 text value = n ∧ n ≤ limit := by
  induction text generalizing value with
  | nil =>
    show Except.ok value = Except.ok n ↔ _
    rw [Except.ok.injEq]
    constructor
    · rintro rfl
      exact ⟨List.forall_mem_nil _, rfl, fits⟩
    · exact fun spelled => spelled.2.1
  | cons c rest ih =>
    rw [readDigits, List.forall_mem_cons, Nat.ofDigitChars_cons, Nat.mul_comm 10 value]
    by_cases digit : c.isDigit = true
    · rw [if_pos digit]
      dsimp only
      by_cases within : value * 10 + (c.toNat - '0'.toNat) ≤ limit
      · rw [if_pos within, ih within, and_assoc]
        exact (and_iff_right digit).symm
      · rw [if_neg within]
        -- No digit behind it brings a value back that is beyond the limit.
        refine iff_of_false nofun ?_
        rintro ⟨-, spelled, small⟩
        have grown := le_ofDigitChars (value * 10 + (c.toNat - '0'.toNat)) rest
        omega
    · rw [if_neg digit]
      exact iff_of_false nofun fun spelled => digit spelled.1.1

/-- At least one digit is accepted exactly if the value is within the limit. -/
theorem readMagnitude_eq_ok_iff :
    readMagnitude limit beyond text = .ok n ↔ Digits text n ∧ n ≤ limit := by
  cases text with
  | nil => exact iff_of_false nofun fun spelled => spelled.1.nonempty rfl
  | cons c rest =>
    show readDigits limit beyond 0 (c :: rest) = .ok n ↔ _
    rw [readDigits_eq_ok_iff (Nat.zero_le limit)]
    constructor
    · rintro ⟨digit, value, small⟩
      exact ⟨⟨List.cons_ne_nil c rest, digit, value⟩, small⟩
    · rintro ⟨spelled, small⟩
      exact ⟨spelled.digit, spelled.value, small⟩

/-- What a digit is not. -/
theorem Digits.ne_cons {c : Char} (spelled : Digits text n) (other : c.isDigit = false)
    (rest : List Char) : text ≠ c :: rest := by
  rintro rfl
  have digit := spelled.digit c List.mem_cons_self
  rw [other] at digit
  cases digit

/-! ## Numbers of 64 bits -/

/-- A number without sign has no blanks in it. -/
theorem Whole.dark (spelled : Whole text n) : ∀ c ∈ text, isBlank c = false := by
  rcases spelled with digits | ⟨rest, rfl, digits⟩
  · exact fun c held => isBlank_of_isDigit (digits.digit c held)
  · rw [List.forall_mem_cons]
    exact ⟨by decide, fun c held => isBlank_of_isDigit (digits.digit c held)⟩

/-- Digits are taken for a word of 64 bits exactly if they spell its value. -/
theorem map_readMagnitude_eq_ok_iff {word : UInt64} :
    (readMagnitude 18446744073709551615 beyond text).map UInt64.ofNat = .ok word ↔
      Digits text word.toNat := by
  have small : word.toNat ≤ 18446744073709551615 := Nat.le_of_lt_succ word.toNat_lt
  constructor
  · intro accepted
    cases read : readMagnitude 18446744073709551615 beyond text with
    | error reason =>
      rw [read] at accepted
      cases accepted
    | ok value =>
      obtain ⟨digits, fits⟩ := readMagnitude_eq_ok_iff.1 read
      rw [read] at accepted
      obtain rfl : UInt64.ofNat value = word := Except.ok.inj accepted
      rw [UInt64.toNat_ofNat_of_lt' (Nat.lt_succ_of_le fits)]
      exact digits
  · intro digits
    rw [readMagnitude_eq_ok_iff.2 ⟨digits, small⟩]
    exact congrArg Except.ok UInt64.ofNat_toNat

/-- A text is read as a number without sign exactly if it is an optional plus and digits of its
value. -/
theorem readUnsigned_eq_ok_iff {word : UInt64} :
    readUnsigned text = .ok word ↔ Whole text word.toNat := by
  unfold readUnsigned
  split
  · refine iff_of_false nofun ?_
    rintro (digits | ⟨rest, same, -⟩)
    · exact digits.nonempty rfl
    · cases same
  · rename_i rest
    rw [map_readMagnitude_eq_ok_iff]
    constructor
    · exact fun digits => .inr ⟨rest, rfl, digits⟩
    · rintro (digits | ⟨same, found, digits⟩)
      · exact absurd rfl (digits.ne_cons (by decide) rest)
      · cases found
        exact digits
  · rename_i signless
    rw [map_readMagnitude_eq_ok_iff]
    constructor
    · exact .inl
    · rintro (digits | ⟨rest, same, -⟩)
      · exact digits
      · exact absurd same (signless rest)

/-- With the blanks around it taken off, a text is read as a number without sign exactly if it is
blanks, an optional plus, digits of its value, and blanks. -/
theorem readUnsigned_trim_eq_ok_iff {word : UInt64} :
    readUnsigned (trim text) = .ok word ↔ ∃ body, Padded text body ∧ Whole body word.toNat := by
  rw [readUnsigned_eq_ok_iff]
  constructor
  · exact fun spelled => ⟨trim text, padded_trim text, spelled⟩
  · rintro ⟨body, padded, spelled⟩
    rw [trim_of_padded padded spelled.dark]
    exact spelled

/-- Digits without a sign are read as they stand. -/
theorem readSigned_of_digits (digits : Digits text n) :
    readSigned text =
      (readMagnitude 9223372036854775807 .tooLarge text).map fun n => Int64.ofInt n := by
  unfold readSigned
  split
  · exact absurd rfl digits.nonempty
  · exact absurd rfl (digits.ne_cons (by decide) _)
  · exact absurd rfl (digits.ne_cons (by decide) _)
  · rfl

/-- What is written of a number is read back, the smallest of 64 bits included. -/
theorem readSigned_writeSigned (value : Int64) :
    readSigned (writeSigned value).toList = .ok value := by
  have low := value.le_toInt
  have high := value.toInt_lt
  have digits := digits_toDigits value.toInt.natAbs
  unfold writeSigned
  split
  · rename_i negative
    have sign : -(value.toInt.natAbs : Int) = value.toInt := by omega
    rw [String.toList_ofList]
    show (readMagnitude 9223372036854775808 .tooSmall (Nat.toDigits 10 value.toInt.natAbs)).map
      (fun n => Int64.ofInt (-n)) = _
    rw [readMagnitude_eq_ok_iff.2 ⟨digits, by omega⟩]
    show Except.ok (Int64.ofInt (-(value.toInt.natAbs : Int))) = _
    rw [sign, Int64.ofInt_toInt]
  · rename_i natural
    have sign : (value.toInt.natAbs : Int) = value.toInt := by omega
    rw [String.toList_ofList, readSigned_of_digits digits,
      readMagnitude_eq_ok_iff.2 ⟨digits, by omega⟩]
    show Except.ok (Int64.ofInt (value.toInt.natAbs : Int)) = _
    rw [sign, Int64.ofInt_toInt]

/-- Different numbers are written differently. -/
theorem writeSigned_injective : Function.Injective writeSigned := by
  intro left right same
  have back := readSigned_writeSigned left
  rw [same, readSigned_writeSigned right] at back
  exact (Except.ok.inj back).symm

end Mailroom.Text
