import Mailroom.Proofs.Text.Whole
import Mailroom.Proofs.Time.Calendar
import Mailroom.Time.Timestamp

/-!
# Timestamps are read back

What is written of an instant is read back to the nanosecond, if its year has four digits and it
lies in no leap second: `read?_write`. Each part of a timestamp is read off the front of what
follows it, so the text is taken apart in the order in which it was written.
-/

namespace Mailroom

namespace Timestamp

/-- The value of digits is the number that they spell. -/
theorem digitsValue_eq (digits : List Char) : digitsValue digits = Nat.ofDigitChars 10 digits 0 := by
  have all : ∀ start, digits.foldl (fun value c => value * 10 + (c.toNat - '0'.toNat)) start =
      Nat.ofDigitChars 10 digits start := by
    induction digits with
    | nil => exact fun start => rfl
    | cons c rest ih =>
      intro start
      rw [List.foldl_cons, Nat.ofDigitChars_cons, ih, Nat.mul_comm]
  exact all 0

/-- A padded number consists of digits. -/
theorem isDigit_of_mem_padded {count value : Nat} {c : Char} (held : c ∈ padded count value) :
    c.isDigit = true := by
  rcases List.mem_append.1 held with zero | digit
  · rw [(List.mem_replicate.1 zero).2]
    rfl
  · exact Nat.isDigit_of_mem_toDigits (by decide) (by decide) digit

/-- A padded number has as many digits as asked for, if there is room for it. -/
theorem length_padded {count value : Nat} (wanted : 0 < count) (room : value < 10 ^ count) :
    (padded count value).length = count := by
  have fits := (Nat.length_toDigits_le_iff (b := 10) (by decide) wanted).2 room
  rw [padded, List.length_append, List.length_replicate]
  omega

/-- A padded number has the value of the number. -/
theorem digitsValue_padded (count value : Nat) : digitsValue (padded count value) = value := by
  rw [digitsValue_eq, padded, Nat.ofDigitChars_append, Nat.ofDigitChars_replicate_zero, Nat.mul_zero,
    Nat.ofDigitChars_ten_toDigits]

/-- Digits in front are all taken, if they are as many as wanted or no digit follows. -/
theorem leadingDigits_append {most : Nat} {digits rest : List Char}
    (all : ∀ c ∈ digits, c.isDigit = true) (fits : digits.length ≤ most)
    (stops : digits.length = most ∨ ∀ c ∈ rest.head?, c.isDigit = false) :
    leadingDigits most (digits ++ rest) = digits := by
  have behind : (rest.take (most - digits.length)).takeWhile Char.isDigit = [] := by
    rcases stops with full | other
    · rw [full, Nat.sub_self]
      rfl
    · cases rest with
      | nil => rw [List.take_nil]; rfl
      | cons c rest =>
        cases most - digits.length with
        | zero => rfl
        | succ more =>
          have odd : ¬ c.isDigit = true := by simp [other c rfl]
          rw [List.take_succ_cons, List.takeWhile_cons_of_neg odd]
  rw [leadingDigits, List.take_append, List.take_of_length_le fits,
    List.takeWhile_append_of_pos all, behind, List.append_nil]

/-- A padded number has a digit. -/
theorem padded_ne_nil (count value : Nat) : padded count value ≠ [] := by
  intro empty
  rw [padded, List.append_eq_nil_iff] at empty
  exact Nat.toDigits_ne_nil empty.2

/-- A padded number in front is taken, if it is as long as wanted or no digit follows. -/
theorem leadingDigits_padded {most count value : Nat} {rest : List Char} (wanted : 0 < count)
    (room : value < 10 ^ count) (fits : count ≤ most)
    (stops : count = most ∨ ∀ c ∈ rest.head?, c.isDigit = false) :
    leadingDigits most (padded count value ++ rest) = padded count value := by
  have long := length_padded wanted room
  apply leadingDigits_append
  · exact fun c held => isDigit_of_mem_padded held
  · rw [long]
    exact fits
  · rw [long]
    exact stops

/-- A padded number is read off the front of what follows it. -/
theorem readNumber_padded {count value : Nat} (wanted : 0 < count) (room : value < 10 ^ count)
    (rest : List Char) : readNumber count (padded count value ++ rest) = some (value, rest) := by
  rw [readNumber, leadingDigits_padded wanted room (Nat.le_refl count) (.inl rfl),
    if_neg (padded_ne_nil count value), digitsValue_padded, List.drop_left]

/-- A padded number begins with a digit. -/
theorem exists_padded_eq_cons (count value : Nat) :
    ∃ c more, padded count value = c :: more ∧ c.isDigit = true := by
  obtain ⟨c, more, made⟩ := List.exists_cons_of_ne_nil (padded_ne_nil count value)
  have first : c ∈ padded count value := by
    rw [made]
    exact List.mem_cons_self
  exact ⟨c, more, made, isDigit_of_mem_padded first⟩

/-- Nothing is taken off a text that begins with a padded number. -/
theorem trimStart_padded (count value : Nat) (rest : List Char) :
    Text.trimStart (padded count value ++ rest) = padded count value ++ rest := by
  obtain ⟨c, more, made, digit⟩ := exists_padded_eq_cons count value
  rw [made]
  exact Text.trimStart_cons (Text.isBlank_of_isDigit digit) (more ++ rest)

/-- Two digits are read off the front. -/
theorem readTwo_padded {value : Nat} (room : value < 100) (rest : List Char) :
    readTwo (padded 2 value ++ rest) = some (value, rest) := by
  rw [readTwo, trimStart_padded]
  exact readNumber_padded (by decide) room rest

/-- A separator is read off the front. -/
theorem readMark_cons {mark : Char} (dark : Text.isBlank mark = false) (rest : List Char) :
    readMark mark (mark :: rest) = some rest := by
  rw [readMark, Text.trimStart_cons dark]
  exact if_pos rfl

/-- A year of four digits is read off the front. -/
theorem readYear_padded {year : Nat} (room : year < 10000) (rest : List Char) :
    readYear (padded 4 year ++ rest) = some ((year : Int), rest) := by
  have number : readNumber 4 (padded 4 year ++ rest) = some (year, rest) :=
    readNumber_padded (by decide) room rest
  obtain ⟨c, more, made, digit⟩ := exists_padded_eq_cons 4 year
  rw [readYear, trimStart_padded]
  rw [made, List.cons_append] at number ⊢
  split
  · rename_i negative
    cases negative
    cases digit
  · rename_i positive
    cases positive
    cases digit
  · rw [number]
    rfl

/-- A fraction of a second is read off the front, up to the mark behind it. -/
theorem readFraction_writeFraction {nanos : Nat} (below : nanos < 1000000000) (rest : List Char) :
    readFraction (writeFraction nanos ++ 'Z' :: rest) = some (nanos, 'Z' :: rest) := by
  have places : ∀ count value, 0 < count → count ≤ 9 → value < 10 ^ count →
      value * Nat.pow 10 (9 - count) = nanos →
        readFraction ('.' :: padded count value ++ 'Z' :: rest) = some (nanos, 'Z' :: rest) := by
    intro count value wanted most room whole
    have front : leadingDigits 9 (padded count value ++ 'Z' :: rest) = padded count value :=
      leadingDigits_padded wanted room most (.inr fun c first => by cases first; rfl)
    rw [List.cons_append, readFraction, front, if_neg (padded_ne_nil count value),
      digitsValue_padded, List.drop_left, length_padded wanted room, whole]
    rfl
  unfold writeFraction
  split
  · rename_i zero
    rw [zero]
    rfl
  · split
    · exact places 3 _ (by decide) (by decide) (by omega) (by show _ * 1000000 = _; omega)
    · split
      · exact places 6 _ (by decide) (by decide) (by omega) (by show _ * 1000 = _; omega)
      · exact places 9 _ (by decide) (by decide) (by omega) (by show _ * 1 = _; omega)

end Timestamp

namespace Instant

/-- The year in universal time. -/
def year (t : Instant) : Int := (Calendar.Date.ofDay (t.second / daySeconds)).year

/-- Instants whose year has four digits, outside leap seconds. -/
structure Common (t : Instant) : Prop where
  year_nonneg : 0 ≤ t.year
  year_le : t.year ≤ 9999
  nanos_lt : t.nanos < 1000000000

instance (t : Instant) : Decidable t.Common :=
  decidable_of_iff (0 ≤ t.year ∧ t.year ≤ 9999 ∧ t.nanos < 1000000000)
    ⟨fun ⟨low, high, plain⟩ => ⟨low, high, plain⟩,
      fun ⟨low, high, plain⟩ => ⟨low, high, plain⟩⟩

/-- An instant whose year has four digits can be represented, with any nanoseconds. -/
theorem inRange_of_year {t : Instant} (low : 0 ≤ t.year) (high : t.year ≤ 9999) : t.InRange := by
  obtain ⟨index, date, made, -⟩ := Calendar.Date.ofDay_eq (t.second / daySeconds)
  have year : t.year = Calendar.yearOf (t.second / daySeconds + Calendar.epoch) := by
    rw [Instant.year, made]
  have lies := Calendar.mem_yearOf (t.second / daySeconds + Calendar.epoch)
  rw [← year] at lies
  have starts := (Calendar.yearStart_near t.year).1
  have ends := (Calendar.yearStart_near (t.year + 1)).2
  have epoch : Calendar.epoch = 719528 := rfl
  have first : firstSecond = -8334601228800 := rfl
  have last : endSecond = 8210266876800 := rfl
  unfold InRange
  rw [first, last]
  rw [epoch] at lies
  unfold daySeconds at lies
  omega

end Instant

namespace Timestamp

/-- A timestamp with a year of four digits, part by part. -/
def spelled (year month day hour minute second nanos : Nat) : List Char :=
  padded 4 year ++ '-' :: (padded 2 month ++ '-' :: (padded 2 day ++ 'T' ::
    (padded 2 hour ++ ':' :: (padded 2 minute ++ ':' :: (padded 2 second ++
      (writeFraction nanos ++ ['Z']))))))

/-- A timestamp that is spelled part by part is read as what its parts make. -/
theorem read?_spelled {year month day hour minute second nanos : Nat} (years : year < 10000)
    (months : month < 100) (days : day < 100) (hours : hour < 100) (minutes : minute < 100)
    (seconds : second < 100) (fraction : nanos < 1000000000) :
    read? (spelled year month day hour minute second nanos) =
      assemble ⟨year, month, day⟩ hour minute second nanos 0 := by
  rw [spelled, read?, readYear_padded years]
  dsimp only [Option.bind_eq_bind, Option.bind_some]
  rw [readMark_cons rfl, Option.bind_some, readTwo_padded months, Option.bind_some,
    readMark_cons rfl, Option.bind_some, readTwo_padded days, Option.bind_some]
  simp only [decide_true, Bool.true_or, if_true]
  rw [readTwo_padded hours, Option.bind_some,
    readMark_cons rfl, Option.bind_some, readTwo_padded minutes, Option.bind_some,
    readMark_cons rfl, Option.bind_some, readTwo_padded seconds, Option.bind_some,
    readFraction_writeFraction fraction, Option.bind_some]
  rfl

/-- The time of day is less than a day. -/
theorem timeOfDay_lt (second : Int) : (second % Instant.daySeconds).toNat < 86400 := by
  unfold Instant.daySeconds
  omega

/-- A common instant is spelled by its date and time of day. -/
theorem write_of_common {t : Instant} (common : t.Common) :
    write t = spelled t.year.toNat
      (Calendar.Date.ofDay (t.second / Instant.daySeconds)).month
      (Calendar.Date.ofDay (t.second / Instant.daySeconds)).day
      ((t.second % Instant.daySeconds).toNat / 3600)
      ((t.second % Instant.daySeconds).toNat / 60 % 60)
      ((t.second % Instant.daySeconds).toNat % 60) t.nanos := by
  have leap : t.nanos / 1000000000 = 0 := Nat.div_eq_of_lt common.nanos_lt
  have rest : t.nanos % 1000000000 = t.nanos := Nat.mod_eq_of_lt common.nanos_lt
  have year : writeYear (Calendar.Date.ofDay (t.second / Instant.daySeconds)).year =
      padded 4 t.year.toNat :=
    if_pos ⟨common.year_nonneg, common.year_le⟩
  unfold write spelled
  dsimp only
  rw [leap, rest, year, Nat.add_zero]
  simp only [List.append_assoc, List.cons_append]

/-- A common instant is made of its date and time of day. -/
theorem assemble_of_common {t : Instant} (common : t.Common) :
    assemble (Calendar.Date.ofDay (t.second / Instant.daySeconds))
        ((t.second % Instant.daySeconds).toNat / 3600)
        ((t.second % Instant.daySeconds).toNat / 60 % 60)
        ((t.second % Instant.daySeconds).toNat % 60) t.nanos 0 = some t := by
  have time := timeOfDay_lt t.second
  have whole : t.second / Instant.daySeconds * Instant.daySeconds +
      ((t.second % Instant.daySeconds).toNat / 3600 * 3600 +
        (t.second % Instant.daySeconds).toNat / 60 % 60 * 60 +
          (t.second % Instant.daySeconds).toNat % 60 : Nat) = t.second := by
    unfold Instant.daySeconds at time ⊢
    omega
  have plain : (t.second % Instant.daySeconds).toNat % 60 ≠ 60 := by omega
  have inRange := Instant.inRange_of_year common.year_nonneg common.year_le
  unfold assemble
  simp only [if_neg plain, Calendar.Date.toDay_ofDay, whole, Int.sub_zero, Nat.add_zero]
  rw [dif_pos common.nanos_lt, if_pos]
  refine ⟨Calendar.Date.exists_ofDay _, by omega, by omega, by omega, by decide, ?_, inRange⟩
  exact inRange

/-- What is written of a common instant is read back. -/
theorem read?_write {t : Instant} (common : t.Common) : read? (write t) = some t := by
  have time := timeOfDay_lt t.second
  have month := Calendar.Date.month_ofDay_le (t.second / Instant.daySeconds)
  have day := Calendar.Date.day_ofDay_le (t.second / Instant.daySeconds)
  have year : t.year.toNat < 10000 := by
    have := common.year_le
    omega
  have back : ((t.year.toNat : Nat) : Int) = t.year := Int.toNat_of_nonneg common.year_nonneg
  rw [write_of_common common, read?_spelled year (by omega) (by omega) (by omega) (by omega)
    (by omega) common.nanos_lt, back]
  exact assemble_of_common common

example : write (.ofNanos 951782400120000000) = "2000-02-29T00:00:00.120Z".toList := by decide

end Timestamp

end Mailroom
