import Mailroom.Text.Blank
import Mailroom.Time.Instant

/-!
# Timestamps

A timestamp is a date, a time of day and an offset from universal time, after RFC 3339. It is
written in universal time with the mark `Z` and as many fraction digits as the nanoseconds need,
in groups of three. Reading is wider: blanks may stand before a number, around the separators and
before the offset, leading zeros may be left out, a space may stand for the `T`, a year may carry
a sign and then any number of digits, and a word `UTC` may stand for the offset.
-/

namespace Mailroom.Timestamp

/-- A number in at least as many digits as asked for. -/
def padded (count value : Nat) : List Char :=
  let digits := Nat.toDigits 10 value
  List.replicate (count - digits.length) '0' ++ digits

/-- A year: four digits, or a sign and at least four digits outside the years 0 to 9999. -/
def writeYear (year : Int) : List Char :=
  if 0 ≤ year ∧ year ≤ 9999 then padded 4 year.toNat
  else (if year < 0 then '-' else '+') :: padded 4 year.natAbs

/-- The fraction of a second in as few groups of three digits as it needs. -/
def writeFraction (nanos : Nat) : List Char :=
  if nanos = 0 then []
  else if nanos % 1000000 = 0 then '.' :: padded 3 (nanos / 1000000)
  else if nanos % 1000 = 0 then '.' :: padded 6 (nanos / 1000)
  else '.' :: padded 9 nanos

/-- An instant in universal time. A leap second is written as the second after the fifty-ninth. -/
def write (t : Instant) : List Char :=
  let date := Calendar.Date.ofDay (t.second / Instant.daySeconds)
  let time := (t.second % Instant.daySeconds).toNat
  let leap := t.nanos / 1000000000
  writeYear date.year ++ '-' :: padded 2 date.month ++ '-' :: padded 2 date.day
    ++ 'T' :: padded 2 (time / 3600) ++ ':' :: padded 2 (time / 60 % 60)
    ++ ':' :: padded 2 (time % 60 + leap)
    ++ writeFraction (t.nanos % 1000000000) ++ ['Z']

/-- The number that digits spell. -/
def digitsValue (digits : List Char) : Nat :=
  digits.foldl (fun value c => value * 10 + (c.toNat - '0'.toNat)) 0

/-- The digits at the front, at most a given number of them. -/
def leadingDigits (most : Nat) (text : List Char) : List Char :=
  (text.take most).takeWhile Char.isDigit

/-- Reads at least one and at most a given number of digits. -/
def readNumber (most : Nat) (text : List Char) : Option (Nat × List Char) :=
  let digits := leadingDigits most text
  if digits = [] then none else some (digitsValue digits, text.drop digits.length)

/-- Reads a year: up to four digits, or a sign and any number of digits. -/
def readYear (text : List Char) : Option (Int × List Char) :=
  match Text.trimStart text with
  | '-' :: rest => (readNumber rest.length rest).map fun (year, rest) => (-(year : Int), rest)
  | '+' :: rest => (readNumber rest.length rest).map fun (year, rest) => ((year : Int), rest)
  | rest => (readNumber 4 rest).map fun (year, rest) => ((year : Int), rest)

/-- Reads one or two digits, blanks before them passed over. -/
def readTwo (text : List Char) : Option (Nat × List Char) := readNumber 2 (Text.trimStart text)

/-- Reads a separator, blanks before it passed over. -/
def readMark (mark : Char) (text : List Char) : Option (List Char) :=
  match Text.trimStart text with
  | c :: rest => if c = mark then some rest else none
  | [] => none

/-- Reads the fraction of a second as nanoseconds. Digits past the ninth are passed over. -/
def readFraction : List Char → Option (Nat × List Char)
  | '.' :: text => do
    let digits := leadingDigits 9 text
    if digits = [] then none
    else some (digitsValue digits * Nat.pow 10 (9 - digits.length),
      (text.drop digits.length).dropWhile Char.isDigit)
  | text => some (0, text)

/-- Reads exactly two digits, the first of them at most as given. -/
def readPair (most : Char) : List Char → Option (Nat × List Char)
  | a :: b :: rest =>
    if '0' ≤ a && a ≤ most && b.isDigit then some (digitsValue [a, b], rest) else none
  | _ => none

/-- Reads an offset as seconds east of universal time. -/
def readOffset (text : List Char) : Option (Int × List Char) := do
  let (sign, rest) : Int × List Char ← match text with
    | '+' :: rest => some (1, rest)
    | '-' :: rest => some (-1, rest)
    | '−' :: rest => some (-1, rest)
    | _ => none
  let (hours, rest) ← readPair '9' rest
  let (minutes, rest) ← readPair '5' (rest.dropWhile fun c => c = ':' || Text.isBlank c)
  some (sign * (hours * 3600 + minutes * 60 : Nat), rest)

/-- Reads the zone: the mark `Z`, the word `UTC` in any case, or an offset. -/
def readZone (text : List Char) : Option (Int × List Char) :=
  match Text.trimStart text with
  | 'Z' :: rest => some (0, rest)
  | 'z' :: rest => some (0, rest)
  | rest =>
    if (rest.take 3).map Char.toUpper = ['U', 'T', 'C'] then some (0, rest.drop 3)
    else readOffset rest

/-- The instant of a date, a time of day and an offset; nothing if there is no such date or time,
the offset is a day or more, or the instant cannot be represented. -/
def assemble (date : Calendar.Date) (hour minute second nanos : Nat) (offset : Int) :
    Option Instant :=
  let plain := if second = 60 then 59 else second
  let leap := if second = 60 then 1000000000 else 0
  if h : nanos < 1000000000 then
    let local_ : Int := date.toDay * Instant.daySeconds + (hour * 3600 + minute * 60 + plain : Nat)
    let t : Instant := ⟨local_ - offset, nanos + leap, by simp only [leap]; split <;> omega⟩
    let here : Instant := ⟨local_, 0, by decide⟩
    if date.exists ∧ hour < 24 ∧ minute < 60 ∧ second ≤ 60 ∧ offset.natAbs < 86400
        ∧ here.InRange ∧ t.InRange then some t
    else none
  else none

/-- The instant that a text names. -/
def read? (text : List Char) : Option Instant := do
  let (year, text) ← readYear text
  let text ← readMark '-' text
  let (month, text) ← readTwo text
  let text ← readMark '-' text
  let (day, text) ← readTwo text
  let text ← match text with
    | c :: rest => if c = 'T' || c = 't' || c = ' ' then some rest else none
    | [] => none
  let (hour, text) ← readTwo text
  let text ← readMark ':' text
  let (minute, text) ← readTwo text
  let text ← readMark ':' text
  let (second, text) ← readTwo text
  let (nanos, text) ← readFraction text
  let (offset, text) ← readZone text
  if Text.trimStart text = [] then assemble ⟨year, month, day⟩ hour minute second nanos offset
  else none

end Mailroom.Timestamp

namespace Mailroom.Instant

/-- An instant as a timestamp. -/
def toJson (t : Instant) : Json := .text (String.ofList (Timestamp.write t))

/-- The instant of a timestamp. -/
def ofJson? (value : Json) : Option Instant :=
  value.toText?.bind fun text => Timestamp.read? text.toList

end Mailroom.Instant
