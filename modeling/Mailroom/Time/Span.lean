import Mailroom.Json.Fields

/-!
# Spans of time

A span is a whole number of nanoseconds, less than `2 ^ 64` seconds. Its text takes the largest
unit in which it has a whole part and leaves out trailing zeros.
-/

namespace Mailroom

/-- A length of time. -/
structure Span where
  /-- The length in nanoseconds. -/
  nanos : Nat
  /-- The seconds fit a word of 64 bits. -/
  fits : nanos < 18446744073709551616 * 1000000000
  deriving DecidableEq

namespace Span

/-- Spans of the same length are equal. -/
@[ext] theorem ext {left right : Span} (h : left.nanos = right.nanos) : left = right := by
  cases left
  cases right
  cases h
  rfl

/-- No time at all. -/
def zero : Span := ⟨0, by decide⟩

instance : Inhabited Span := ⟨zero⟩

/-- A span from whole milliseconds. -/
def ofMillis (millis : UInt64) : Span :=
  ⟨millis.toNat * 1000000, by have := millis.toNat_lt; omega⟩

/-- A span from whole seconds. -/
def ofSeconds (seconds : UInt64) : Span :=
  ⟨seconds.toNat * 1000000000, by have := seconds.toNat_lt; omega⟩

/-- A span from seconds and nanoseconds, the latter carried into the former; nothing if the
seconds overflow. -/
def ofParts? (seconds : UInt64) (nanos : UInt32) : Option Span :=
  let total := seconds.toNat * 1000000000 + nanos.toNat
  if h : total < 18446744073709551616 * 1000000000 then some ⟨total, h⟩ else none

/-- The whole seconds. -/
def seconds (span : Span) : Nat := span.nanos / 1000000000

/-- The nanoseconds past the whole seconds. -/
def subNanos (span : Span) : Nat := span.nanos % 1000000000

/-- The whole milliseconds. -/
def millis (span : Span) : Nat := span.nanos / 1000000

/-- A span is put together again from its parts. -/
theorem ofParts?_parts (span : Span) :
    ofParts? (UInt64.ofNat span.seconds) (UInt32.ofNat span.subNanos) = some span := by
  have hf := span.fits
  have hs : (UInt64.ofNat span.seconds).toNat = span.seconds :=
    UInt64.toNat_ofNat_of_lt' (by simp only [seconds, UInt64.size]; omega)
  have hn : (UInt32.ofNat span.subNanos).toNat = span.subNanos :=
    UInt32.toNat_ofNat_of_lt' (by simp only [subNanos, UInt32.size]; omega)
  have total : span.seconds * 1000000000 + span.subNanos = span.nanos := by
    simp only [seconds, subNanos]
    omega
  unfold ofParts?
  rw [hs, hn, total, dif_pos hf]

/-- Digits behind a point, without the zeros at the end, for a fraction of `10 ^ places`. -/
def fractionText (fraction places : Nat) : List Char :=
  let digits := Nat.toDigits 10 fraction
  let padded := List.replicate (places - digits.length) '0' ++ digits
  let kept := (padded.reverse.dropWhile (· == '0')).reverse
  if kept = [] then [] else '.' :: kept

/-- A whole part, a fraction of `10 ^ places`, and a unit. -/
def unitText (whole fraction places : Nat) (unit : String) : String :=
  String.ofList (Nat.toDigits 10 whole ++ fractionText fraction places) ++ unit

/-- The span in its largest unit. -/
def text (span : Span) : String :=
  let n := span.nanos
  if 1000000000 ≤ n then unitText (n / 1000000000) (n % 1000000000) 9 "s"
  else if 1000000 ≤ n then unitText (n / 1000000) (n % 1000000) 6 "ms"
  else if 1000 ≤ n then unitText (n / 1000) (n % 1000) 3 "µs"
  else unitText n 0 0 "ns"

/-- A span as a record of seconds and nanoseconds. -/
def toJson (span : Span) : Json :=
  .record [("secs", .int span.seconds), ("nanos", .int span.subNanos)]

/-- The span of a record, which admits no other members. -/
def ofJson? (value : Json) : Option Span := do
  match ← value.closedFields? ["secs", "nanos"] with
  | [seconds, nanos] =>
    ofParts? (← Json.required Json.toUInt64? seconds) (← Json.required Json.toUInt32? nanos)
  | _ => none

end Span

end Mailroom
