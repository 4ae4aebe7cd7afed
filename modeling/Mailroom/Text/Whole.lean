/-!
# Whole numbers as text

A whole number is an optional sign and at least one ASCII digit. Reading goes from left to right
and stops at the first character that is not a digit or that carries the value past its limit, so
of two faults the one further left is reported.
-/

namespace Mailroom.Text

/-- Why a text is not a whole number of the wanted range. -/
inductive WholeError where
  /-- There is nothing to read. -/
  | empty
  /-- A character is not a digit, or a sign stands alone. -/
  | invalidDigit
  /-- The value lies above the range. -/
  | tooLarge
  /-- The value lies below the range. -/
  | tooSmall
  deriving DecidableEq, Repr

/-- The wording of the failure. -/
def WholeError.message : WholeError → String
  | .empty => "cannot parse integer from empty string"
  | .invalidDigit => "invalid digit found in string"
  | .tooLarge => "number too large to fit in target type"
  | .tooSmall => "number too small to fit in target type"

/-- Reads digits behind a value read so far; `beyond` is reported once the value passes `limit`. -/
def readDigits (limit : Nat) (beyond : WholeError) : Nat → List Char → Except WholeError Nat
  | value, [] => .ok value
  | value, c :: rest =>
    if c.isDigit then
      let next := value * 10 + (c.toNat - '0'.toNat)
      if next ≤ limit then readDigits limit beyond next rest else .error beyond
    else .error .invalidDigit

/-- Reads at least one digit. -/
def readMagnitude (limit : Nat) (beyond : WholeError) : List Char → Except WholeError Nat
  | [] => .error .invalidDigit
  | text => readDigits limit beyond 0 text

/-- Reads a number of 64 bits without sign; a plus is allowed. -/
def readUnsigned : List Char → Except WholeError UInt64
  | [] => .error .empty
  | '+' :: text => (readMagnitude 18446744073709551615 .tooLarge text).map UInt64.ofNat
  | text => (readMagnitude 18446744073709551615 .tooLarge text).map UInt64.ofNat

/-- Reads a number of 64 bits with an optional sign. -/
def readSigned : List Char → Except WholeError Int64
  | [] => .error .empty
  | '+' :: text => (readMagnitude 9223372036854775807 .tooLarge text).map fun n => Int64.ofInt n
  | '-' :: text => (readMagnitude 9223372036854775808 .tooSmall text).map fun n => Int64.ofInt (-n)
  | text => (readMagnitude 9223372036854775807 .tooLarge text).map fun n => Int64.ofInt n

/-- The digits of a number, after a minus if it is negative. -/
def writeSigned (value : Int64) : String :=
  if value.toInt < 0 then String.ofList ('-' :: Nat.toDigits 10 value.toInt.natAbs)
  else String.ofList (Nat.toDigits 10 value.toInt.natAbs)

end Mailroom.Text
