/-!
# Doubles near decimals

A natural number is rounded to the nearest double, ties to even. A decimal is read in two steps,
as its reader in the record format does: the digits that fit a word of 64 bits are rounded to a
double, which is then multiplied or divided once by a power of ten. Digits past the word only
count as places. The result can differ from the nearest double in its last bit.
-/

namespace Mailroom.Decimal

/-- The double nearest to a natural number. Bits below the leading sixty-four matter only in
whether any of them is set, so they are gathered into the lowest. -/
def ofNat (n : Nat) : Float :=
  if n < UInt64.size then n.toUInt64.toFloat
  else
    let excess := n.log2 - 63
    let lead := n >>> excess
    let sticky := if n % Nat.pow 2 excess = 0 then lead else lead ||| 1
    sticky.toUInt64.toFloat.scaleB excess

/-- The double nearest to a power of ten. -/
def powerOfTen (exponent : Nat) : Float := Float.ofScientific 1 false exponent

/-- The digits of a decimal that fit a word, and the power of ten that stands for the others. -/
structure Significand where
  /-- The digits so far, as a number below `2 ^ 64`. -/
  value : Nat
  /-- Places passed without a digit, less the digits behind the point. -/
  exponent : Int

/-- Takes whole digits as long as they fit; each of the others counts one place. -/
def takeWhole : Nat → List Nat → Significand
  | value, [] => ⟨value, 0⟩
  | value, digit :: rest =>
    if value * 10 + digit < UInt64.size then takeWhole (value * 10 + digit) rest
    else ⟨value, rest.length + 1⟩

/-- Takes digits behind the point as long as they fit and leaves out the others. -/
def takeFraction : Significand → List Nat → Significand
  | s, [] => s
  | s, digit :: rest =>
    if s.value * 10 + digit < UInt64.size then
      takeFraction ⟨s.value * 10 + digit, s.exponent - 1⟩ rest
    else s

/-- Scales a double by a power of ten, in steps of at most 308 places downward; nothing if the
result is too large. Three steps take every double to zero. -/
def scale (value : Float) (exponent : Int) : Nat → Option Float
  | 0 => some value
  | steps + 1 =>
    if 0 ≤ exponent then
      if exponent ≤ 308 then
        let scaled := value * powerOfTen exponent.toNat
        if scaled.isInf then none else some scaled
      else if value == 0 then some value else none
    else if -308 ≤ exponent then some (value / powerOfTen (-exponent).toNat)
    else if value == 0 then some value
    else scale (value / powerOfTen 308) (exponent + 308) steps

/-- The double that a decimal with a point or an exponent, or with too many whole digits, is read
as, sign aside. Exponents past 31 bits give zero when negative and nothing when positive, unless
all digits are zero. -/
def read? (whole fraction : List Nat) (exponent : Option Int) : Option Float :=
  let s := takeFraction (takeWhole 0 whole) fraction
  let shift := exponent.getD 0
  if 2147483648 ≤ shift.natAbs then
    if 0 < shift ∧ s.value ≠ 0 then none else some 0
  else scale (ofNat s.value) (s.exponent + shift) 4

end Mailroom.Decimal
