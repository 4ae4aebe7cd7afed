/-!
# Shortest decimals

The shortest decimal of a double has the fewest digits that still read back as that double, and
of those it is the nearest. A finite double is `m * 2 ^ q`; the reals that round to it form an
interval, whose ends belong to it exactly when `m` is even. For one digit, two digits and so on,
the two neighbours of the double on the grid of decimals with that many digits are tested.
Where both read back and lie equally near, a `Tie` chooses. `Style` holds what a format decides:
the tie and the layout of the digits.
-/

namespace Mailroom.Decimal

/-- A double as an integer times a power of two. -/
structure Binary where
  /-- The integer. -/
  mantissa : Nat
  /-- The power of two. -/
  exponent : Int
  /-- Whether the next double below is only half a step away. -/
  narrowBelow : Bool

/-- Takes a finite double apart, sign aside. -/
def Binary.ofFloat (x : Float) : Binary :=
  let bits := x.toBits.toNat
  let field : Nat := bits / 4503599627370496 % 2048
  let low : Nat := bits % 4503599627370496
  if field = 0 then ⟨low, -1074, false⟩
  else ⟨4503599627370496 + low, (field : Int) - 1075, decide (low = 0 ∧ 1 < field)⟩

/-- A decimal: `0.d₁d₂… * 10 ^ point` for digits `d₁d₂…`. -/
structure Digits where
  /-- The digits, the first of them not zero. -/
  digits : List Nat
  /-- The place of the point counted from the first digit. -/
  point : Int

/-- A positive fraction with a common denominator for a double and the ends of its interval. -/
structure Interval where
  /-- The lower end, times the denominator. -/
  low : Nat
  /-- The double, times the denominator. -/
  value : Nat
  /-- The upper end, times the denominator. -/
  high : Nat
  /-- The common denominator. -/
  scale : Nat
  /-- Whether the ends belong to the interval. -/
  closed : Bool

/-- The reals that round to a double. -/
def Interval.ofBinary (b : Binary) : Interval :=
  let up := Nat.pow 2 b.exponent.toNat
  { low := (4 * b.mantissa - (if b.narrowBelow then 1 else 2)) * up
    value := 4 * b.mantissa * up
    high := (4 * b.mantissa + 2) * up
    scale := 4 * Nat.pow 2 (-b.exponent).toNat
    closed := b.mantissa % 2 = 0 }

/-- Whether the fraction `num / den` rounds to the double. -/
def Interval.contains (i : Interval) (num den : Nat) : Bool :=
  let x := num * i.scale
  if i.closed then i.low * den ≤ x && x ≤ i.high * den
  else i.low * den < x && x < i.high * den

/-- How many decimal digits a number has; none for zero. -/
def width (n : Nat) : Nat := if n = 0 then 0 else (Nat.toDigits 10 n).length

/-- The place of the point for a positive fraction: `10 ^ (p - 1) ≤ num / den < 10 ^ p`. -/
def pointOf (num den : Nat) : Int :=
  if den ≤ num then width (num / den) else 1 - (width ((den + num - 1) / num - 1) : Int)

/-- Which of two decimals stands for a double halfway between them. -/
inductive Tie where
  /-- The one whose last digit is even. -/
  | toEven
  /-- The greater one. -/
  | up
  deriving DecidableEq

/-- The choice between a number and the next one. -/
def Tie.choose (tie : Tie) (below : Nat) : Nat :=
  match tie with
  | .toEven => if below % 2 = 0 then below else below + 1
  | .up => below + 1

/-- The neighbour of the double on the grid of `count` digits that lies nearer and rounds to it. -/
def Interval.onGrid (i : Interval) (tie : Tie) (point : Int) (count : Nat) : Option Nat :=
  let place := point - count
  let up := Nat.pow 10 place.toNat
  let down := Nat.pow 10 (-place).toNat
  let below := i.value * down / (i.scale * up)
  let okBelow := decide (0 < below) && i.contains (below * up) down
  let okAbove := i.contains ((below + 1) * up) down
  let twice := 2 * (i.value * down)
  let middle := (2 * below + 1) * (i.scale * up)
  if okBelow && okAbove then
    if twice < middle then some below
    else if middle < twice then some (below + 1)
    else some (tie.choose below)
  else if okBelow then some below
  else if okAbove then some (below + 1)
  else none

/-- Takes zeros off the end. -/
def dropZeros (digits : List Nat) : List Nat := (digits.reverse.dropWhile (· == 0)).reverse

/-- The shortest digits of a positive finite double; seventeen always suffice. -/
def shortest (tie : Tie) (x : Float) : Digits :=
  let i := Interval.ofBinary (Binary.ofFloat x)
  let point := pointOf i.value i.scale
  let found := (List.range 17).findSome? fun n =>
    (i.onGrid tie point (n + 1)).map fun d => (d, n + 1)
  match found with
  | some (d, count) =>
    let digits := (Nat.toDigits 10 d).map fun c => c.toNat - '0'.toNat
    ⟨dropZeros digits, point + (digits.length - count : Int)⟩
  | none => ⟨[], 0⟩

/-- What a format decides about shortest digits: they are written with a plain point while the
place of the point is above `least` and at most `most`, and with an exponent otherwise. -/
structure Style where
  /-- The last place of the point that is too small for a plain point. -/
  least : Int
  /-- The last place of the point that a plain point is written for. -/
  most : Int
  /-- Which of two equally near decimals is written. -/
  tie : Tie

/-- The digits as characters. -/
def shown (digits : List Nat) : List Char := digits.map Nat.digitChar

/-- Digits laid out with a plain point; a zero stands on a side of the point without digits. -/
def Digits.plain (d : Digits) : List Char :=
  if d.point ≤ 0 then
    ['0', '.'] ++ List.replicate (-d.point).toNat '0' ++ shown d.digits
  else if d.digits.length ≤ d.point.toNat then
    shown d.digits ++ List.replicate (d.point.toNat - d.digits.length) '0' ++ ['.', '0']
  else
    shown (d.digits.take d.point.toNat) ++ '.' :: shown (d.digits.drop d.point.toNat)

/-- Digits laid out as one digit, the others behind a point, and an exponent. -/
def Digits.scientific (d : Digits) : List Char :=
  let power := d.point - 1
  let mark := if power < 0 then ['e', '-'] else ['e']
  let tail := match d.digits.drop 1 with
    | [] => []
    | rest => '.' :: shown rest
  shown (d.digits.take 1) ++ tail ++ mark ++ Nat.toDigits 10 power.natAbs

/-- A finite double in a style. -/
def Style.write (style : Style) (x : Float) : List Char :=
  let sign := if x.toBits ≥ 0x8000000000000000 then ['-'] else []
  if x == 0 then sign ++ ['0', '.', '0']
  else
    let d := shortest style.tie x.abs
    if style.least < d.point ∧ d.point ≤ style.most then sign ++ d.plain
    else sign ++ d.scientific

end Mailroom.Decimal
