import Mailroom.Decimal.Nearest
import Mailroom.Decimal.Shortest
import Mailroom.Time.Span

/-!
# Retry policies

A policy says how long to wait before another attempt. The delay grows with the number of
attempts up to a longest delay, and a jitter spreads it: the spread depends on the attempt alone,
so that the same attempt always waits the same time. Delays are computed in doubles, in whole
milliseconds, and the end result is cut to whole milliseconds that fit 64 bits.
-/

namespace Mailroom.Job

/-- How the delay grows with the number of attempts. -/
inductive Backoff where
  /-- Not at all. -/
  | fixed
  /-- It doubles with every attempt. -/
  | exponential
  /-- It grows by the base with every attempt. -/
  | linear
  deriving DecidableEq

namespace Backoff

/-- The name of the strategy in records. -/
def name : Backoff → String
  | .fixed => "fixed"
  | .exponential => "exponential"
  | .linear => "linear"

/-- The strategy of a name. -/
def ofName? (name : String) : Option Backoff :=
  [Backoff.fixed, .exponential, .linear].find? fun strategy => strategy.name = name

/-- A strategy as a choice without content. -/
def toJson (strategy : Backoff) : Json := .text strategy.name

/-- The strategy that a choice names. -/
def ofJson? (value : Json) : Option Backoff := do
  let (name, content) ← value.choice?
  if Json.isPlain content then ofName? name else none

end Backoff

/-- How long to wait between attempts. -/
structure RetryPolicy where
  /-- The delay that the growth starts from. -/
  base : Span
  /-- The delay that growth stops at. -/
  longest : Span
  /-- How the delay grows. -/
  strategy : Backoff
  /-- The part of the delay by which it is spread. -/
  jitter : Float

namespace RetryPolicy

/-- From a second up to an hour, doubling, spread by a tenth. -/
def standard : RetryPolicy := ⟨.ofSeconds 1, .ofSeconds 3600, .exponential, 0.1⟩

instance : Inhabited RetryPolicy := ⟨standard⟩

/-- Always the same delay, not spread. -/
def fixed (delay : Span) : RetryPolicy := ⟨delay, delay, .fixed, 0⟩

/-- A doubling delay, spread by a tenth. -/
def exponential (base longest : Span) : RetryPolicy := ⟨base, longest, .exponential, 0.1⟩

/-- The smaller of two doubles. -/
def least (x y : Float) : Float := if x ≤ y then x else y

/-- The delay before it is spread, in milliseconds. Doubling stops at the sixty-third attempt. -/
def growth (policy : RetryPolicy) (attempt : UInt32) : Float :=
  let base := Decimal.ofNat policy.base.millis
  let longest := Decimal.ofNat policy.longest.millis
  match policy.strategy with
  | .fixed => base
  | .exponential => least (base * Decimal.ofNat (Nat.pow 2 (min (attempt.toNat - 1) 62))) longest
  | .linear => least (base * Decimal.ofNat attempt.toNat) longest

/-- By how much a delay is spread: seventeen steps of a hundred for every attempt, around the
middle of the range. A range that is not positive spreads nothing. -/
def spread (policy : RetryPolicy) (attempt : UInt32) (delay : Float) : Float :=
  let range := delay * policy.jitter
  if range > 0 then
    let place := Decimal.ofNat (attempt.toNat * 17 % 100) / 100
    range * (place - 0.5) * 2
  else 0

/-- Milliseconds as a span: cut to a whole number, at least zero and at most what 64 bits hold. -/
def cut (millis : Float) : Span := .ofMillis (if millis > 0 then millis.toUInt64 else 0)

/-- The delay after an attempt, counted from one. There is none before the first attempt. -/
def delay (policy : RetryPolicy) (attempt : UInt32) : Span :=
  if attempt = 0 then .zero
  else
    let delay := policy.growth attempt
    cut (delay + policy.spread attempt delay)

/-- Jitter is written with a plain point for places from the fifth behind the point to the
sixteenth before it, and of two equally near decimals the even one. -/
def jitterStyle : Decimal.Style := ⟨-5, 16, .toEven⟩

/-- In what is shown, the plain point stops one place earlier behind the point, and of two equally
near decimals the greater one is taken. -/
def shownStyle : Decimal.Style := ⟨-4, 16, .up⟩

/-- The numeral of a finite double. -/
def jitterNumeral (jitter : Float) : Numeral :=
  let negative := decide (jitter.toBits ≥ 0x8000000000000000)
  if jitter == 0 then ⟨negative, 0, [0], none⟩
  else
    let d := Decimal.shortest jitterStyle.tie jitter.abs
    let value (digits : List Nat) : Nat := digits.foldl (fun value digit => value * 10 + digit) 0
    if jitterStyle.least < d.point ∧ d.point ≤ jitterStyle.most then
      if d.point ≤ 0 then
        ⟨negative, 0, List.replicate (-d.point).toNat 0 ++ d.digits, none⟩
      else if d.digits.length ≤ d.point.toNat then
        ⟨negative, value d.digits * Nat.pow 10 (d.point.toNat - d.digits.length), [0], none⟩
      else
        ⟨negative, value (d.digits.take d.point.toNat), d.digits.drop d.point.toNat, none⟩
    else ⟨negative, value (d.digits.take 1), d.digits.drop 1, some (d.point - 1)⟩

/-- A policy as a record. -/
def toJson (policy : RetryPolicy) : Json :=
  .record
    [("base_delay", policy.base.toJson),
     ("max_delay", policy.longest.toJson),
     ("strategy", policy.strategy.toJson),
     ("jitter", .number (jitterNumeral policy.jitter))]

/-- The policy that a record holds. -/
def ofJson? (value : Json) : Option RetryPolicy := do
  match ← value.fields? ["base_delay", "max_delay", "strategy", "jitter"] with
  | [base, longest, strategy, jitter] =>
    some
      { base := ← Json.required Span.ofJson? base
        longest := ← Json.required Span.ofJson? longest
        strategy := ← Json.required Backoff.ofJson? strategy
        jitter := ← Json.required Json.toFloat? jitter }
  | _ => none

end RetryPolicy

end Mailroom.Job
