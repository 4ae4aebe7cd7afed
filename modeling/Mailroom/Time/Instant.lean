import Mailroom.Time.Calendar
import Mailroom.Time.Span

/-!
# Instants

An instant is a second counted from the start of 1970 and nanoseconds past it. Nanoseconds of a
whole second or more mark a leap second, which lies between its second and the next. Instants are
represented from the year -262143 to the year 262142; what would lie outside is no instant, and
adding a span says so.
-/

namespace Mailroom

/-- A point in time. -/
structure Instant where
  /-- Seconds from the start of 1970. -/
  second : Int
  /-- Nanoseconds past the second; a whole second more during a leap second. -/
  nanos : Nat
  /-- A leap second is one second long. -/
  nanos_lt : nanos < 2000000000
  deriving DecidableEq

namespace Instant

/-- Instants with the same parts are equal. -/
@[ext] theorem ext {left right : Instant} (hs : left.second = right.second)
    (hn : left.nanos = right.nanos) : left = right := by
  cases left
  cases right
  cases hs
  cases hn
  rfl

/-- The place of an instant among all instants. -/
def rank (t : Instant) : Int := t.second * 2000000000 + t.nanos

instance : LE Instant := ⟨fun s t => s.rank ≤ t.rank⟩
instance : LT Instant := ⟨fun s t => s.rank < t.rank⟩
instance (s t : Instant) : Decidable (s ≤ t) := inferInstanceAs (Decidable (s.rank ≤ t.rank))
instance (s t : Instant) : Decidable (s < t) := inferInstanceAs (Decidable (s.rank < t.rank))

/-- Instants are told apart by their place. -/
theorem rank_injective {s t : Instant} (h : s.rank = t.rank) : s = t := by
  have hs := s.nanos_lt
  have ht := t.nanos_lt
  unfold rank at h
  exact ext (by omega) (by omega)

/-- The instant a number of nanoseconds after the start of 1970. -/
def ofNanos (total : Int) : Instant where
  second := total / 1000000000
  nanos := (total % 1000000000).toNat
  nanos_lt := by omega

/-- The instant a number of milliseconds after the start of 1970. -/
def ofMillis (millis : Int) : Instant := ofNanos (millis * 1000000)

/-- Nanoseconds since the start of 1970. -/
def toNanos (t : Instant) : Int := t.second * 1000000000 + t.nanos

/-- Whole milliseconds since the start of 1970. -/
def toMillis (t : Instant) : Int := t.toNanos / 1000000

instance : Inhabited Instant := ⟨ofNanos 0⟩

/-- Seconds in a day. -/
def daySeconds : Int := 86400

/-- The first second that can be represented. -/
def firstSecond : Int := (Calendar.Date.toDay ⟨-262143, 1, 1⟩) * daySeconds

/-- The first second that can no longer be represented. -/
def endSecond : Int := (Calendar.Date.toDay ⟨262143, 1, 1⟩) * daySeconds

/-- Whether an instant can be represented. -/
def InRange (t : Instant) : Prop := firstSecond ≤ t.second ∧ t.second < endSecond

instance (t : Instant) : Decidable t.InRange :=
  inferInstanceAs (Decidable (firstSecond ≤ t.second ∧ t.second < endSecond))

/-- A later instant, whether or not it can be represented. A span that stays within a leap second
only moves its nanoseconds; one that leaves it counts the leap second. -/
def advance (t : Instant) (span : Span) : Instant :=
  if 1000000000 ≤ t.nanos then
    if stays : t.nanos + span.nanos < 2000000000 then ⟨t.second, t.nanos + span.nanos, stays⟩
    else ofNanos (t.second * 1000000000 + (t.nanos - 1000000000 : Nat) + span.nanos)
  else ofNanos (t.toNanos + span.nanos)

/-- A later instant, if it can be represented. -/
def add? (t : Instant) (span : Span) : Option Instant :=
  let later := t.advance span
  if later.InRange then some later else none

/-- A whole number of seconds earlier; a negative number is later. -/
def earlier (t : Instant) (seconds : Int) : Instant := { t with second := t.second - seconds }

/-- Whole milliseconds from one instant to a later one, zero if it is not later. -/
def millisSince (later earlier : Instant) : Nat :=
  (later.toNanos - earlier.toNanos).toNat / 1000000

end Instant

/-- The longest delay that is taken at its word: `2 ^ 63 - 1` milliseconds. -/
def Span.longestDelay : Nat := 9223372036854775807 * 1000000

/-- The length of a delay. One that is too long to be taken at its word counts as none. -/
def Span.asDelay (span : Span) : Span := if span.nanos ≤ longestDelay then span else zero

end Mailroom
