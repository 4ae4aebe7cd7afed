import Mailroom.Time.Instant

/-!
# Instants and spans

Adding a span to an instant moves it forward, and a longer span moves it further: `lt_advance`,
`advance_mono`. Outside of leap seconds the sum is that of the nanoseconds. An instant within a leap
second stays there or leaves it, so the laws go by these three cases.
-/

namespace Mailroom.Instant

variable {t : Instant} {span shorter longer : Span}

/-- The place of an instant that is made from nanoseconds. -/
theorem rank_ofNanos (total : Int) :
    (ofNanos total).rank = total / 1000000000 * 2000000000 + total % 1000000000 := by
  have rest : 0 ≤ total % 1000000000 := Int.emod_nonneg total (by decide)
  unfold rank ofNanos
  dsimp only
  omega

/-- The nanoseconds that an instant was made from. -/
theorem toNanos_ofNanos (total : Int) : (ofNanos total).toNanos = total := by
  have rest : 0 ≤ total % 1000000000 := Int.emod_nonneg total (by decide)
  unfold toNanos ofNanos
  dsimp only
  omega

/-- Outside of leap seconds a sum is made from the nanoseconds. -/
theorem advance_of_common (common : t.nanos < 1000000000) (span : Span) :
    t.advance span = ofNanos (t.toNanos + span.nanos) :=
  if_neg (Nat.not_le.2 common)

/-- A sum that stays within a leap second is as much further there. -/
theorem rank_advance_of_stays (leap : 1000000000 ≤ t.nanos)
    (stays : t.nanos + span.nanos < 2000000000) : (t.advance span).rank = t.rank + span.nanos := by
  have within : t.advance span = ⟨t.second, t.nanos + span.nanos, stays⟩ := by
    rw [advance, if_pos leap, dif_pos stays]
  rw [within]
  unfold rank
  dsimp only
  omega

/-- A sum that leaves a leap second counts its nanoseconds. -/
theorem advance_of_leaves (leap : 1000000000 ≤ t.nanos)
    (leaves : ¬ t.nanos + span.nanos < 2000000000) :
    t.advance span =
      ofNanos (t.second * 1000000000 + (t.nanos - 1000000000 : Nat) + span.nanos) := by
  rw [advance, if_pos leap, dif_neg leaves]

/-- Outside of leap seconds a sum is that of the nanoseconds. -/
theorem toNanos_advance (common : t.nanos < 1000000000) (span : Span) :
    (t.advance span).toNanos = t.toNanos + span.nanos := by
  rw [advance_of_common common, toNanos_ofNanos]

/-- The place of an instant outside of leap seconds, by its nanoseconds. -/
theorem rank_of_common (common : t.nanos < 1000000000) :
    t.rank = t.toNanos / 1000000000 * 2000000000 + t.toNanos % 1000000000 := by
  unfold rank toNanos
  omega

/-- A sum that can be represented is found. -/
theorem add?_of_inRange (inRange : (t.advance span).InRange) :
    t.add? span = some (t.advance span) :=
  if_pos inRange

/-- A sum that cannot be represented is not found. -/
theorem add?_of_not_inRange (outside : ¬ (t.advance span).InRange) : t.add? span = none :=
  if_neg outside

/-- A longer span leads at least as far. -/
theorem advance_mono (t : Instant) (order : shorter.nanos ≤ longer.nanos) :
    t.advance shorter ≤ t.advance longer := by
  show (t.advance shorter).rank ≤ (t.advance longer).rank
  by_cases common : t.nanos < 1000000000
  · rw [advance_of_common common, advance_of_common common, rank_ofNanos, rank_ofNanos]
    omega
  have leap : 1000000000 ≤ t.nanos := Nat.not_lt.1 common
  by_cases far : t.nanos + longer.nanos < 2000000000
  · have near : t.nanos + shorter.nanos < 2000000000 := by omega
    rw [rank_advance_of_stays leap near, rank_advance_of_stays leap far]
    omega
  by_cases near : t.nanos + shorter.nanos < 2000000000
  · -- The longer span leaves the leap second, so it ends in a later second.
    rw [rank_advance_of_stays leap near, advance_of_leaves leap far, rank_ofNanos]
    unfold rank
    omega
  · rw [advance_of_leaves leap near, advance_of_leaves leap far, rank_ofNanos, rank_ofNanos]
    omega

/-- Any time at all leads further. -/
theorem lt_advance (t : Instant) (positive : 0 < span.nanos) : t < t.advance span := by
  show t.rank < (t.advance span).rank
  by_cases common : t.nanos < 1000000000
  · rw [rank_of_common common, advance_of_common common, rank_ofNanos]
    omega
  have leap : 1000000000 ≤ t.nanos := Nat.not_lt.1 common
  by_cases stays : t.nanos + span.nanos < 2000000000
  · rw [rank_advance_of_stays leap stays]
    omega
  · have bound := t.nanos_lt
    rw [advance_of_leaves leap stays, rank_ofNanos]
    unfold rank
    omega

/-- No time at all leads nowhere. -/
theorem advance_zero (t : Instant) : t.advance .zero = t := by
  apply rank_injective
  have none : Span.zero.nanos = 0 := rfl
  by_cases common : t.nanos < 1000000000
  · rw [advance_of_common common, rank_ofNanos, rank_of_common common, none]
    omega
  · have leap : 1000000000 ≤ t.nanos := Nat.not_lt.1 common
    have stays : t.nanos + Span.zero.nanos < 2000000000 := t.nanos_lt
    rw [rank_advance_of_stays leap stays, none]
    omega

end Mailroom.Instant
