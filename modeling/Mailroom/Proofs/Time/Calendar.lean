import Mathlib
import Mailroom.Time.Calendar

/-!
# Dates and days

Every day lies in the year that is found for it, in one of its months, and every date found is one
of the calendar: `toDay_ofDay` says that the date of a day is the date of that day and no other.
-/

namespace Mailroom.Calendar

/-- How many days a year has. -/
def yearLength (leap : Bool) : Nat := if leap then 366 else 365

/-- A year ends where the next one starts. -/
theorem yearStart_succ (year : Int) :
    yearStart (year + 1) = yearStart year + yearLength (isLeap year) := by
  unfold yearStart yearLength isLeap
  by_cases fourth : year % 4 = 0 <;> by_cases hundredth : year % 100 = 0 <;>
    by_cases last : year % 400 = 0 <;> simp [fourth, hundredth, last] <;> omega

/-- Years start close to the multiples of the mean year, of which 400 have 146097 days. -/
theorem yearStart_near (year : Int) :
    146097 * year - 400 < 400 * yearStart year ∧ 400 * yearStart year < 146097 * year + 700 := by
  unfold yearStart
  omega

/-- A day lies in the year that is found for it. -/
theorem mem_yearOf (day : Int) :
    yearStart (yearOf day) ≤ day ∧ day < yearStart (yearOf day + 1) := by
  unfold yearOf
  have guess : 146097 * (day * 400 / 146097) ≤ day * 400 ∧
      day * 400 < 146097 * (day * 400 / 146097) + 146097 := by omega
  generalize day * 400 / 146097 = year at guess ⊢
  have before := yearStart_near (year - 1)
  have here := yearStart_near (year + 1)
  have after := yearStart_near (year + 1 + 1)
  dsimp only
  split
  · rename_i early
    rw [show year - 1 + 1 = year by omega]
    omega
  · split <;> omega

/-- What is found for a day of the year: a month, by its place in the list of lengths, with the days
before it and the day in it. -/
theorem monthOf_spec {lengths : List Nat} {rest : Nat} (inside : rest < lengths.sum)
    (month : Nat) :
    ∃ index date, monthOf lengths month rest = (month + index, date + 1) ∧
      index < lengths.length ∧ date < lengths.getD index 0 ∧
        (lengths.take index).sum + date = rest := by
  induction lengths generalizing month rest with
  | nil => cases inside
  | cons length lengths ih =>
    rw [monthOf]
    rw [List.sum_cons] at inside
    by_cases first : rest < length
    · exact ⟨0, rest, by rw [if_pos first]; rfl, Nat.succ_pos _, first, Nat.zero_add rest⟩
    · have behind : rest - length < lengths.sum := by omega
      obtain ⟨index, date, found, known, short, whole⟩ := ih behind (month + 1)
      refine ⟨index + 1, date, ?_, Nat.succ_lt_succ known, short, ?_⟩
      · rw [if_neg first, found, Nat.add_assoc, Nat.add_comm 1]
      · rw [List.take_succ_cons, List.sum_cons]
        omega

/-- The months of a year make up the year. -/
theorem sum_monthLengths (leap : Bool) : (monthLengths leap).sum = yearLength leap := by
  cases leap <;> rfl

/-- No month has more than 31 days. -/
theorem getD_monthLengths_le (leap : Bool) (index : Nat) :
    (monthLengths leap).getD index 0 ≤ 31 := by
  by_cases known : index < 12
  · have all : ∀ leap : Bool, ∀ index < 12, (monthLengths leap).getD index 0 ≤ 31 := by decide
    exact all leap index known
  · have short : (monthLengths leap).length ≤ index := by
      show 12 ≤ index
      omega
    rw [List.getD_eq_getElem?_getD, List.getElem?_eq_none short]
    exact Nat.zero_le 31

namespace Date

/-- What a date says of the day that it was made of: the year that the day lies in, a month, by its
place in the list of lengths, and the days in it. -/
theorem ofDay_eq (day : Int) :
    ∃ index date, ofDay day = ⟨yearOf (day + epoch), index + 1, date + 1⟩ ∧ index < 12 ∧
      date < (monthLengths (isLeap (yearOf (day + epoch)))).getD index 0 ∧
        yearStart (yearOf (day + epoch)) +
          (((monthLengths (isLeap (yearOf (day + epoch)))).take index).sum + date : Nat) =
            day + epoch := by
  obtain ⟨starts, ends⟩ := mem_yearOf (day + epoch)
  rw [yearStart_succ] at ends
  have inside : (day + epoch - yearStart (yearOf (day + epoch))).toNat <
      (monthLengths (isLeap (yearOf (day + epoch)))).sum := by
    rw [sum_monthLengths]
    omega
  obtain ⟨index, date, found, known, short, whole⟩ := monthOf_spec inside 1
  refine ⟨index, date, ?_, known, short, by omega⟩
  rw [ofDay]
  dsimp only
  rw [found, Nat.add_comm 1]

/-- The date of a day is that day's. -/
theorem toDay_ofDay (day : Int) : (ofDay day).toDay = day := by
  obtain ⟨index, date, made, -, -, whole⟩ := ofDay_eq day
  rw [made, toDay, daysBefore, Nat.add_sub_cancel, Nat.add_sub_cancel, ← List.sum_eq_foldl]
  dsimp only
  omega

/-- The date of a day is a date of the calendar. -/
theorem exists_ofDay (day : Int) : (ofDay day).exists = true := by
  obtain ⟨index, date, made, -, short, -⟩ := ofDay_eq day
  rw [made, Date.exists, monthLength, if_neg (Nat.succ_ne_zero index), Nat.add_sub_cancel]
  simp only [Bool.and_eq_true, decide_eq_true_eq]
  omega

/-- The months of a year are twelve. -/
theorem month_ofDay_le (day : Int) : (ofDay day).month ≤ 12 := by
  obtain ⟨index, date, made, known, -⟩ := ofDay_eq day
  rw [made]
  exact known

/-- No month has more than 31 days. -/
theorem day_ofDay_le (day : Int) : (ofDay day).day ≤ 31 := by
  obtain ⟨index, date, made, -, short, -⟩ := ofDay_eq day
  have longest := getD_monthLengths_le (isLeap (yearOf (day + epoch))) index
  rw [made]
  exact Nat.le_trans short longest

end Date

end Mailroom.Calendar
