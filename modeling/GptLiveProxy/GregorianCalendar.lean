import Mathlib.Data.Int.Notation
import Mathlib.Tactic.SplitIfs

/-!
# The Gregorian calendar

A civil date names a day that exists: its month and its day are in range. Dates are counted by the
successor, one day at a time, and every step leads to a later date, so the count of days is ordered
as the dates are.
-/

namespace Gregorian

def isLeap (year : Int) : Bool := year % 4 == 0 && (year % 100 != 0 || year % 400 == 0)

def daysInMonth (year : Int) : Nat → Nat
  | 2 => if isLeap year then 29 else 28
  | 4 | 6 | 9 | 11 => 30
  | _ => 31

theorem daysInMonth_pos (year : Int) (month : Nat) : 1 ≤ daysInMonth year month := by
  unfold daysInMonth
  split
  · split_ifs <;> omega
  all_goals omega

/-- Only February depends on the year. -/
theorem daysInMonth_of_ne (year year' : Int) {month : Nat} (h : month ≠ 2) :
    daysInMonth year month = daysInMonth year' month := by
  unfold daysInMonth
  split
  · exact absurd rfl h
  · rfl
  · rfl
  · rfl
  · rfl
  · rfl

@[ext] structure CivilDate where
  year : Int
  month : Nat
  day : Nat
  month_range : 1 ≤ month ∧ month ≤ 12
  day_range : 1 ≤ day ∧ day ≤ daysInMonth year month

namespace CivilDate
variable {a b c : CivilDate}

/-- The day after the date. -/
def next (date : CivilDate) : CivilDate :=
  if hday : date.day < daysInMonth date.year date.month then
    ⟨date.year, date.month, date.day + 1, date.month_range, by omega, hday⟩
  else if hmonth : date.month < 12 then
    ⟨date.year, date.month + 1, 1, by omega, Nat.le_refl 1, daysInMonth_pos _ _⟩
  else ⟨date.year + 1, 1, 1, by omega, Nat.le_refl 1, daysInMonth_pos _ _⟩

/-- The year, the month, and the day. -/
def fields (date : CivilDate) : Int × Nat × Nat := (date.year, date.month, date.day)

theorem fields_next_of_lt {date : CivilDate} (h : date.day < daysInMonth date.year date.month) :
    date.next.fields = (date.year, date.month, date.day + 1) := by
  rw [next, dif_pos h]
  rfl

theorem fields_next_of_month {date : CivilDate} (h : ¬ date.day < daysInMonth date.year date.month)
    (hmonth : date.month < 12) : date.next.fields = (date.year, date.month + 1, 1) := by
  rw [next, dif_neg h, dif_pos hmonth]
  rfl

theorem fields_next_of_year {date : CivilDate} (h : ¬ date.day < daysInMonth date.year date.month)
    (hmonth : ¬ date.month < 12) : date.next.fields = (date.year + 1, 1, 1) := by
  rw [next, dif_neg h, dif_neg hmonth]
  rfl

/-- 1970-01-01. -/
def epoch : CivilDate := ⟨1970, 1, 1, by omega, by decide⟩

/-- The date that many days after the epoch. -/
def ofDays : Nat → CivilDate
  | 0 => epoch
  | days + 1 => (ofDays days).next

/-- The order of the dates: by year, then by month, then by day. -/
def Before (a b : CivilDate) : Prop :=
  a.year < b.year ∨ a.year = b.year ∧ (a.month < b.month ∨ a.month = b.month ∧ a.day < b.day)

theorem Before.trans (hab : a.Before b) (hbc : b.Before c) : a.Before c := by
  unfold Before at *
  omega

theorem before_next (date : CivilDate) : date.Before date.next := by
  unfold Before next
  split_ifs
  · exact .inr ⟨rfl, .inr ⟨rfl, Nat.lt_succ_self _⟩⟩
  · exact .inr ⟨rfl, .inl (Nat.lt_succ_self _)⟩
  · exact .inl (Int.lt_succ _)

theorem ofDays_before {days days' : Nat} (h : days < days') : (ofDays days).Before (ofDays days') := by
  induction h with
  | refl => exact before_next _
  | step _ ih => exact ih.trans (before_next _)

theorem epoch_year_le (days : Nat) : 1970 ≤ (ofDays days).year := by
  rcases Nat.eq_zero_or_pos days with rfl | hpos
  · exact Int.le_refl 1970
  · have hbefore : epoch.Before (ofDays days) := ofDays_before hpos
    unfold Before at hbefore
    have hyear : epoch.year = 1970 := rfl
    omega

end CivilDate

end Gregorian
