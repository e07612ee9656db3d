import GptLiveProxy.FrameLog
import GptLiveProxy.GregorianCalendar
import Mathlib.Order.Monotone.Basic
import Mathlib.Tactic.NormNum

/-!
# The days of the civil calendar

`civil_from_days` cuts the days into eras of 400 years and counts its years from March, so that the
leap day is the last day of a year. The division that finds the year of an era is monotone and
right at the first and at the last day of every year, hence on every day; within a year the month
and the day are a table of 366 rows. One day later the table moves on as the calendar does.
-/

namespace GptLiveProxy
open Gregorian

section MarchYears

/-- The days of an era before a year that begins in March. -/
def yearStart (yoe : Nat) : Nat := 365 * yoe + yoe / 4 - yoe / 100

def yearLength (yoe : Nat) : Nat := if isLeap (yoe + 1) then 366 else 365

def yearOfEra (doe : Nat) : Nat := (doe - doe / 1460 + doe / 36524 - doe / 146096) / 365

theorem yearOfEra_le_succ (doe : Nat) : yearOfEra doe ≤ yearOfEra (doe + 1) := by
  unfold yearOfEra
  apply Nat.div_le_div_right
  omega

theorem yearOfEra_mono : Monotone yearOfEra := monotone_nat_of_le_succ yearOfEra_le_succ

/-- The division is right at both ends of every year. -/
theorem yearOfEra_ends {yoe : Nat} (h : yoe < 400) :
    yearOfEra (yearStart yoe) = yoe ∧ yearOfEra (yearStart yoe + (yearLength yoe - 1)) = yoe := by
  have hall : (List.range 400).all (fun yoe => yearOfEra (yearStart yoe) == yoe &&
      yearOfEra (yearStart yoe + (yearLength yoe - 1)) == yoe) = true := by decide +kernel
  simpa using List.all_eq_true.mp hall yoe (List.mem_range.mpr h)

theorem yearOfEra_eq {yoe doy : Nat} (hyoe : yoe < 400) (hdoy : doy < yearLength yoe) :
    yearOfEra (yearStart yoe + doy) = yoe := by
  obtain ⟨hfirst, hlast⟩ := yearOfEra_ends hyoe
  apply Nat.le_antisymm
  · calc yearOfEra (yearStart yoe + doy) ≤ yearOfEra (yearStart yoe + (yearLength yoe - 1)) :=
        yearOfEra_mono (by omega)
      _ = yoe := hlast
  · calc yoe = yearOfEra (yearStart yoe) := hfirst.symm
      _ ≤ yearOfEra (yearStart yoe + doy) := yearOfEra_mono (by omega)

theorem yearStart_succ {yoe : Nat} (h : yoe < 399) :
    yearStart (yoe + 1) = yearStart yoe + yearLength yoe := by
  unfold yearStart yearLength isLeap
  simp only [Bool.and_eq_true, Bool.or_eq_true, beq_iff_eq, bne_iff_ne]
  split_ifs <;> omega

theorem yearStart_last : yearStart 399 + yearLength 399 = 146097 := by decide

/-- Every day of an era is a day of one of its years. -/
theorem exists_yearOfEra {doe : Nat} (h : doe < 146097) :
    ∃ yoe doy, yoe < 400 ∧ doy < yearLength yoe ∧ doe = yearStart yoe + doy := by
  have hpos (yoe : Nat) : 0 < yearLength yoe := by
    unfold yearLength
    split_ifs <;> omega
  induction doe with
  | zero => exact ⟨0, 0, by omega, hpos 0, rfl⟩
  | succ doe ih =>
    obtain ⟨yoe, doy, hyoe, hdoy, rfl⟩ := ih (by omega)
    by_cases hwithin : doy + 1 < yearLength yoe
    · exact ⟨yoe, doy + 1, hyoe, hwithin, by omega⟩
    · have hlast : yoe ≠ 399 := by
        rintro rfl
        have hera := yearStart_last
        omega
      have hstart := yearStart_succ (show yoe < 399 by omega)
      exact ⟨yoe + 1, 0, by omega, hpos _, by omega⟩

end MarchYears

section MarchDays

def monthOf (doy : Nat) : Nat :=
  let mp := (5 * doy + 2) / 153
  if mp < 10 then mp + 3 else mp - 9

def dayOf (doy : Nat) : Nat := doy - (153 * ((5 * doy + 2) / 153) + 2) / 5 + 1

/-- One row of the table and the next, in a year that has its leap day. -/
def rowFollows (doy : Nat) : Bool :=
  if dayOf doy < daysInMonth 2000 (monthOf doy) then
    monthOf (doy + 1) == monthOf doy && dayOf (doy + 1) == dayOf doy + 1
  else monthOf (doy + 1) == monthOf doy % 12 + 1 && dayOf (doy + 1) == 1

theorem row_follows {doy : Nat} (h : doy < 365) : rowFollows doy = true := by
  have hall : (List.range 365).all rowFollows = true := by decide +kernel
  exact List.all_eq_true.mp hall doy (List.mem_range.mpr h)

theorem february_day {doy : Nat} (hdoy : doy < 366) (h : monthOf doy = 2) :
    dayOf doy + 336 = doy := by
  unfold monthOf at h
  unfold dayOf
  dsimp only at h
  split_ifs at h <;> omega

theorem february_last {doy : Nat} (hdoy : doy < 366) (h : 364 ≤ doy) : monthOf doy = 2 := by
  unfold monthOf
  dsimp only
  split_ifs <;> omega

def rowValid (doy : Nat) : Bool :=
  1 ≤ monthOf doy && monthOf doy ≤ 12 && 1 ≤ dayOf doy && dayOf doy ≤ daysInMonth 2000 (monthOf doy)

theorem row_valid {doy : Nat} (h : doy < 366) : rowValid doy = true := by
  induction doy with
  | zero => decide
  | succ doy ih =>
    have hvalid := ih (by omega)
    have hrow := row_follows (show doy < 365 by omega)
    simp only [rowValid, Bool.and_eq_true, decide_eq_true_eq] at hvalid ⊢
    rw [rowFollows] at hrow
    split_ifs at hrow with hin
    · simp only [Bool.and_eq_true, beq_iff_eq] at hrow
      rw [hrow.1, hrow.2]
      omega
    · simp only [Bool.and_eq_true, beq_iff_eq] at hrow
      have hpos := daysInMonth_pos 2000 (monthOf doy % 12 + 1)
      rw [hrow.1, hrow.2]
      omega

end MarchDays

section Calendar

/-- The conversion without machine integers, from days since the March of year 0. -/
def civil (z : Int) : Int × Nat × Nat :=
  let doe := (z % 146097).toNat
  let yoe := yearOfEra doe
  let doy := doe - yearStart yoe
  let year := yoe + 400 * (z / 146097)
  (if monthOf doy ≤ 2 then year + 1 else year, monthOf doy, dayOf doy)

theorem yearLength_le (yoe : Nat) : yearLength yoe ≤ 366 := by
  unfold yearLength
  split_ifs <;> omega

theorem yearStart_add_lt {yoe doy : Nat} (hyoe : yoe < 400) (hdoy : doy < yearLength yoe) :
    yearStart yoe + doy < 146097 := by
  have hlength := yearLength_le yoe
  by_cases hlast : yoe = 399
  · have hera := yearStart_last
    subst hlast
    omega
  · unfold yearStart
    omega

theorem civil_eq (era : Int) {yoe doy : Nat} (hyoe : yoe < 400) (hdoy : doy < yearLength yoe) :
    civil (146097 * era + ↑(yearStart yoe + doy)) =
      (if monthOf doy ≤ 2 then yoe + 400 * era + 1 else yoe + 400 * era, monthOf doy, dayOf doy) := by
  have hdoe := yearStart_add_lt hyoe hdoy
  have hmod : ((146097 * era + ↑(yearStart yoe + doy)) % 146097).toNat = yearStart yoe + doy := by
    omega
  have hdiv : (146097 * era + ↑(yearStart yoe + doy)) / 146097 = era := by omega
  have hyear := yearOfEra_eq hyoe hdoy
  have hday : yearStart yoe + doy - yearStart yoe = doy := by omega
  simp only [civil, hmod, hdiv, hyear, hday]

theorem exists_era (z : Int) :
    ∃ era : Int, ∃ yoe doy, yoe < 400 ∧ doy < yearLength yoe ∧
      z = 146097 * era + ↑(yearStart yoe + doy) := by
  obtain ⟨yoe, doy, hyoe, hdoy, hdoe⟩ :=
    exists_yearOfEra (show (z % 146097).toNat < 146097 by omega)
  exact ⟨z / 146097, yoe, doy, hyoe, hdoy, by omega⟩

theorem isLeap_of_era (era : Int) (yoe : Nat) :
    isLeap (yoe + 400 * era + 1) = isLeap ((yoe : Int) + 1) := by
  rw [Bool.eq_iff_iff]
  simp only [isLeap, Bool.and_eq_true, Bool.or_eq_true, beq_iff_eq, bne_iff_ne]
  omega

theorem exists_civil (z : Int) : ∃ date : CivilDate, civil z = date.fields := by
  obtain ⟨era, yoe, doy, hyoe, hdoy, rfl⟩ := exists_era z
  have hlength := yearLength_le yoe
  have hrow := row_valid (show doy < 366 by omega)
  simp only [rowValid, Bool.and_eq_true, decide_eq_true_eq] at hrow
  obtain ⟨⟨⟨hmonth, hmonth'⟩, hday⟩, hday'⟩ := hrow
  refine ⟨⟨if monthOf doy ≤ 2 then yoe + 400 * era + 1 else yoe + 400 * era, monthOf doy, dayOf doy,
    ⟨hmonth, hmonth'⟩, hday, ?_⟩, civil_eq era hyoe hdoy⟩
  by_cases hfeb : monthOf doy = 2
  · have hdays := february_day (show doy < 366 by omega) hfeb
    rw [if_pos (show monthOf doy ≤ 2 by omega), hfeb, daysInMonth, isLeap_of_era]
    rw [yearLength] at hdoy
    split_ifs at hdoy ⊢ <;> omega
  · rw [daysInMonth_of_ne _ 2000 hfeb]
    exact hday'

/-- A day that is not the last of its March year ends the month of any calendar year it can belong
to exactly when it ends the month of the table. -/
theorem day_lt_iff {yoe doy : Nat} {year : Int} (hwithin : doy + 1 < yearLength yoe)
    (hleap : monthOf doy = 2 → isLeap year = isLeap ((yoe : Int) + 1)) :
    dayOf doy < daysInMonth year (monthOf doy) ↔ dayOf doy < daysInMonth 2000 (monthOf doy) := by
  have hlength := yearLength_le yoe
  by_cases hfeb : monthOf doy = 2
  · have hday := february_day (show doy < 366 by omega) hfeb
    have htable : daysInMonth 2000 2 = 29 := by decide
    rw [hfeb, htable, daysInMonth, hleap hfeb]
    rw [yearLength] at hwithin
    split_ifs at hwithin ⊢ <;> omega
  · rw [daysInMonth_of_ne year 2000 hfeb]

/-- The day after the last of a March year is the first of March. -/
theorem civil_new_year (era : Int) {yoe doy : Nat} (hyoe : yoe < 400)
    (hlast : doy + 1 = yearLength yoe) :
    civil (146097 * era + ↑(yearStart yoe + doy) + 1) = (yoe + 400 * era + 1, 3, 1) := by
  have hfirst (era : Int) {yoe : Nat} (h : yoe < 400) :
      civil (146097 * era + ↑(yearStart yoe + 0)) = (yoe + 400 * era, 3, 1) := by
    rw [civil_eq era h (by unfold yearLength; split_ifs <;> omega)]
    rfl
  by_cases hend : yoe = 399
  · subst hend
    have hstart := yearStart_last
    have hzero : yearStart 0 = 0 := rfl
    have hsucc : 146097 * era + ↑(yearStart 399 + doy) + 1 =
        146097 * (era + 1) + ↑(yearStart 0 + 0) := by omega
    rw [hsucc, hfirst (era + 1) (by omega)]
    congr 1
    omega
  · have hstart := yearStart_succ (show yoe < 399 by omega)
    have hsucc : 146097 * era + ↑(yearStart yoe + doy) + 1 =
        146097 * era + ↑(yearStart (yoe + 1) + 0) := by omega
    rw [hsucc, hfirst era (by omega)]
    congr 1
    omega

theorem civil_succ {z : Int} {date : CivilDate} (h : civil z = date.fields) :
    civil (z + 1) = date.next.fields := by
  obtain ⟨era, yoe, doy, hyoe, hdoy, rfl⟩ := exists_era z
  have hlength := yearLength_le yoe
  rw [civil_eq era hyoe hdoy] at h
  obtain ⟨hyear, hfields⟩ := Prod.mk.inj h
  obtain ⟨hmonth, hday⟩ := Prod.mk.inj hfields
  have hleap (hfeb : monthOf doy = 2) : isLeap date.year = isLeap ((yoe : Int) + 1) := by
    rw [← isLeap_of_era era, ← hyear, if_pos (show monthOf doy ≤ 2 by omega)]
  by_cases hwithin : doy + 1 < yearLength yoe
  · have hsucc : 146097 * era + ↑(yearStart yoe + doy) + 1 =
        146097 * era + ↑(yearStart yoe + (doy + 1)) := by omega
    have hiff := day_lt_iff hwithin hleap
    rw [hmonth, hday, ← hmonth] at hiff
    have hrow := row_follows (show doy < 365 by omega)
    rw [hsucc, civil_eq era hyoe hwithin]
    rw [rowFollows, hday] at hrow
    split_ifs at hrow with hin
    · simp only [Bool.and_eq_true, beq_iff_eq] at hrow
      have hbefore : date.day < daysInMonth date.year date.month := hmonth ▸ hiff.mpr hin
      rw [CivilDate.fields_next_of_lt hbefore, hrow.1, hrow.2, hyear, hmonth]
    · simp only [Bool.and_eq_true, beq_iff_eq] at hrow
      have hend : ¬ date.day < daysInMonth date.year date.month := fun hbefore =>
        hin (hiff.mp (hmonth ▸ hbefore))
      have hrange := date.month_range
      by_cases hdecember : date.month < 12
      · have hfeb : monthOf doy ≠ 2 := by
          intro hfeb
          have hday' := february_day (show doy < 366 by omega) hfeb
          have htable : daysInMonth 2000 2 = 29 := by decide
          rw [hfeb, htable] at hin
          omega
        have hnext : monthOf doy % 12 + 1 = monthOf doy + 1 := by omega
        have hsame : monthOf doy + 1 ≤ 2 ↔ monthOf doy ≤ 2 := by omega
        rw [CivilDate.fields_next_of_month hend hdecember, hrow.1, hrow.2, ← hyear, ← hmonth, hnext]
        simp only [hsame]
      · have hmonth' : monthOf doy = 12 := by omega
        rw [CivilDate.fields_next_of_year hend hdecember, hrow.1, hrow.2, ← hyear, hmonth']
        rfl
  · -- the last day of a March year is the last day of February
    have hfeb := february_last (show doy < 366 by omega) (by
      rw [yearLength] at hdoy hwithin
      split_ifs at hdoy hwithin <;> omega)
    have hday' := february_day (show doy < 366 by omega) hfeb
    have hend : ¬ date.day < daysInMonth date.year date.month := by
      rw [← hday, ← hmonth, hfeb, daysInMonth, hleap hfeb]
      rw [yearLength] at hwithin
      split_ifs at hwithin ⊢ <;> omega
    rw [civil_new_year era hyoe (by omega), CivilDate.fields_next_of_month hend (by omega), ← hyear,
      ← hmonth, hfeb]
    rfl

/-- The conversion counts the days of the calendar. -/
theorem civil_ofDays (days : Nat) : civil (719468 + days) = (CivilDate.ofDays days).fields := by
  induction days with
  | zero =>
    have hstart : (719468 + (0 : Nat) : Int) = 146097 * 4 + ↑(yearStart 369 + 306) := by decide
    rw [hstart, civil_eq 4 (by omega) (show 306 < yearLength 369 by decide)]
    rfl
  | succ days ih =>
    have hstep : (719468 + (days + 1 : Nat) : Int) = 719468 + days + 1 := by omega
    rw [hstep]
    exact civil_succ ih

end Calendar

section MachineArithmetic

theorem i64_eq {n : Int} (hlow : -2 ^ 63 ≤ n) (hhigh : n < 2 ^ 63) : i64 n = .ok n :=
  if_pos ⟨hlow, hhigh⟩

theorem u64_eq {n : Int} {k : Nat} (h : n = k) (hk : k < 2 ^ 64) : u64 n = .ok k := by
  subst h
  exact if_pos (by omega)

theorem asI64_of_lt {n : Nat} (h : n < 2 ^ 63) : asI64 n = n :=
  Int.bmod_eq_of_le (by omega) (by omega)

theorem asU64_of_nonneg {n : Int} (hlow : 0 ≤ n) (hhigh : n < 2 ^ 64) : asU64 n = n.toNat := by
  unfold asU64
  rw [Int.emod_eq_of_lt hlow hhigh]

theorem asU32_of_lt {n : Nat} (h : n < 2 ^ 32) : asU32 n = n := Nat.mod_eq_of_lt h

/-- The truncating division finds the era of a day before year 0 as well. -/
theorem era_eq (z : Int) : (if 0 ≤ z then z else z - 146096).tdiv 146097 = z / 146097 := by
  rw [Int.tdiv_eq_ediv]
  simp only [Int.dvd_iff_emod_eq_zero, show Int.sign 146097 = 1 from rfl]
  split_ifs <;> omega

theorem monthOf_le {doy : Nat} (h : doy < 366) : monthOf doy ≤ 12 := by
  unfold monthOf
  dsimp only
  split_ifs <;> omega

theorem month_eq {doy : Nat} (h : doy < 366) :
    (if (5 * doy + 2) / 153 < 10 then u64 (((5 * doy + 2) / 153 : Nat) + 3)
      else u64 (((5 * doy + 2) / 153 : Nat) - 9)) = .ok (monthOf doy) := by
  unfold monthOf
  dsimp only
  split_ifs
  · exact u64_eq (by omega) (by omega)
  · exact u64_eq (by omega) (by omega)

theorem year_eq {month : Nat} {year : Int} (hmonth : month ≤ 12) (hlow : -2 ^ 62 < year)
    (hhigh : year < 2 ^ 62) :
    (if asU32 month ≤ 2 then i64 (year + 1) else .ok year : Outcome Empty Int) =
      .ok (if month ≤ 2 then year + 1 else year) := by
  rw [asU32_of_lt (by omega)]
  split_ifs
  · exact i64_eq (by omega) (by omega)
  · rfl

/-- No step of the conversion leaves the machine integers. -/
theorem civilFromDays_eq {days : Int} (hlow : -2 ^ 63 ≤ days) (hhigh : days + 719468 < 2 ^ 63) :
    civilFromDays days = .ok (civil (days + 719468)) := by
  have hz := i64_eq (show -2 ^ 63 ≤ days + 719468 by omega) hhigh
  unfold civilFromDays civil
  rw [hz, Outcome.ok_bind]
  have hlow' : -2 ^ 63 + 719468 ≤ days + 719468 := by omega
  generalize days + 719468 = z at *
  have hshifted : (if 0 ≤ z then .ok z else i64 (z - 146096) : Outcome Empty Int) =
      .ok (if 0 ≤ z then z else z - 146096) := by
    split_ifs
    · rfl
    · exact i64_eq (by omega) (by omega)
  obtain ⟨yoe, doy, hyoe, hdoy, hdoe⟩ :=
    exists_yearOfEra (show (z % 146097).toNat < 146097 by omega)
  have hlength := yearLength_le yoe
  have hyear := yearOfEra_eq hyoe hdoy
  have hstart : yearStart yoe + (yoe / 100) = 365 * yoe + yoe / 4 := by
    unfold yearStart
    omega
  have hday : z - z / 146097 * 146097 = (yearStart yoe + doy : Nat) := by omega
  rw [hshifted, Outcome.ok_bind, era_eq]
  dsimp only
  rw [i64_eq (by omega) (by omega), Outcome.ok_bind, hday, i64_eq (by omega) (by omega),
    Outcome.ok_bind, asU64_of_nonneg (by omega) (by omega), Int.toNat_natCast, hdoe, hyear,
    Nat.add_sub_cancel_left]
  have hmonth := month_eq (show doy < 366 by omega)
  have hbound := monthOf_le (show doy < 366 by omega)
  have hyears := year_eq hbound (show -2 ^ 62 < (yoe : Int) + z / 146097 * 400 by omega) (by omega)
  have hdoe' : yearStart yoe + doy < 146097 := by omega
  generalize hd : yearStart yoe + doy = doe at *
  rw [yearOfEra] at hyear
  rw [u64_eq (k := doe - doe / 1460) (by omega) (by omega), Outcome.ok_bind,
    u64_eq (k := doe - doe / 1460 + doe / 36524) (by omega) (by omega), Outcome.ok_bind,
    u64_eq (k := doe - doe / 1460 + doe / 36524 - doe / 146096) (by omega) (by omega),
    Outcome.ok_bind, hyear, asI64_of_lt (by omega), i64_eq (by omega) (by omega), Outcome.ok_bind,
    i64_eq (by omega) (by omega), Outcome.ok_bind, u64_eq (k := 365 * yoe) (by omega) (by omega),
    Outcome.ok_bind, u64_eq (k := 365 * yoe + yoe / 4) (by omega) (by omega), Outcome.ok_bind,
    u64_eq (k := yearStart yoe) (by omega) (by omega), Outcome.ok_bind,
    u64_eq (k := doy) (by omega) (by omega), Outcome.ok_bind,
    u64_eq (k := 5 * doy) (by omega) (by omega), Outcome.ok_bind,
    u64_eq (k := 5 * doy + 2) (by omega) (by omega), Outcome.ok_bind,
    u64_eq (k := 153 * ((5 * doy + 2) / 153)) (by omega) (by omega), Outcome.ok_bind,
    u64_eq (k := 153 * ((5 * doy + 2) / 153) + 2) (by omega) (by omega), Outcome.ok_bind,
    u64_eq (k := doy - (153 * ((5 * doy + 2) / 153) + 2) / 5) (by omega) (by omega),
    Outcome.ok_bind, u64_eq (k := dayOf doy) (by unfold dayOf; omega) (by unfold dayOf; omega),
    Outcome.ok_bind, hmonth, Outcome.ok_bind, hyears, Outcome.ok_bind, asU32_of_lt (by omega),
    asU32_of_lt (by unfold dayOf; omega), Int.mul_comm]
  rfl

theorem civilFromDays_ofDays {days : Nat} (h : days < 2 ^ 63 - 719468) :
    civilFromDays days = .ok (CivilDate.ofDays days).fields := by
  rw [civilFromDays_eq (by omega) (by omega), Int.add_comm, civil_ofDays]

end MachineArithmetic

end GptLiveProxy
