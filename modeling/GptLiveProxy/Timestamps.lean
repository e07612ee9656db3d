import GptLiveProxy.CivilDays
import GptLiveProxy.FixedWidth

/-!
# Timestamps

A timestamp is total: every number of seconds since the Unix epoch has a date, and no step of the
arithmetic leaves the machine integers. Up to year 9999 every field keeps its width, so the text is
the RFC 3339 text of the instant, and texts are ordered as instants are.
-/

namespace GptLiveProxy
open CharText Gregorian

section Instants

/-- A time of a day that exists, at millisecond resolution. -/
structure UtcTime where
  date : CivilDate
  hour : Nat
  minute : Nat
  second : Nat
  millis : Nat
  hour_lt : hour < 24
  minute_lt : minute < 60
  second_lt : second < 60
  millis_lt : millis < 1000

/-- The `date-time` of RFC 3339 with the offset `Z` and three digits of `time-secfrac`. -/
def UtcTime.rfc3339 (t : UtcTime) : Text :=
  numeral 4 t.date.year.toNat ++ '-' :: (numeral 2 t.date.month ++ '-' ::
    (numeral 2 t.date.day ++ 'T' :: (numeral 2 t.hour ++ ':' :: (numeral 2 t.minute ++ ':' ::
      (numeral 2 t.second ++ '.' :: (numeral 3 t.millis ++ ['Z']))))))

def SinceEpoch.utc (now : SinceEpoch) : UtcTime where
  date := CivilDate.ofDays (now.secs / 86400)
  hour := now.secs % 86400 / 3600
  minute := now.secs % 3600 / 60
  second := now.secs % 60
  millis := now.millis
  hour_lt := by omega
  minute_lt := by omega
  second_lt := by omega
  millis_lt := now.millis_lt

def SinceEpoch.Earlier (now later : SinceEpoch) : Prop :=
  now.secs < later.secs ∨ now.secs = later.secs ∧ now.millis < later.millis

end Instants

section Rendering

theorem zeroPadded_eq_numeral {width n : Nat} (hpos : 0 < width) (hn : n < 10 ^ width) :
    zeroPadded width n = numeral width n := by
  rw [zeroPadded, if_neg (by omega), Int.natAbs_natCast]
  exact zeroFilled_eq_numeral hpos hn

theorem civilFromDays_secs (now : SinceEpoch) :
    civilFromDays (asI64 (now.secs / 86400)) = .ok now.utc.date.fields := by
  have hsecs := now.secs_lt
  rw [asI64_of_lt (by omega)]
  exact civilFromDays_ofDays (by omega)

theorem timestamp_eq (now : SinceEpoch) :
    timestamp now = .ok (zeroPadded 4 now.utc.date.year ++ '-' ::
      (zeroPadded 2 now.utc.date.month ++ '-' :: (zeroPadded 2 now.utc.date.day ++ 'T' ::
        (zeroPadded 2 ↑(now.secs % 86400 / 3600) ++ ':' ::
          (zeroPadded 2 ↑(now.secs % 86400 % 3600 / 60) ++ ':' ::
            (zeroPadded 2 ↑(now.secs % 86400 % 60) ++ '.' ::
              (zeroPadded 3 now.millis ++ ['Z']))))))) := by
  rw [timestamp, civilFromDays_secs]
  rfl

theorem day_le (date : CivilDate) : date.day ≤ 31 := by
  have hday := date.day_range
  have hmonth : daysInMonth date.year date.month ≤ 31 := by
    unfold daysInMonth
    split
    · split_ifs <;> omega
    all_goals omega
  omega

/-- Up to year 9999 the text is that of RFC 3339. -/
theorem timestamp_eq_rfc3339 {now : SinceEpoch} (h : now.utc.date.year ≤ 9999) :
    timestamp now = .ok now.utc.rfc3339 := by
  have hyear : 1970 ≤ now.utc.date.year := CivilDate.epoch_year_le _
  have hmonth := now.utc.date.month_range
  have hday := day_le now.utc.date
  have hmillis := now.millis_lt
  have hminute : now.secs % 86400 % 3600 = now.secs % 3600 := by omega
  have hsecond : now.secs % 86400 % 60 = now.secs % 60 := by omega
  rw [timestamp_eq, hminute, hsecond,
    show now.utc.date.year = (now.utc.date.year.toNat : Int) by omega,
    zeroPadded_eq_numeral (by omega) (by omega), zeroPadded_eq_numeral (by omega) (by omega),
    zeroPadded_eq_numeral (by omega) (by omega), zeroPadded_eq_numeral (by omega) (by omega),
    zeroPadded_eq_numeral (by omega) (by omega), zeroPadded_eq_numeral (by omega) (by omega),
    zeroPadded_eq_numeral (by omega) (by omega)]
  rfl

end Rendering

section Order
variable {now later : SinceEpoch}

theorem fields_of_earlier (h : now.Earlier later) :
    now.utc.date.Before later.utc.date ∨ now.utc.date = later.utc.date ∧
      (now.utc.hour < later.utc.hour ∨ now.utc.hour = later.utc.hour ∧
        (now.utc.minute < later.utc.minute ∨ now.utc.minute = later.utc.minute ∧
          (now.utc.second < later.utc.second ∨ now.utc.second = later.utc.second ∧
            now.utc.millis < later.utc.millis))) := by
  unfold SinceEpoch.Earlier at h
  by_cases hdays : now.secs / 86400 < later.secs / 86400
  · exact .inl (CivilDate.ofDays_before hdays)
  · have hsame : now.secs / 86400 = later.secs / 86400 := by omega
    refine .inr ⟨congrArg CivilDate.ofDays hsame, ?_⟩
    simp only [SinceEpoch.utc]
    omega

theorem rfc3339_strLt (hyear : later.utc.date.year ≤ 9999) (h : now.Earlier later) :
    strLt now.utc.rfc3339 later.utc.rfc3339 := by
  have hepoch : 1970 ≤ now.utc.date.year := CivilDate.epoch_year_le _
  have hmonth := later.utc.date.month_range
  have hday := day_le later.utc.date
  have hhour := later.utc.hour_lt
  have hminute := later.utc.minute_lt
  have hsecond := later.utc.second_lt
  have hmillis := later.utc.millis_lt
  unfold UtcTime.rfc3339
  rcases fields_of_earlier h with hbefore | ⟨hsame, htime⟩
  · have hdate : now.utc.date.year.toNat < later.utc.date.year.toNat ∨
        now.utc.date.year.toNat = later.utc.date.year.toNat ∧
          (now.utc.date.month < later.utc.date.month ∨
            now.utc.date.month = later.utc.date.month ∧ now.utc.date.day < later.utc.date.day) := by
      unfold CivilDate.Before at hbefore
      omega
    refine strLt_field '-' (by omega) (hdate.imp_right fun ⟨hyears, hdate⟩ => ⟨hyears, ?_⟩)
    refine strLt_field '-' (by omega) (hdate.imp_right fun ⟨hmonths, hdate⟩ => ⟨hmonths, ?_⟩)
    exact strLt_field 'T' (by omega) (.inl hdate)
  · rw [hsame]
    refine strLt_field '-' (by omega) (.inr ⟨rfl, ?_⟩)
    refine strLt_field '-' (by omega) (.inr ⟨rfl, ?_⟩)
    refine strLt_field 'T' (by omega) (.inr ⟨rfl, ?_⟩)
    refine strLt_field ':' (by omega) (htime.imp_right fun ⟨hhours, htime⟩ => ⟨hhours, ?_⟩)
    refine strLt_field ':' (by omega) (htime.imp_right fun ⟨hminutes, htime⟩ => ⟨hminutes, ?_⟩)
    refine strLt_field '.' (by omega) (htime.imp_right fun ⟨hseconds, htime⟩ => ⟨hseconds, ?_⟩)
    exact strLt_field 'Z' (by omega) (.inl htime)

theorem rfc3339_strLt_iff (hyear : now.utc.date.year ≤ 9999) (hyear' : later.utc.date.year ≤ 9999) :
    strLt now.utc.rfc3339 later.utc.rfc3339 ↔ now.Earlier later := by
  refine ⟨fun h => ?_, rfc3339_strLt hyear'⟩
  by_contra hnot
  unfold SinceEpoch.Earlier at hnot
  by_cases hsame : now.secs = later.secs ∧ now.millis = later.millis
  · have hequal : now = later := by
      cases now
      cases later
      cases hsame.1
      cases hsame.2
      rfl
    subst hequal
    exact strLt_irrefl _ h
  · have hlater : later.Earlier now := by
      unfold SinceEpoch.Earlier
      omega
    exact strLt_asymm h (rfc3339_strLt hyear hlater)

end Order

section Correctness

/-- Timestamps are total, name the instant, and are ordered as instants are up to year 9999. -/
theorem timestamp_names_the_instant :
    civilFromDays 0 = .ok (1970, 1, 1) ∧
    (∀ days : Int, -2 ^ 63 ≤ days → days + 719468 < 2 ^ 63 - 1 → ∃ date : CivilDate,
      civilFromDays days = .ok date.fields ∧ civilFromDays (days + 1) = .ok date.next.fields) ∧
    (∀ now : SinceEpoch, ∃ date : CivilDate, date = CivilDate.ofDays (now.secs / 86400) ∧
      civilFromDays (asI64 (now.secs / 86400)) = .ok date.fields ∧
      ∃ text, timestamp now = .ok text ∧
        (date.year ≤ 9999 → ∃ t : UtcTime, text = t.rfc3339 ∧ t.date = date ∧
          now.secs = now.secs / 86400 * 86400 + t.hour * 3600 + t.minute * 60 + t.second ∧
          now.millis = t.millis)) ∧
    ∀ now later : SinceEpoch, (CivilDate.ofDays (now.secs / 86400)).year ≤ 9999 →
      (CivilDate.ofDays (later.secs / 86400)).year ≤ 9999 → ∃ text text',
        timestamp now = .ok text ∧ timestamp later = .ok text' ∧
        (strLt text text' ↔ now.Earlier later) := by
  refine ⟨by decide +kernel, ?_, ?_, ?_⟩
  · intro days hlow hhigh
    obtain ⟨date, hdate⟩ := exists_civil (days + 719468)
    refine ⟨date, ?_, ?_⟩
    · rw [civilFromDays_eq hlow (by omega), hdate]
    · have hstep : days + 1 + 719468 = days + 719468 + 1 := by omega
      rw [civilFromDays_eq (by omega) (by omega), hstep, civil_succ hdate]
  · intro now
    refine ⟨_, rfl, civilFromDays_secs now, _, timestamp_eq now, ?_⟩
    intro hyear
    have htext := Outcome.ok.inj ((timestamp_eq now).symm.trans (timestamp_eq_rfc3339 hyear))
    refine ⟨now.utc, htext, rfl, ?_, rfl⟩
    simp only [SinceEpoch.utc]
    omega
  · intro now later hyear hyear'
    exact ⟨_, _, timestamp_eq_rfc3339 hyear, timestamp_eq_rfc3339 hyear',
      rfc3339_strLt_iff hyear hyear'⟩

theorem ofDays_year (days : Nat) : (CivilDate.ofDays days).year = (civil (719468 + days)).1 := by
  rw [civil_ofDays]
  rfl

def leapInstant : SinceEpoch := ⟨1709210096, 789, by omega, by omega⟩

def marchInstant : SinceEpoch := ⟨1709251200, 0, by omega, by omega⟩

theorem timestamp_names_the_leap_day :
    (∃ date : CivilDate, civilFromDays 19782 = .ok date.fields ∧
      civilFromDays 19783 = .ok date.next.fields) ∧
    (∃ date : CivilDate, date = CivilDate.ofDays 19782 ∧ civilFromDays 19782 = .ok date.fields ∧
      ∃ text, timestamp leapInstant = .ok text ∧ ∃ t : UtcTime, text = t.rfc3339 ∧ t.date = date ∧
        1709210096 = 19782 * 86400 + t.hour * 3600 + t.minute * 60 + t.second ∧ 789 = t.millis) ∧
    ∃ text text', timestamp leapInstant = .ok text ∧ timestamp marchInstant = .ok text' ∧
      strLt text text' := by
  have hyear : (CivilDate.ofDays 19782).year ≤ 9999 := by
    rw [ofDays_year]
    decide +kernel
  have hyear' : (CivilDate.ofDays 19783).year ≤ 9999 := by
    rw [ofDays_year]
    decide +kernel
  refine ⟨timestamp_names_the_instant.2.1 19782 (by omega) (by omega), ?_, ?_⟩
  · obtain ⟨date, hdate, hfields, text, htext, hrender⟩ :=
      timestamp_names_the_instant.2.2.1 leapInstant
    have hdays : leapInstant.secs / 86400 = 19782 := by decide
    have hcast : asI64 19782 = 19782 := asI64_of_lt (by omega)
    rw [hdays] at hdate hfields
    rw [hcast] at hfields
    exact ⟨date, hdate, hfields, text, htext, hrender (hdate ▸ hyear)⟩
  · obtain ⟨text, text', htext, htext', horder⟩ :=
      timestamp_names_the_instant.2.2.2 leapInstant marchInstant hyear hyear'
    exact ⟨text, text', htext, htext', horder.mpr (.inl (by decide))⟩

end Correctness

end GptLiveProxy
