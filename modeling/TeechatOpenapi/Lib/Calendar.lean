import Mathlib.Logic.Function.Iterate
import Mathlib.Algebra.Order.Ring.Int

/-!
# The Gregorian calendar

A date is followed by the next day of its month, or by the first day of the next month or year.  The number of a day
counts the steps from 1970-01-01; it is also given by a closed formula, in which a year starts with March, so that the
leap day is its last day.
-/

namespace TeechatOpenapi.Lib

/-- Leap years. -/
def IsLeap (year : Int) : Prop := year % 4 = 0 ∧ (year % 100 ≠ 0 ∨ year % 400 = 0)

instance : DecidablePred IsLeap := fun _ => inferInstanceAs (Decidable (_ ∧ _))

/-- The number of days of a month. -/
def monthLength (year : Int) (month : Nat) : Nat :=
  if month = 4 ∨ month = 6 ∨ month = 9 ∨ month = 11 then 30
  else if month = 2 then if IsLeap year then 29 else 28
  else 31

/-- A date of the calendar. -/
structure Date where
  year : Int
  month : Nat
  day : Nat
  month_pos : 1 ≤ month
  month_le : month ≤ 12
  day_pos : 1 ≤ day
  day_le : day ≤ monthLength year month

def Date.epoch : Date := ⟨1970, 1, 1, by decide, by decide, by decide, by decide⟩

lemma monthLength_pos (year : Int) (month : Nat) : 1 ≤ monthLength year month := by
  unfold monthLength
  split_ifs <;> decide

/-- The date after a date. -/
def Date.next (d : Date) : Date :=
  if hday : d.day < monthLength d.year d.month then
    ⟨d.year, d.month, d.day + 1, d.month_pos, d.month_le, Nat.le_add_left 1 d.day, hday⟩
  else if hmonth : d.month < 12 then
    ⟨d.year, d.month + 1, 1, Nat.le_add_left 1 d.month, hmonth, le_rfl, monthLength_pos _ _⟩
  else ⟨d.year + 1, 1, 1, le_rfl, by decide, le_rfl, monthLength_pos _ _⟩

/-- A date is `n` days after 1970-01-01; where `n` is negative, it is before. -/
def DaysAfterEpoch (d : Date) (n : Int) : Prop :=
  (∃ k : Nat, n = k ∧ Date.next^[k] .epoch = d) ∨ ∃ k : Nat, n = -k ∧ Date.next^[k] d = .epoch

/-- The date is before another. -/
def Date.Before (d e : Date) : Prop :=
  d.year < e.year ∨ d.year = e.year ∧ (d.month < e.month ∨ d.month = e.month ∧ d.day < e.day)

lemma Date.before_trichotomy (d e : Date) : d.Before e ∨ d = e ∨ e.Before d := by
  rcases d with ⟨y, m, n, _, _, _, _⟩
  rcases e with ⟨y', m', n', _, _, _, _⟩
  simp only [Date.Before, Date.mk.injEq]
  omega

/-- The days of the years before a year that starts with March, from the year 0 on. -/
def daysOfYears (y : Int) : Int := y * 365 + y / 4 - y / 100 + y / 400

/-- The days of the months before a month, counted from March. -/
def daysOfMonths (month : Nat) : Nat := (153 * (if 2 < month then month - 3 else month + 9) + 2) / 5

/-- The days since 1970-01-01. -/
def dayNumber (year : Int) (month day : Nat) : Int :=
  daysOfYears (if month ≤ 2 then year - 1 else year) + (daysOfMonths month + day - 1) - 719468

lemma daysOfYears_eq_era (y : Int) :
    daysOfYears y = y / 400 * 146097 + (y % 400 * 365 + y % 400 / 4 - y % 400 / 100) := by
  unfold daysOfYears
  omega

lemma tdiv_era (y : Int) : (if 0 ≤ y then y else y - 399).tdiv 400 = y / 400 := by
  split_ifs with h
  · exact Int.tdiv_eq_ediv_of_nonneg h
  · have hneg : (y - 399).tdiv 400 = -((399 - y) / 400) := by
      rw [← Int.tdiv_eq_ediv_of_nonneg (by omega), ← Int.neg_tdiv, Int.neg_sub]
    omega

lemma shiftedYear_bounds {year hi : Int} (hyear : 0 ≤ year) (hle : year ≤ hi) (month : Nat) :
    -1 ≤ (if month ≤ 2 then year - 1 else year) ∧ (if month ≤ 2 then year - 1 else year) ≤ hi := by
  split_ifs <;> omega

lemma shiftedMonth_bounds {month hi : Nat} (hle : month ≤ hi) (hhi : 11 ≤ hi) :
    0 ≤ (if 2 < month then (month : Int) - 3 else month + 9) ∧
      (if 2 < month then (month : Int) - 3 else month + 9) ≤ hi ∧
      ((if 2 < month then (month : Int) - 3 else month + 9) = 0 ↔ month = 3) := by
  split_ifs <;> omega

/-- The number of a day, by eras and from the months counted from March. -/
lemma dayNumber_eq_civil (year : Int) (month day : Nat) :
    let y := if month ≤ 2 then year - 1 else year
    let shiftedMonth : Int := if 2 < month then (month : Int) - 3 else month + 9
    dayNumber year month day = y / 400 * 146097 +
      ((y - y / 400 * 400) * 365 + (y - y / 400 * 400) / 4 - (y - y / 400 * 400) / 100 +
        ((153 * shiftedMonth + 2) / 5 + day - 1)) - 719468 := by
  intro y shiftedMonth
  have hmod : y - y / 400 * 400 = y % 400 := by omega
  have hmonths : (daysOfMonths month : Int) = (153 * shiftedMonth + 2) / 5 := by
    simp only [daysOfMonths, shiftedMonth]
    split_ifs <;> omega
  rw [dayNumber, daysOfYears_eq_era, hmonths, hmod]
  omega

lemma dayNumber_ge {year : Int} (hyear : 0 ≤ year) (month : Nat) {day : Nat} (hday : 1 ≤ day) :
    -719834 ≤ dayNumber year month day := by
  unfold dayNumber daysOfYears
  split_ifs <;> omega

def Date.number (d : Date) : Int := dayNumber d.year d.month d.day

lemma number_epoch : Date.epoch.number = 0 := by decide

/-- All months but February are as long as the formula says, whatever the year. -/
lemma daysOfMonths_succ : ∀ month < 12, 1 ≤ month → month ≠ 2 →
    daysOfMonths (month + 1) =
      daysOfMonths month + if month = 4 ∨ month = 6 ∨ month = 9 ∨ month = 11 then 30 else 31 := by
  decide

lemma dayNumber_next_month (year : Int) {month : Nat} (hpos : 1 ≤ month) (hle : month < 12) :
    dayNumber year (month + 1) 1 = dayNumber year month 1 + monthLength year month := by
  rcases eq_or_ne month 2 with rfl | hfebruary
  · -- with February the year of the formula ends
    have hlength : (monthLength year 2 : Int) = if IsLeap year then 29 else 28 := by
      unfold monthLength
      split_ifs <;> simp_all
    rw [hlength]
    unfold dayNumber daysOfYears IsLeap
    simp only [show daysOfMonths 2 = 337 from rfl, show daysOfMonths (2 + 1) = 0 from rfl]
    split_ifs <;> omega
  · have hmonths := daysOfMonths_succ month hle hpos hfebruary
    unfold dayNumber monthLength
    rw [hmonths, if_neg hfebruary]
    split_ifs <;> omega

lemma dayNumber_next_year (year : Int) :
    dayNumber (year + 1) 1 1 = dayNumber year 12 1 + monthLength year 12 := by
  have hmonths : daysOfMonths 1 = daysOfMonths 12 + 31 := rfl
  have hlength : monthLength year 12 = 31 := rfl
  unfold dayNumber
  rw [hmonths, hlength, if_pos (by decide), if_neg (by decide), Int.add_sub_cancel]
  omega

lemma dayNumber_day (year : Int) (month day : Nat) : dayNumber year month day = dayNumber year month 1 + day - 1 := by
  unfold dayNumber
  omega

/-- **A day has the next number after the day before it.** -/
theorem number_next (d : Date) : d.next.number = d.number + 1 := by
  have hd := dayNumber_day d.year d.month d.day
  have hday_le := d.day_le
  unfold Date.next Date.number
  split_ifs with hday hmonth
  · dsimp only
    rw [dayNumber_day d.year d.month (d.day + 1), hd]
    omega
  · dsimp only
    rw [dayNumber_next_month d.year d.month_pos hmonth, hd]
    omega
  · have h12 : d.month = 12 := by
      have := d.month_le
      omega
    dsimp only
    rw [h12] at hd hday_le hday
    rw [dayNumber_next_year, h12, hd]
    omega

lemma number_iterate (d : Date) (k : Nat) : (Date.next^[k] d).number = d.number + k := by
  induction k with
  | zero => simp
  | succ k ih =>
    rw [Function.iterate_succ_apply', number_next, ih]
    omega

lemma dayNumber_month_le (year : Int) {month month' : Nat} (hpos : 1 ≤ month) (hlt : month < month')
    (hle : month' ≤ 12) : dayNumber year month 1 + monthLength year month ≤ dayNumber year month' 1 := by
  induction month', hlt using Nat.le_induction with
  | base => exact (dayNumber_next_month year hpos hle).ge
  | succ n hn ih =>
    have hstep := dayNumber_next_month year (show 1 ≤ n by omega) (show n < 12 by omega)
    have hbefore := ih (by omega)
    omega

lemma dayNumber_year_le {year year' : Int} (h : year ≤ year') : dayNumber year 1 1 ≤ dayNumber year' 1 1 := by
  unfold dayNumber daysOfYears
  simp only [show (1 : Nat) ≤ 2 from by decide, if_true]
  omega

lemma number_lt_month_end (d : Date) : d.number < dayNumber d.year d.month 1 + monthLength d.year d.month := by
  have hd := dayNumber_day d.year d.month d.day
  have := d.day_le
  unfold Date.number
  omega

lemma month_start_le_number (d : Date) : dayNumber d.year d.month 1 ≤ d.number := by
  have hd := dayNumber_day d.year d.month d.day
  have := d.day_pos
  unfold Date.number
  omega

lemma month_end_le_year_end (year : Int) {month : Nat} (hpos : 1 ≤ month) (hle : month ≤ 12) :
    dayNumber year month 1 + monthLength year month ≤ dayNumber (year + 1) 1 1 := by
  rw [dayNumber_next_year]
  rcases Nat.lt_or_ge month 12 with hlt | hge
  · have := dayNumber_month_le year hpos hlt le_rfl
    omega
  · rw [show month = 12 by omega]

lemma year_start_le_month (year : Int) {month : Nat} (hpos : 1 ≤ month) (hle : month ≤ 12) :
    dayNumber year 1 1 ≤ dayNumber year month 1 := by
  rcases Nat.lt_or_ge 1 month with hlt | hge
  · have := dayNumber_month_le year le_rfl hlt hle
    omega
  · rw [show month = 1 by omega]

/-- **Later dates have larger numbers.** -/
theorem number_lt_of_before {d e : Date} (h : d.Before e) : d.number < e.number := by
  have hd := number_lt_month_end d
  have he := month_start_le_number e
  rcases h with hyear | ⟨hyear, hmonth | ⟨hmonth, hday⟩⟩
  · have hend := month_end_le_year_end d.year d.month_pos d.month_le
    have hyears := dayNumber_year_le (show d.year + 1 ≤ e.year by omega)
    have hstart := year_start_le_month e.year e.month_pos e.month_le
    omega
  · have := dayNumber_month_le d.year d.month_pos hmonth e.month_le
    rw [← hyear] at he
    omega
  · have hd' := dayNumber_day d.year d.month d.day
    have he' := dayNumber_day e.year e.month e.day
    unfold Date.number
    rw [hd', he', hyear, hmonth]
    omega

lemma number_injective : Function.Injective Date.number := by
  intro d e h
  rcases Date.before_trichotomy d e with hlt | heq | hlt
  · exact absurd h (number_lt_of_before hlt).ne
  · exact heq
  · exact absurd h (number_lt_of_before hlt).ne'

/-- **The formula counts days.** -/
theorem daysAfterEpoch_iff {d : Date} {n : Int} : DaysAfterEpoch d n ↔ d.number = n := by
  constructor
  · rintro (⟨k, rfl, rfl⟩ | ⟨k, rfl, hk⟩)
    · rw [number_iterate, number_epoch]
      omega
    · have := number_iterate d k
      rw [hk, number_epoch] at this
      omega
  · rintro rfl
    rcases le_total 0 d.number with hpos | hneg
    · refine Or.inl ⟨d.number.toNat, by omega, number_injective ?_⟩
      rw [number_iterate, number_epoch]
      omega
    · refine Or.inr ⟨(-d.number).toNat, by omega, number_injective ?_⟩
      rw [number_iterate, number_epoch]
      omega

end TeechatOpenapi.Lib
