import Mathlib.Algebra.Group.Int.Defs
import Mathlib.Tactic.Common

/-!
# The civil calendar

Days are numbered from 1970-01-01 on, a Thursday. `CivilDate.ofDay` is the date of a day in the
proleptic Gregorian calendar, counted from the first of March of a year 0 of a 400-year cycle, so
that a leap day ends its year.

* `toDay_ofDay`: a date determines its day, so no two days have one date.
* `weekday`, `isoYear`, `isoWeek`: the numbering of weeks by their Thursdays.
-/

namespace TripPipeline.Lib

/-- A date. -/
structure CivilDate where
  year : ℤ
  month : ℤ
  day : ℤ
  deriving DecidableEq, Repr

namespace CivilDate

/-- Days from 0000-03-01 to 1970-01-01. -/
def epochShift : ℤ := 719468

/-- Days in 400 years. -/
def cycle : ℤ := 146097

/-- The year of a day of the cycle, counted in years from March to February: a century, four years
of it, and a year of these. The last of each is a day longer. -/
def yearOfCycle (doe : ℤ) : ℤ :=
  let century := min (doe / 36524) 3
  let doc := doe - century * 36524
  century * 100 + doc / 1461 * 4 + min (doc % 1461 / 365) 3

/-- The days before a year of the cycle. -/
def daysBefore (yoe : ℤ) : ℤ := 365 * yoe + yoe / 4 - yoe / 100

/-- The months, with March as 0, of a day in the year. -/
def monthOfYear (doy : ℤ) : ℤ := (5 * doy + 2) / 153

/-- The days before a month. -/
def monthStart (mp : ℤ) : ℤ := (153 * mp + 2) / 5

/-- The date of a day. -/
def ofDay (n : ℤ) : CivilDate :=
  let z := n + epochShift
  let doe := z % cycle
  let yoe := yearOfCycle doe
  let doy := doe - daysBefore yoe
  let mp := monthOfYear doy
  let month := if mp < 10 then mp + 3 else mp - 9
  ⟨yoe + z / cycle * 400 + if month ≤ 2 then 1 else 0, month, doy - monthStart mp + 1⟩

/-- The day of a date. -/
def toDay (d : CivilDate) : ℤ :=
  let y := if d.month ≤ 2 then d.year - 1 else d.year
  let mp := if 2 < d.month then d.month - 3 else d.month + 9
  y / 400 * cycle + (daysBefore (y % 400) + (monthStart mp + d.day - 1)) - epochShift

section bounds

variable {doe : ℤ} (h0 : 0 ≤ doe) (h1 : doe < cycle)

include h0 h1

/-- A cycle has the years 0 to 399. -/
theorem yearOfCycle_mem : 0 ≤ yearOfCycle doe ∧ yearOfCycle doe < 400 := by
  unfold yearOfCycle
  unfold cycle at h1
  dsimp only
  omega

/-- A day lies in its year. -/
theorem dayOfYear_mem : 0 ≤ doe - daysBefore (yearOfCycle doe) ∧
    doe - daysBefore (yearOfCycle doe) < 366 := by
  unfold cycle at h1
  obtain ⟨c, q, y, hyear, hdoy⟩ : ∃ c q y : ℤ, yearOfCycle doe = c * 100 + q * 4 + y ∧
      0 ≤ q ∧ q < 25 ∧ 0 ≤ y ∧ y < 4 ∧ 0 ≤ doe - (c * 36524 + q * 1461 + y * 365) ∧
        doe - (c * 36524 + q * 1461 + y * 365) < 366 :=
    ⟨min (doe / 36524) 3, (doe - min (doe / 36524) 3 * 36524) / 1461,
      min ((doe - min (doe / 36524) 3 * 36524) % 1461 / 365) 3, rfl, by omega⟩
  obtain ⟨hq0, hq1, hy0, hy1, hdoy0, hdoy1⟩ := hdoy
  have hfours : (c * 100 + q * 4 + y) / 4 = 25 * c + q := by omega
  have hcenturies : (c * 100 + q * 4 + y) / 100 = c := by omega
  rw [hyear, daysBefore, hfours, hcenturies]
  omega

end bounds

/-- A year has the months 0 to 11. -/
theorem monthOfYear_mem {doy : ℤ} (h0 : 0 ≤ doy) (h1 : doy < 366) :
    0 ≤ monthOfYear doy ∧ monthOfYear doy < 12 := by
  unfold monthOfYear
  omega

/-- A day lies in its month. -/
theorem dayOfMonth_mem (doy : ℤ) :
    0 ≤ doy - monthStart (monthOfYear doy) ∧ doy - monthStart (monthOfYear doy) < 31 := by
  unfold monthStart monthOfYear
  omega

/-- The month and the day of a date have two digits. -/
theorem ofDay_mem (n : ℤ) : 1 ≤ (ofDay n).month ∧ (ofDay n).month ≤ 12 ∧ 1 ≤ (ofDay n).day ∧
    (ofDay n).day ≤ 31 := by
  have hz0 : 0 ≤ (n + epochShift) % cycle := Int.emod_nonneg _ (by decide)
  have hz1 : (n + epochShift) % cycle < cycle := Int.emod_lt_of_pos _ (by decide)
  obtain ⟨hdoy0, hdoy1⟩ := dayOfYear_mem hz0 hz1
  obtain ⟨hmonth0, hmonth1⟩ := monthOfYear_mem hdoy0 hdoy1
  obtain ⟨hday0, hday1⟩ := dayOfMonth_mem
    ((n + epochShift) % cycle - daysBefore (yearOfCycle ((n + epochShift) % cycle)))
  unfold ofDay
  dsimp only
  refine ⟨?_, ?_, by omega, by omega⟩
  · split_ifs <;> omega
  · split_ifs <;> omega

/-- The day of a date that is given by its cycle, year and month of the year. -/
theorem toDay_mk {yoe era mp day : ℤ} (hyear0 : 0 ≤ yoe) (hyear1 : yoe < 400) (hmonth0 : 0 ≤ mp)
    (hmonth1 : mp < 12) :
    toDay ⟨yoe + era * 400 + if (if mp < 10 then mp + 3 else mp - 9) ≤ 2 then 1 else 0,
      if mp < 10 then mp + 3 else mp - 9, day⟩ =
        era * cycle + (daysBefore yoe + (monthStart mp + day - 1)) - epochShift := by
  have hera : (yoe + era * 400) / 400 = era := by omega
  have hmod : (yoe + era * 400) % 400 = yoe := by omega
  unfold toDay
  dsimp only
  by_cases hmp : mp < 10
  · rw [if_pos hmp, if_neg (by omega), if_neg (by omega), if_pos (by omega), add_zero, hera, hmod,
      add_sub_cancel_right]
  · rw [if_neg hmp, if_pos (by omega), if_pos (by omega), if_neg (by omega), add_sub_cancel_right,
      hera, hmod, sub_add_cancel]

/-- **A date determines its day.** -/
theorem toDay_ofDay (n : ℤ) : toDay (ofDay n) = n := by
  have hz0 : 0 ≤ (n + epochShift) % cycle := Int.emod_nonneg _ (by decide)
  have hz1 : (n + epochShift) % cycle < cycle := Int.emod_lt_of_pos _ (by decide)
  obtain ⟨hyear0, hyear1⟩ := yearOfCycle_mem hz0 hz1
  obtain ⟨hdoy0, hdoy1⟩ := dayOfYear_mem hz0 hz1
  obtain ⟨hmonth0, hmonth1⟩ := monthOfYear_mem hdoy0 hdoy1
  have hsplit : (n + epochShift) / cycle * cycle + (n + epochShift) % cycle = n + epochShift :=
    Int.ediv_mul_add_emod _ _
  unfold ofDay
  dsimp only
  rw [toDay_mk hyear0 hyear1 hmonth0 hmonth1]
  omega

/-- Two days have two dates. -/
theorem ofDay_injective : Function.Injective ofDay :=
  Function.LeftInverse.injective toDay_ofDay

end CivilDate

/-! ## Weeks -/

/-- The day of the week, with Monday as 0. -/
def weekday (n : ℤ) : ℤ := (n + 3) % 7

/-- The Thursday of the week of a day. -/
def thursday (n : ℤ) : ℤ := n - weekday n + 3

/-- The year a week belongs to: that of its Thursday. -/
def isoYear (n : ℤ) : ℤ := (CivilDate.ofDay (thursday n)).year

/-- The number of a week in its year. -/
def isoWeek (n : ℤ) : ℤ := (thursday n - CivilDate.toDay ⟨isoYear n, 1, 1⟩) / 7 + 1

-- 2026 begins in week 1, 2027 in week 53 of the year before
example : CivilDate.ofDay 20454 = ⟨2026, 1, 1⟩ ∧ isoYear 20454 = 2026 ∧ isoWeek 20454 = 1 ∧
    CivilDate.ofDay 20819 = ⟨2027, 1, 1⟩ ∧ isoYear 20819 = 2026 ∧ isoWeek 20819 = 53 := by
  decide

end TripPipeline.Lib
