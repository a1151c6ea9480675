/-
  LoggingOperator.Proofs.Time.Calendar — DAYS AND DATES.

  Days are numbered through, dates are counted in months and years.  Going
  from a day to its date and back gives the same day (`exists_dateOf`), and a
  day within the years that have dates has a date in one of them
  (`isDate_dateOf`).

  The calendar repeats after an era of 400 years.  An era is made of
  centuries, of cycles of four years, of years and of days, each a little
  shorter than the next greater one would need: the last day of a year that
  starts in March is there only if the year is the last of its cycle, and the
  cycle is not the last of its century or the century is the last of its era
  (`DayOfEra`).
-/
import LoggingOperator.Time.Instant
import Mathlib.Tactic.IntervalCases

namespace LoggingOperator.Instant

/-! ## §1. The parts of an era -/

/-- A day of an era by its century, cycle, year and day. -/
structure DayOfEra (day century cycle year dayOfYear : Int) : Prop where
  sum : day = 36524 * century + 1461 * cycle + 365 * year + dayOfYear
  centuries : 0 ≤ century ∧ century ≤ 3
  cycles : 0 ≤ cycle ∧ cycle ≤ 24
  years : 0 ≤ year ∧ year ≤ 3
  nonneg : 0 ≤ dayOfYear
  /-- Only a leap year has a day more. -/
  last : dayOfYear ≤ 364 ∨ dayOfYear = 365 ∧ year = 3 ∧ (cycle ≤ 23 ∨ century = 3)

/-- **Every day of an era is in a century, a cycle and a year of it.** -/
theorem exists_dayOfEra (day : Int) (h0 : 0 ≤ day) (h : day < 146097) :
    ∃ century cycle year dayOfYear, DayOfEra day century cycle year dayOfYear := by
  -- Of each part there are at most so many, and what is left over is not too much.
  obtain ⟨g, hg, hr0, hr⟩ : ∃ g : Int, (0 ≤ g ∧ g ≤ 3) ∧ 0 ≤ day - 36524 * g
      ∧ (day - 36524 * g < 36524 ∨ day - 36524 * g = 36524 ∧ g = 3) :=
    ⟨min (day / 36524) 3, by omega, by omega, by omega⟩
  generalize hrest : day - 36524 * g = r at hr0 hr
  obtain ⟨c, hc, hs0, hs⟩ : ∃ c : Int, (0 ≤ c ∧ c ≤ 24) ∧ 0 ≤ r - 1461 * c
      ∧ (r - 1461 * c < 1460 ∨ r - 1461 * c = 1460 ∧ (c ≤ 23 ∨ g = 3)) :=
    ⟨r / 1461, by omega, by omega, by omega⟩
  generalize hrest' : r - 1461 * c = s at hs0 hs
  exact ⟨g, c, min (s / 365) 3, s - 365 * min (s / 365) 3, by omega, hg, hc, by omega, by omega,
    by omega⟩

namespace DayOfEra

variable {day century cycle year dayOfYear : Int}

/-- The year of an era, by the formula for it. -/
theorem yearOfEra (h : DayOfEra day century cycle year dayOfYear) :
    (day - day / 1460 + day / 36524 - day / 146096) / 365 = 100 * century + 4 * cycle + year := by
  obtain ⟨hsum, hcentury, hcycle, hyear, hnonneg, hlast⟩ := h
  have hrest : 1461 * cycle + 365 * year + dayOfYear ≤ 36523 ∨ day = 146096 ∧ century = 3 := by
    omega
  have hcenturies : day / 36524 - day / 146096 = century := by
    rcases hrest with hrest | ⟨rfl, hcentury⟩
    · have hfirst : day / 36524 = century := by omega
      have hsecond : day / 146096 = 0 := by omega
      omega
    · omega
  -- A cycle is counted one day too early, so its last days may belong to the next.
  have hcycles : day / 1460 = 25 * century + cycle ∧ dayOfYear ≤ 364
      ∨ day / 1460 = 25 * century + cycle + 1 ∧ 1 ≤ dayOfYear := by
    omega
  rcases hcycles with ⟨hcycles, -⟩ | ⟨hcycles, -⟩
  · rw [show day - day / 1460 + day / 36524 - day / 146096
      = 365 * (100 * century + 4 * cycle + year) + dayOfYear by omega]
    omega
  · rw [show day - day / 1460 + day / 36524 - day / 146096
      = 365 * (100 * century + 4 * cycle + year) + (dayOfYear - 1) by omega]
    omega

/-- The days before a year of an era. -/
theorem dayOfYear_eq (h : DayOfEra day century cycle year dayOfYear) :
    day - (365 * (100 * century + 4 * cycle + year) + (100 * century + 4 * cycle + year) / 4
      - (100 * century + 4 * cycle + year) / 100) = dayOfYear := by
  obtain ⟨hsum, hcentury, hcycle, hyear, hnonneg, hlast⟩ := h
  have hfourth : (100 * century + 4 * cycle + year) / 4 = 25 * century + cycle := by omega
  have hhundredth : (100 * century + 4 * cycle + year) / 100 = century := by omega
  simp only [hfourth, hhundredth]
  omega

end DayOfEra

/-! ## §2. The parts of a year -/

/-- The month of a number counted from March. -/
def monthOf (fromMarch : Nat) : Nat :=
  if fromMarch < 10 then fromMarch + 3 else fromMarch - 9

theorem daysIn_le (year : Int) (month : Nat) : daysIn year month ≤ 31 := by
  unfold daysIn
  split
  · split <;> decide
  all_goals decide

/-- Every month but February lasts until the next one starts. -/
theorem daysIn_monthOf (year : Int) {fromMarch : Nat} (h : fromMarch ≤ 10) :
    daysIn year (monthOf fromMarch)
      = (153 * (fromMarch + 1) + 2) / 5 - (153 * fromMarch + 2) / 5 := by
  interval_cases fromMarch <;> rfl

/-- A day of a year that starts in March, by its month and day. -/
structure DayOfYear (dayOfYear : Int) (fromMarch day : Nat) : Prop where
  month_eq : (5 * dayOfYear + 2) / 153 = fromMarch
  day_eq : dayOfYear - (153 * (fromMarch : Int) + 2) / 5 + 1 = day
  months : fromMarch ≤ 11
  one_le : 1 ≤ day
  /-- February has 29 days only in a year with a day more. -/
  fits : ∀ year, (dayOfYear = 365 → hasLeapDay year = true) → day ≤ daysIn year (monthOf fromMarch)

theorem exists_dayOfYear {dayOfYear : Int} (h0 : 0 ≤ dayOfYear) (h : dayOfYear ≤ 365) :
    ∃ fromMarch day, DayOfYear dayOfYear fromMarch day := by
  obtain ⟨m, hm⟩ : ∃ m : Nat, (5 * dayOfYear + 2) / 153 = m :=
    ⟨((5 * dayOfYear + 2) / 153).toNat, by omega⟩
  obtain ⟨d, hd⟩ : ∃ d : Nat, dayOfYear - (153 * (m : Int) + 2) / 5 + 1 = d :=
    ⟨(dayOfYear - (153 * (m : Int) + 2) / 5 + 1).toNat, by omega⟩
  refine ⟨m, d, hm, hd, by omega, by omega, fun year hleap => ?_⟩
  by_cases hfebruary : m = 11
  · subst hfebruary
    show d ≤ if hasLeapDay year then 29 else 28
    split
    · omega
    · next hcommon =>
      have hnot : dayOfYear ≠ 365 := fun heq => hcommon (hleap heq)
      omega
  · have hstart : (153 * (m : Int) + 2) / 5 = ((153 * m + 2) / 5 : Nat) := by omega
    rw [hstart] at hd
    rw [daysIn_monthOf year (show m ≤ 10 by omega)]
    omega

/-! ## §3. Days and dates -/

/-- A year that starts in March ends in one with a leap day if it has a day more. -/
theorem hasLeapDay_of_last {day century cycle year dayOfYear : Int} (era : Int)
    (h : DayOfEra day century cycle year dayOfYear) (hlast : dayOfYear = 365) :
    hasLeapDay (100 * century + 4 * cycle + year + era * 400 + 1) = true := by
  obtain ⟨-, hcentury, hcycle, hyear, -, hlast'⟩ := h
  simp only [hasLeapDay, Bool.and_eq_true, Bool.or_eq_true, beq_iff_eq, bne_iff_ne]
  omega

/-- **A day has a date, and the date is of that day.** -/
theorem exists_dateOf (days : Int) :
    ∃ (year : Int) (month day : Nat), dateOf days = (year, (month : Int), (day : Int))
      ∧ (1 ≤ month ∧ month ≤ 12) ∧ (1 ≤ day ∧ day ≤ daysIn year month)
      ∧ dayNumber year month day = days := by
  have hfdiv : ∀ n m : Int, 0 ≤ m → n.fdiv m = n / m :=
    fun n m hm => Int.fdiv_eq_ediv_of_nonneg n hm
  obtain ⟨era, hera⟩ : ∃ era, (days + 719468) / 146097 = era := ⟨_, rfl⟩
  obtain ⟨doe, hdoe⟩ : ∃ doe, days + 719468 - era * 146097 = doe := ⟨_, rfl⟩
  obtain ⟨g, c, k, doy, hparts⟩ := exists_dayOfEra doe (by omega) (by omega)
  obtain ⟨m, d, hday⟩ := exists_dayOfYear hparts.nonneg (by have := hparts.last; omega)
  obtain ⟨y, hy⟩ : ∃ y, 100 * g + 4 * c + k + era * 400 = y := ⟨_, rfl⟩
  have hmonths := hday.months
  have hmonth : (if (m : Int) < 10 then (m : Int) + 3 else m - 9) = (monthOf m : Int) := by
    rw [monthOf]
    split <;> split <;> omega
  have hdate : dateOf days
      = (if (monthOf m : Int) ≤ 2 then y + 1 else y, (monthOf m : Int), (d : Int)) := by
    simp only [dateOf, hfdiv _ _ (by decide : (0 : Int) ≤ 146097), hera, hdoe, hparts.yearOfEra,
      hparts.dayOfYear_eq, hday.month_eq, hday.day_eq, hmonth, hy]
  refine ⟨_, monthOf m, d, hdate, ?_, ⟨hday.one_le, hday.fits _ fun hlast => ?_⟩, ?_⟩
  · rw [monthOf]
    split <;> omega
  · -- The last day of such a year is in February, which is of the next year.
    have hfebruary : monthOf m = 2 := by
      have hm := hday.month_eq
      rw [hlast] at hm
      rw [monthOf]
      split <;> omega
    rw [hfebruary, if_pos (by decide), ← hy]
    exact hasLeapDay_of_last era hparts hlast
  · have hyear : (if monthOf m ≤ 2 then (if (monthOf m : Int) ≤ 2 then y + 1 else y) - 1
        else if (monthOf m : Int) ≤ 2 then y + 1 else y) = y := by
      split <;> split <;> omega
    have hfromMarch : (if monthOf m ≤ 2 then (monthOf m : Int) + 9 else monthOf m - 3) = m := by
      rw [monthOf]
      split <;> split <;> omega
    have hera' : y.fdiv 400 = era := by
      have := hparts.centuries
      have := hparts.cycles
      have := hparts.years
      rw [hfdiv _ _ (by decide)]
      omega
    have hdoy := hparts.dayOfYear_eq
    have hd := hday.day_eq
    have hyearOfEra : y - era * 400 = 100 * g + 4 * c + k := by omega
    simp only [dayNumber, hyear, hfromMarch, hera', hyearOfEra]
    omega

/-- The day number of a date, without its cases: `year` starts in March. -/
theorem exists_dayNumber (year : Int) {month : Nat} (day : Nat) (hmonth : 1 ≤ month ∧ month ≤ 12) :
    ∃ march era yearOfEra dayOfYear : Int, march = era * 400 + yearOfEra
      ∧ (0 ≤ yearOfEra ∧ yearOfEra ≤ 399)
      ∧ (march = year ∧ day ≤ dayOfYear + 1 ∧ dayOfYear + 1 ≤ 275 + day
        ∨ march = year - 1 ∧ 306 + day ≤ dayOfYear + 1 ∧ dayOfYear + 1 ≤ 337 + day)
      ∧ dayNumber year month day = era * 146097
        + (yearOfEra * 365 + yearOfEra / 4 - yearOfEra / 100 + dayOfYear) - 719468 := by
  refine ⟨if month ≤ 2 then year - 1 else year, (if month ≤ 2 then year - 1 else year) / 400,
    (if month ≤ 2 then year - 1 else year) % 400,
    (153 * (if month ≤ 2 then (month : Int) + 9 else month - 3) + 2) / 5 + day - 1, by omega,
    by omega, ?_, ?_⟩
  · split <;> omega
  · simp only [dayNumber, Int.fdiv_eq_ediv_of_nonneg _ (by decide : (0 : Int) ≤ 400)]
    rw [Int.emod_def]
    split <;> omega

/-- **A day within the years that have dates has a date in one of them.** -/
theorem isDate_dateOf {days : Int} (hfirst : dayNumber (-262143) 1 1 ≤ days)
    (hlast : days ≤ dayNumber 262142 12 31) :
    ∃ (year : Int) (month day : Nat), dateOf days = (year, (month : Int), (day : Int))
      ∧ isDate year month day = true ∧ dayNumber year month day = days := by
  obtain ⟨year, month, day, hdate, hmonth, hday, hnumber⟩ := exists_dateOf days
  refine ⟨year, month, day, hdate, ?_, hnumber⟩
  have hthirtyone := daysIn_le year month
  have hyear : isYear year = true := by
    rw [show dayNumber (-262143) 1 1 = -96465292 by decide] at hfirst
    rw [show dayNumber 262142 12 31 = 95026236 by decide] at hlast
    obtain ⟨march, era, y, doy, hmarch, hy, hcases, heq⟩ := exists_dayNumber year day hmonth
    rw [← hnumber, heq] at hfirst hlast
    simp only [isYear, Bool.and_eq_true, decide_eq_true_eq]
    refine ⟨?_, ?_⟩
    · by_contra hbefore
      have hera : era ≤ -657 ∨ era = -656 ∧ y ≤ 256 ∧ (y = 256 → doy ≤ 305) := by omega
      rcases hera with hera | ⟨rfl, hy'⟩
      · omega
      · omega
    · by_contra hafter
      have hera : 656 ≤ era ∨ era = 655 ∧ 142 ≤ y ∧ (y = 142 → 306 ≤ doy) := by omega
      rcases hera with hera | ⟨rfl, hy'⟩
      · omega
      · omega
  simp [isDate, hyear, hmonth, hday]

end LoggingOperator.Instant
