/-
Days and dates tell the same.

A day is turned into a date in eras of 400 years that begin in March, by
division with rounding corrected at three places. That the corrections are
right is the one argument here: every day of an era is so many centuries,
spans of four years, years and days from its start, where only the last year
of a span can have a 366th day and the last span of a century has it only in
the last century (`DayOfEra`). Written this way all quotients can be read
off (`yearOfEra_eq`), and with them that the date is one of the calendar
(`isValid_ofDayNumber`) and that it is the date of that day
(`dayNumber_ofDayNumber`).
-/
import Obfuscator.Time

namespace Obfuscator.Date

-- ================================================================== eras

/-- A day of an era, counted in whole centuries, spans of four years, years,
and days. -/
structure DayOfEra (day centuries spans years days : Nat) : Prop where
  day_eq : day = 36524 * centuries + 1461 * spans + 365 * years + days
  centuries_le : centuries ≤ 3
  spans_le : spans ≤ 24
  years_le : years ≤ 3
  days_le : days ≤ 365
  /-- The 366th day comes at the end of a span, and at the end of a century
  only in the last one. -/
  last_day : days = 365 → years = 3 ∧ (spans = 24 → centuries = 3)

/-- Every day of an era is so many centuries, spans of four years, years
and days into it. -/
theorem exists_dayOfEra {day : Nat} (h : day < 146097) :
    ∃ centuries spans years days, DayOfEra day centuries spans years days := by
  obtain ⟨centuries, hcenturies⟩ : ∃ c, c = min (day / 36524) 3 := ⟨_, rfl⟩
  obtain ⟨inCentury, hinCentury⟩ : ∃ r, r = day - 36524 * centuries := ⟨_, rfl⟩
  obtain ⟨spans, hspans⟩ : ∃ q, q = min (inCentury / 1461) 24 := ⟨_, rfl⟩
  obtain ⟨inSpan, hinSpan⟩ : ∃ r, r = inCentury - 1461 * spans := ⟨_, rfl⟩
  obtain ⟨years, hyears⟩ : ∃ y, y = min (inSpan / 365) 3 := ⟨_, rfl⟩
  have hcentury : inCentury ≤ 36524
      ∧ (inCentury = 36524 → centuries = 3) := by omega
  have hspan : inSpan ≤ 1460
      ∧ (inSpan = 1460 → spans = 24 → centuries = 3) := by omega
  refine ⟨centuries, spans, years, inSpan - 365 * years, ?_, ?_, ?_, ?_,
    ?_, ?_⟩
  · omega
  · omega
  · omega
  · omega
  · omega
  · intro hlast
    omega

variable {day centuries spans years days : Nat}

/-- The last day of an era is the only one on which a quotient runs ahead of
its century. -/
theorem day_div_century (h : DayOfEra day centuries spans years days) :
    day / 36524 = centuries + day / 146096 := by
  obtain ⟨hday, hcenturies, hspans, hyears, hdays, hlast⟩ := h
  by_cases hend : day = 146096
  · have hall : centuries = 3 := by omega
    rw [hend, hall]
  · have hera : day / 146096 = 0 := Nat.div_eq_of_lt (by omega)
    rw [hera, Nat.add_zero]
    refine Nat.div_eq_of_lt_le (by omega) ?_
    by_cases hfull : days = 365
    · obtain ⟨hyear, hspan⟩ := hlast hfull
      by_cases hq : spans = 24
      · have hc := hspan hq
        omega
      · omega
    · omega

/-- The year of an era that a day is in. -/
theorem yearOfEra_eq (h : DayOfEra day centuries spans years days) :
    (day - day / 1460 + day / 36524 - day / 146096) / 365
      = 100 * centuries + 4 * spans + years := by
  rw [day_div_century h]
  obtain ⟨hday, hcenturies, hspans, hyears, hdays, hlast⟩ := h
  have hlate : days = 365 → years = 3 := fun hfull => (hlast hfull).1
  clear hlast
  by_cases hover : 1460 ≤ 24 * centuries + spans + 365 * years + days
  · have hquotient : day / 1460 = 25 * centuries + spans + 1 :=
      Nat.div_eq_of_lt_le (by omega) (by omega)
    rw [hquotient]
    generalize day / 146096 = era
    refine Nat.div_eq_of_lt_le ?_ ?_
    · omega
    · omega
  · have hquotient : day / 1460 = 25 * centuries + spans :=
      Nat.div_eq_of_lt_le (by omega) (by omega)
    rw [hquotient]
    generalize day / 146096 = era
    refine Nat.div_eq_of_lt_le ?_ ?_
    · omega
    · omega

/-- The days before a year of an era, and before a day of that year. -/
theorem dayOfYear_eq (h : DayOfEra day centuries spans years days) {year : Nat}
    (hyear : year = 100 * centuries + 4 * spans + years) :
    day - (365 * year + year / 4 - year / 100) = days := by
  obtain ⟨hday, hcenturies, hspans, hyears, hdays, hlast⟩ := h
  clear hlast
  have hfour : year / 4 = 25 * centuries + spans := by omega
  have hhundred : year / 100 = centuries := by omega
  rw [hfour, hhundred]
  omega

-- ================================================================ months

/-- The month, counted from March, that a day of a year is in. -/
def monthFromMarch (dayOfYear : Nat) : Nat := (5 * dayOfYear + 2) / 153

/-- The number of a month in the calendar. -/
def calendarMonth (fromMarch : Nat) : Nat :=
  if fromMarch < 10 then fromMarch + 3 else fromMarch - 9

/-- The day of its month that a day of a year is. -/
def dayOfMonth (dayOfYear : Nat) : Nat :=
  dayOfYear - (153 * monthFromMarch dayOfYear + 2) / 5 + 1

/-- The date of a day of a year, both counted from March. -/
def ofYearAndDay (year : Int) (dayOfYear : Nat) : Date :=
  let month := calendarMonth (monthFromMarch dayOfYear)
  ⟨if month ≤ 2 then year + 1 else year, month, dayOfMonth dayOfYear⟩

/-- What the lengths of the months come to: the month and the day of the
month tell the day of the year, and only the last day of the year is a 29th
of February. -/
structure MonthFits (dayOfYear : Nat) : Prop where
  one_le_month : 1 ≤ calendarMonth (monthFromMarch dayOfYear)
  month_le : calendarMonth (monthFromMarch dayOfYear) ≤ 12
  month_eq : (calendarMonth (monthFromMarch dayOfYear) + 9) % 12
    = monthFromMarch dayOfYear
  day_eq : (153 * monthFromMarch dayOfYear + 2) / 5 + dayOfMonth dayOfYear - 1
    = dayOfYear
  day_le : dayOfMonth dayOfYear
    ≤ daysInMonth (if dayOfYear = 365 then 0 else 1)
      (calendarMonth (monthFromMarch dayOfYear))

/-- Every day of a year falls into a month. -/
theorem monthFits {dayOfYear : Nat} (h : dayOfYear ≤ 365) :
    MonthFits dayOfYear := by
  have hall : ∀ d : Fin 366, 1 ≤ calendarMonth (monthFromMarch d)
      ∧ calendarMonth (monthFromMarch d) ≤ 12
      ∧ (calendarMonth (monthFromMarch d) + 9) % 12 = monthFromMarch d
      ∧ (153 * monthFromMarch d + 2) / 5 + dayOfMonth d - 1 = d
      ∧ dayOfMonth d ≤ daysInMonth (if d.val = 365 then 0 else 1)
          (calendarMonth (monthFromMarch d)) := by
    decide +kernel
  obtain ⟨hone, htwelve, hmonth, hday, hlen⟩ := hall ⟨dayOfYear, by omega⟩
  exact ⟨hone, htwelve, hmonth, hday, hlen⟩

-- ================================================================= dates

/-- A date is one of the calendar. -/
structure IsValid (d : Date) : Prop where
  one_le_month : 1 ≤ d.month
  month_le : d.month ≤ 12
  one_le_day : 1 ≤ d.day
  day_le : d.day ≤ daysInMonth d.year d.month

/-- Years that are leap years alike have months of the same length. -/
theorem daysInMonth_congr {year year' : Int}
    (h : isLeapYear year = isLeapYear year') (month : Nat) :
    daysInMonth year month = daysInMonth year' month := by
  unfold daysInMonth
  rw [h]

/-- No month has more than thirty-one days. -/
theorem daysInMonth_le (year : Int) (month : Nat) :
    daysInMonth year month ≤ 31 := by
  unfold daysInMonth
  split
  · split <;> decide
  · split <;> decide

/-- A month is at least as long as in an ordinary year. -/
theorem daysInMonth_one_le (year : Int) (month : Nat) :
    daysInMonth 1 month ≤ daysInMonth year month := by
  unfold daysInMonth
  by_cases hmonth : month = 2
  · rw [if_pos hmonth, if_pos hmonth, if_neg (by decide)]
    split
    · decide
    · decide
  · refine Nat.le_of_eq ?_
    rw [if_neg hmonth, if_neg hmonth]

/-- The year after the last year of a span is a leap year, unless the span
ends a century other than the last. -/
theorem isLeapYear_of_last (era : Int) (hspans : spans ≤ 24)
    (hend : spans = 24 → centuries = 3) :
    isLeapYear (era * 400 + (100 * centuries + 4 * spans + 3 : Nat) + 1)
      = true := by
  generalize hyear : era * 400 + (100 * centuries + 4 * spans + 3 : Nat) + 1
    = year
  have hfour : year % 4 = 0 := by omega
  by_cases hlast : spans = 24
  · have hcentury := hend hlast
    have hall : year % 400 = 0 := by omega
    simp [isLeapYear, hfour, hall]
  · have hno : year % 100 ≠ 0 := by omega
    simp [isLeapYear, hfour, hno]

/-- A date is that of its year and its day in the year, counted from
March. -/
theorem ofDayNumber_eq {n : Int}
    (h : DayOfEra ((n + 719468) % 146097).toNat centuries spans years days) :
    ofDayNumber n
      = ofYearAndDay ((n + 719468) / 146097 * 400
        + (100 * centuries + 4 * spans + years : Nat))
          days := by
  have hyear := yearOfEra_eq h
  have hday := dayOfYear_eq h hyear
  unfold ofDayNumber
  simp only
  rw [hday, hyear]
  rfl

/-- Every day has a date of the calendar. -/
theorem isValid_ofDayNumber (n : Int) : (ofDayNumber n).IsValid := by
  have hera : ((n + 719468) % 146097).toNat < 146097 := by omega
  obtain ⟨centuries, spans, years, days, h⟩ := exists_dayOfEra hera
  have hfits := monthFits h.days_le
  rw [ofDayNumber_eq h]
  refine ⟨hfits.one_le_month, hfits.month_le,
    Nat.succ_le_succ (Nat.zero_le _), ?_⟩
  refine Nat.le_trans hfits.day_le ?_
  by_cases hlast : days = 365
  · -- a 29th of February
    obtain ⟨hyears, hend⟩ := h.last_day hlast
    have hfebruary : calendarMonth (monthFromMarch 365) = 2 := by decide
    have hleap := isLeapYear_of_last ((n + 719468) / 146097) h.spans_le hend
    rw [if_pos hlast, hlast, hyears]
    simp only [ofYearAndDay, hfebruary, Nat.le_refl, if_true]
    have hsame : isLeapYear 0 = isLeapYear ((n + 719468) / 146097 * 400
        + (100 * centuries + 4 * spans + 3 : Nat) + 1) := hleap.symm
    exact Nat.le_of_eq (daysInMonth_congr hsame 2)
  · rw [if_neg hlast]
    exact daysInMonth_one_le _ _

/-- The number of a day of an era, from the year and the day of the year. -/
theorem dayNumber_ofYearAndDay {era : Int} {year : Nat} (hyear : year < 400)
    (hdays : days ≤ 365) :
    dayNumber (ofYearAndDay (era * 400 + year) days)
      = era * 146097 + (year * 365 + year / 4 - year / 100 + days)
        - 719468 := by
  have hfits := monthFits hdays
  have hmarch : (if calendarMonth (monthFromMarch days) ≤ 2
        then (if calendarMonth (monthFromMarch days) ≤ 2 then
          era * 400 + year + 1 else era * 400 + (year : Int)) - 1
        else (if calendarMonth (monthFromMarch days) ≤ 2 then
          era * 400 + year + 1 else era * 400 + (year : Int)))
      = era * 400 + year := by
    by_cases hlate : calendarMonth (monthFromMarch days) ≤ 2
    · rw [if_pos hlate, if_pos hlate]
      omega
    · rw [if_neg hlate, if_neg hlate]
  unfold dayNumber ofYearAndDay
  simp only
  rw [hmarch, hfits.month_eq, hfits.day_eq]
  omega

/-- The date of a day tells the day. -/
theorem dayNumber_ofDayNumber (n : Int) : dayNumber (ofDayNumber n) = n := by
  have hera : ((n + 719468) % 146097).toNat < 146097 := by omega
  obtain ⟨centuries, spans, years, days, h⟩ := exists_dayOfEra hera
  have hyear : 100 * centuries + 4 * spans + years < 400 := by
    have hcenturies := h.centuries_le
    have hspans := h.spans_le
    have hyears := h.years_le
    omega
  rw [ofDayNumber_eq h, dayNumber_ofYearAndDay hyear h.days_le]
  have hday := h.day_eq
  have hyears := h.years_le
  have hspans := h.spans_le
  omega

end Obfuscator.Date
