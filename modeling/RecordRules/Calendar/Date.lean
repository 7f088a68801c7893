/-!
Dates of the Gregorian calendar, which is continued to all years before it was made. Days are also
numbered within their year and within weeks: weeks of a year that start on a given weekday, and
ISO weeks, which belong to the year that holds their Thursday. Weekdays are counted from Monday,
which is 0.
-/

namespace RecordRules.Calendar

def isLeapYear (year : Int) : Bool :=
  year % 4 == 0 && (year % 100 != 0 || year % 400 == 0)

def daysInMonth (year month : Int) : Int :=
  if month = 2 then (if isLeapYear year then 29 else 28)
  else if month = 4 ∨ month = 6 ∨ month = 9 ∨ month = 11 then 30
  else 31

/-- The days of the first months of a year. -/
def daysOfMonths (year : Int) : Nat → Int
  | 0 => 0
  | count + 1 => daysOfMonths year count + daysInMonth year (count + 1)

def daysInYear (year : Int) : Int :=
  if isLeapYear year then 366 else 365

def firstYear : Int := -262143
def lastYear : Int := 262142

/-- A day that exists, in a year the calendar covers. -/
structure Date where
  year : Int
  month : Int
  day : Int
  year_mem : firstYear ≤ year ∧ year ≤ lastYear
  month_mem : 1 ≤ month ∧ month ≤ 12
  day_mem : 1 ≤ day ∧ day ≤ daysInMonth year month
  deriving DecidableEq

namespace Date

def of? (year month day : Int) : Option Date :=
  if h : (firstYear ≤ year ∧ year ≤ lastYear) ∧ (1 ≤ month ∧ month ≤ 12) ∧
      (1 ≤ day ∧ day ≤ daysInMonth year month) then
    some ⟨year, month, day, h.1, h.2.1, h.2.2⟩
  else none

/-- The number of the day in its year, from 1. -/
def ordinal (d : Date) : Int :=
  daysOfMonths d.year (d.month - 1).toNat + d.day

def ofOrdinal? (year ordinal : Int) : Option Date :=
  (List.range 12).findSome? fun month : Nat =>
    of? year (month + 1) (ordinal - daysOfMonths year month)

/-- The days from the first day of the year 1 to the last day before the given year. -/
def daysBeforeYear (year : Int) : Int :=
  365 * (year - 1) + (year - 1) / 4 - (year - 1) / 100 + (year - 1) / 400

/-- The weekday; the year 1 began on a Monday. -/
def weekday (d : Date) : Int :=
  (daysBeforeYear d.year + d.ordinal - 1) % 7

def quarter (d : Date) : Int :=
  (d.month - 1) / 3 + 1

/-- The number of the week in its year when weeks begin on the given weekday; the days before the
first such weekday are in week 0. -/
def week (start : Int) (d : Date) : Int :=
  (d.ordinal + 6 - (d.weekday - start) % 7) / 7

def ofWeek? (start year week weekday : Int) : Option Date := do
  let newYear ← of? year 1 1
  let first := 1 + (start - newYear.weekday) % 7
  ofOrdinal? year (first + (week - 1) * 7 + (weekday - start) % 7)

/-- The year of the ISO week, and its number there. -/
def isoWeek (d : Date) : Int × Int :=
  let thursday := d.ordinal + 3 - d.weekday
  if thursday < 1 then (d.year - 1, (thursday + daysInYear (d.year - 1) + 6) / 7)
  else if daysInYear d.year < thursday then
    (d.year + 1, (thursday - daysInYear d.year + 6) / 7)
  else (d.year, (thursday + 6) / 7)

/-- The day with that number in a year, where numbers below 1 and above the length of the year lead
to the years around it. -/
def ofWideOrdinal? (year ordinal : Int) : Option Date :=
  if ordinal < 1 then ofOrdinal? (year - 1) (ordinal + daysInYear (year - 1))
  else if daysInYear year < ordinal then ofOrdinal? (year + 1) (ordinal - daysInYear year)
  else ofOrdinal? year ordinal

/-- The day of that weekday in an ISO week; the fourth of January is always in the first. -/
def ofIsoWeek? (year week weekday : Int) : Option Date :=
  let fourth := (daysBeforeYear year + 3) % 7
  let day? := ofWideOrdinal? year (4 - fourth + (week - 1) * 7 + weekday)
  day?.filter fun d => d.isoWeek == (year, week)

end Date

end RecordRules.Calendar
