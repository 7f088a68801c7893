import Mathlib.Data.Int.Init
import Mathlib.Data.Nat.Count
import RecordRules.Calendar.Agreement
import RecordRules.Proofs.Calendar.Date
import RecordRules.Proofs.Calendar.Fields

/-!
The days of all years in a row. Every integer is the number of a day, and weekdays, weeks and years
are told from numbers alone: a weekday comes round every seven days, the week of a year is the count
of the weekdays it begins with, and an ISO week belongs to the year of its Thursday. Dates have the
weeks that this says.
-/

namespace RecordRules.Calendar

/-! ### Numbers of days -/

/-- The day with that number is in the year. -/
def InYear (n year : Int) : Prop :=
  Date.daysBeforeYear year < n ∧ n ≤ Date.daysBeforeYear (year + 1)

def weekdayOf (n : Int) : Int :=
  (n - 1) % 7

/-- How many days of a weekday there are in a year up to the day with that number. -/
def weekdaysUntil (weekday year n : Int) : Nat :=
  Nat.count (fun k => weekdayOf (Date.daysBeforeYear year + k + 1) = weekday)
    (n - Date.daysBeforeYear year).toNat

/-- The number of the Thursday between the same Monday and the same Sunday. -/
def thursdayOf (n : Int) : Int :=
  n - weekdayOf n + 3

section Years

variable {n year other : Int}

theorem daysBeforeYear_succ (year : Int) :
    Date.daysBeforeYear (year + 1) = Date.daysBeforeYear year + daysInYear year := by
  have hfour : year / 4 = (year - 1) / 4 + if year % 4 = 0 then 1 else 0 := by omega
  have hhundred : year / 100 = (year - 1) / 100 + if year % 100 = 0 then 1 else 0 := by omega
  have hfourHundred : year / 400 = (year - 1) / 400 + if year % 400 = 0 then 1 else 0 := by omega
  rw [daysInYear, Date.daysBeforeYear, Date.daysBeforeYear, Int.add_sub_cancel, hfour, hhundred,
    hfourHundred]
  simp only [isLeapYear_iff, IsLeap]
  split_ifs <;> omega

theorem daysInYear_mem (year : Int) : 365 ≤ daysInYear year ∧ daysInYear year ≤ 366 := by
  rw [daysInYear]
  split <;> decide

theorem daysBeforeYear_le (h : year ≤ other) :
    Date.daysBeforeYear year ≤ Date.daysBeforeYear other := by
  rw [Date.daysBeforeYear, Date.daysBeforeYear]
  omega

theorem inYear_iff : InYear n year ↔ Date.daysBeforeYear year < n ∧
    n ≤ Date.daysBeforeYear year + daysInYear year := by
  rw [InYear, daysBeforeYear_succ]

/-- No day is in two years. -/
theorem InYear.unique (h : InYear n year) (hother : InYear n other) : year = other := by
  by_contra hne
  rcases lt_or_gt_of_ne hne with hlt | hlt
  · have hle := daysBeforeYear_le (Int.add_one_le_of_lt hlt)
    exact absurd (h.2.trans hle) (not_le_of_gt hother.1)
  · have hle := daysBeforeYear_le (Int.add_one_le_of_lt hlt)
    exact absurd (hother.2.trans hle) (not_le_of_gt h.1)

/-- Every day is in a year. -/
theorem exists_inYear (n : Int) : ∃ year, InYear n year := by
  induction n using Int.induction_on with
  | zero => exact ⟨0, by decide, by decide⟩
  | succ n ih =>
      obtain ⟨year, hfirst, hlast⟩ := ih
      by_cases h : (n : Int) + 1 ≤ Date.daysBeforeYear (year + 1)
      · exact ⟨year, by omega, h⟩
      · have hdays := daysInYear_mem (year + 1)
        refine ⟨year + 1, by omega, ?_⟩
        rw [daysBeforeYear_succ (year + 1)]
        omega
  | pred n ih =>
      obtain ⟨year, hfirst, hlast⟩ := ih
      by_cases h : Date.daysBeforeYear year < -(n : Int) - 1
      · exact ⟨year, h, by omega⟩
      · have hdays := daysInYear_mem (year - 1)
        have hyear := daysBeforeYear_succ (year - 1)
        rw [Int.sub_add_cancel] at hyear
        refine ⟨year - 1, by omega, ?_⟩
        rw [Int.sub_add_cancel]
        omega

end Years

section Weeks

variable {n weekday year : Int}

theorem count_weekdayOf (hweekday : 0 ≤ weekday ∧ weekday ≤ 6) (first : Int) (count : Nat) :
    (Nat.count (fun k => weekdayOf (first + k + 1) = weekday) count : Int) =
      (first + count - weekday - 1) / 7 - (first - weekday - 1) / 7 := by
  induction count with
  | zero =>
      rw [Nat.count_zero]
      omega
  | succ count ih =>
      rw [Nat.count_succ, Int.natCast_add, ih, weekdayOf]
      split <;> omega

/-- Weekdays are counted without counting. -/
theorem weekdaysUntil_eq (hweekday : 0 ≤ weekday ∧ weekday ≤ 6)
    (hn : Date.daysBeforeYear year ≤ n) : (weekdaysUntil weekday year n : Int) =
      (n - weekday - 1) / 7 - (Date.daysBeforeYear year - weekday - 1) / 7 := by
  rw [weekdaysUntil, count_weekdayOf hweekday]
  omega

theorem weekdayOf_thursdayOf (n : Int) : weekdayOf (thursdayOf n) = 3 := by
  rw [thursdayOf, weekdayOf, weekdayOf]
  omega

/-- A Thursday is counted by the weeks that have passed since the year began. -/
theorem weekdaysUntil_thursdayOf (hn : Date.daysBeforeYear year ≤ thursdayOf n) :
    (weekdaysUntil 3 year (thursdayOf n) : Int) =
      (thursdayOf n - Date.daysBeforeYear year + 6) / 7 := by
  have hthursday := weekdayOf_thursdayOf n
  rw [weekdayOf] at hthursday
  rw [weekdaysUntil_eq (by decide) hn]
  omega

/-- In a year that has that weekday on its second day each week is reached. -/
theorem weekdaysUntil_of_second_day (h : weekdayOf (Date.daysBeforeYear year + 2) = weekday)
    {week : Int} (hweek : 0 ≤ week) : (weekdaysUntil weekday year
      (Date.daysBeforeYear year + if week = 0 then 1 else 7 * week - 5) : Int) = week := by
  rw [weekdayOf] at h
  rw [weekdaysUntil_eq (by omega) (by omega)]
  omega

end Weeks

/-! ### Days -/

section Months

variable {year : Int}

theorem daysInMonth_mem (year month : Int) :
    28 ≤ daysInMonth year month ∧ daysInMonth year month ≤ 31 := by
  rw [daysInMonth]
  split_ifs <;> decide

theorem daysOfMonths_le {count other : Nat} (h : count ≤ other) :
    daysOfMonths year count ≤ daysOfMonths year other := by
  induction h with
  | refl => exact Int.le_refl _
  | @step other _ ih =>
      have hdays := daysInMonth_mem year (other + 1)
      rw [daysOfMonths]
      omega

/-- The months make up the year. -/
theorem daysOfMonths_twelve (year : Int) : daysOfMonths year 12 = daysInYear year := by
  rw [daysInYear]
  cases h : isLeapYear year <;> simp [daysOfMonths, daysInMonth, h]

end Months

/-- A day, in any year. -/
structure Day where
  year : Int
  month : Int
  day : Int
  month_mem : 1 ≤ month ∧ month ≤ 12
  day_mem : 1 ≤ day ∧ day ≤ daysInMonth year month

namespace Day

variable {year n : Int}

def ordinal (d : Day) : Int :=
  daysOfMonths d.year (d.month - 1).toNat + d.day

/-- The number of the day among all days; the first day of the year 1 has the number 1. -/
def number (d : Day) : Int :=
  Date.daysBeforeYear d.year + d.ordinal

theorem ordinal_mem (d : Day) : 1 ≤ d.ordinal ∧ d.ordinal ≤ daysInYear d.year := by
  obtain ⟨hfirst, hlast⟩ := d.month_mem
  obtain ⟨month, hmonth⟩ := Int.eq_ofNat_of_zero_le (show 0 ≤ d.month - 1 by omega)
  have hday := d.day_mem
  have hbefore : 0 ≤ daysOfMonths d.year month := daysOfMonths_le (Nat.zero_le month)
  have hafter : daysOfMonths d.year (month + 1) ≤ daysOfMonths d.year 12 :=
    daysOfMonths_le (by omega)
  have hsucc : daysOfMonths d.year (month + 1) =
      daysOfMonths d.year month + daysInMonth d.year d.month := by
    rw [daysOfMonths, ← hmonth, Int.sub_add_cancel]
  rw [daysOfMonths_twelve] at hafter
  rw [ordinal, hmonth, Int.toNat_natCast]
  omega

theorem inYear (d : Day) : InYear d.number d.year := by
  have hordinal := d.ordinal_mem
  rw [inYear_iff, number]
  omega

/-- The first months of a year have all the days up to the count of their days. -/
theorem exists_ordinal_of_months {count : Nat} (hcount : count ≤ 12) (hfirst : 1 ≤ n)
    (hlast : n ≤ daysOfMonths year count) : ∃ d : Day, d.year = year ∧ d.ordinal = n := by
  induction count with
  | zero => exact absurd (hfirst.trans hlast) (Int.not_le.2 Int.zero_lt_one)
  | succ count ih =>
      by_cases h : n ≤ daysOfMonths year count
      · exact ih (by omega) h
      · rw [daysOfMonths] at hlast
        refine ⟨⟨year, count + 1, n - daysOfMonths year count, by omega, by omega⟩, rfl, ?_⟩
        simp only [ordinal, Int.add_sub_cancel, Int.toNat_natCast]
        omega

theorem exists_ordinal (hfirst : 1 ≤ n) (hlast : n ≤ daysInYear year) :
    ∃ d : Day, d.year = year ∧ d.ordinal = n :=
  exists_ordinal_of_months (Nat.le_refl 12) hfirst (daysOfMonths_twelve year ▸ hlast)

/-- Every number is the number of a day. -/
theorem exists_number (n : Int) : ∃ d : Day, d.number = n := by
  obtain ⟨year, hyear⟩ := exists_inYear n
  rw [inYear_iff] at hyear
  obtain ⟨d, rfl, hd⟩ := exists_ordinal (show 1 ≤ n - Date.daysBeforeYear year by omega)
    (show n - Date.daysBeforeYear year ≤ daysInYear year by omega)
  exact ⟨d, by rw [number, hd]; omega⟩

/-- What a field of a date holds on a day. -/
def Has (d : Day) (v : Int) : Field → Prop
  | .year => v = d.year
  | .century => 0 ≤ d.year ∧ v = d.year / 100
  | .yearOfCentury => 0 ≤ d.year ∧ v = d.year % 100
  | .isoYear => InYear (thursdayOf d.number) v
  | .isoYearOfCentury => ∃ year, InYear (thursdayOf d.number) year ∧ 0 ≤ year ∧ v = year % 100
  | .quarter => 3 * (v - 1) < d.month ∧ d.month ≤ 3 * v
  | .month => v = d.month
  | .day => v = d.day
  | .ordinal => v = d.ordinal
  | .weekFromSunday => v = weekdaysUntil 6 d.year d.number
  | .weekFromMonday => v = weekdaysUntil 0 d.year d.number
  | .isoWeek => ∃ year, InYear (thursdayOf d.number) year ∧
      v = weekdaysUntil 3 year (thursdayOf d.number)
  | .weekday => v = weekdayOf d.number
  | _ => False

def first (year month : Int) (h : 1 ≤ month ∧ month ≤ 12) : Day :=
  ⟨year, month, 1, h, Int.le_refl 1, by
    have hdays := daysInMonth_mem year month
    omega⟩

/-- A week of a leap year that has the weekday on its second day. -/
theorem exists_week {weekday week : Int} (hleap : daysInYear year = 366)
    (hsecond : weekdayOf (Date.daysBeforeYear year + 2) = weekday) (h : 0 ≤ week ∧ week ≤ 53) :
    ∃ d : Day, d.year = year ∧ (weekdaysUntil weekday year d.number : Int) = week ∧
      (1 ≤ week → weekdayOf d.number = weekday) := by
  obtain ⟨d, rfl, hd⟩ : ∃ d : Day, d.year = year ∧
      d.ordinal = if week = 0 then 1 else 7 * week - 5 := exists_ordinal (by omega) (by omega)
  refine ⟨d, rfl, ?_, fun hweek => ?_⟩
  · rw [number, hd]
    exact weekdaysUntil_of_second_day hsecond h.1
  · rw [weekdayOf] at hsecond
    rw [number, hd, weekdayOf]
    omega

/-- The fourth of January is in the first ISO week of its year. -/
theorem inYear_thursdayOf_fourth (year : Int) :
    InYear (thursdayOf (Date.daysBeforeYear year + 4)) year := by
  have hdays := daysInYear_mem year
  rw [inYear_iff, thursdayOf, weekdayOf]
  omega

/-- Every number within the bounds of a field of a date is what the field holds on some day. -/
theorem exists_has {f : Field} {v : Int} (hf : f ∈ dateFields) (h : f.admits v = true) :
    ∃ d : Day, d.Has v f := by
  rw [Field.admits_iff] at h
  cases f with
  | year => exact ⟨first v 1 (by decide), rfl⟩
  | century =>
      simp only [Field.bounds] at h
      refine ⟨first (v * 100) 1 (by decide), ?_⟩
      show 0 ≤ v * 100 ∧ v = v * 100 / 100
      omega
  | yearOfCentury =>
      simp only [Field.bounds] at h
      refine ⟨first v 1 (by decide), ?_⟩
      show 0 ≤ v ∧ v = v % 100
      omega
  | isoYear =>
      obtain ⟨d, hd⟩ := exists_number (Date.daysBeforeYear v + 4)
      refine ⟨d, ?_⟩
      rw [Has, hd]
      exact inYear_thursdayOf_fourth v
  | isoYearOfCentury =>
      simp only [Field.bounds] at h
      obtain ⟨d, hd⟩ := exists_number (Date.daysBeforeYear v + 4)
      refine ⟨d, v, ?_, h.1, by omega⟩
      rw [hd]
      exact inYear_thursdayOf_fourth v
  | quarter =>
      simp only [Field.bounds] at h
      refine ⟨first 2000 (3 * v - 2) (by omega), ?_⟩
      show 3 * (v - 1) < 3 * v - 2 ∧ 3 * v - 2 ≤ 3 * v
      omega
  | month => exact ⟨first 2000 v h, rfl⟩
  | day => exact ⟨⟨2000, 1, v, by decide, h⟩, rfl⟩
  | ordinal =>
      obtain ⟨d, -, hd⟩ : ∃ d : Day, d.year = 2000 ∧ d.ordinal = v := exists_ordinal h.1 h.2
      exact ⟨d, hd.symm⟩
  | weekFromSunday =>
      have hsunday : weekdayOf (Date.daysBeforeYear 2000 + 2) = 6 := rfl
      obtain ⟨d, hyear, hd, -⟩ := exists_week rfl hsunday h
      exact ⟨d, by rw [Has, hyear]; exact hd.symm⟩
  | weekFromMonday =>
      have hmonday : weekdayOf (Date.daysBeforeYear 2012 + 2) = 0 := rfl
      obtain ⟨d, hyear, hd, -⟩ := exists_week rfl hmonday h
      exact ⟨d, by rw [Has, hyear]; exact hd.symm⟩
  | isoWeek =>
      simp only [Field.bounds] at h
      have hsecond : weekdayOf (Date.daysBeforeYear 2020 + 2) = 3 := rfl
      obtain ⟨d, hyear, hd, hweekday⟩ := exists_week rfl hsecond (show 0 ≤ v ∧ v ≤ 53 by omega)
      have hthursday : thursdayOf d.number = d.number := by
        rw [thursdayOf, hweekday h.1]
        omega
      refine ⟨d, 2020, ?_, ?_⟩
      · rw [hthursday, ← hyear]
        exact d.inYear
      · rw [hthursday]
        exact hd.symm
  | weekday =>
      simp only [Field.bounds] at h
      obtain ⟨d, hd⟩ := exists_number (v + 1)
      refine ⟨d, ?_⟩
      rw [Has, hd, weekdayOf]
      omega
  | _ => exact absurd hf (by decide)

end Day

namespace Date

def toDay (d : Date) : Day :=
  ⟨d.year, d.month, d.day, d.month_mem, d.day_mem⟩

variable {d : Date}

theorem number_toDay (d : Date) : d.toDay.number = daysBeforeYear d.year + d.ordinal :=
  rfl

theorem weekday_eq (d : Date) : d.weekday = weekdayOf d.toDay.number :=
  rfl

theorem ordinal_mem (d : Date) : 1 ≤ d.ordinal ∧ d.ordinal ≤ daysInYear d.year :=
  d.toDay.ordinal_mem

/-- The week of a year counts the weekdays on which its weeks begin. -/
theorem week_eq {start : Int} (hstart : 0 ≤ start ∧ start ≤ 6) (d : Date) :
    d.week start = weekdaysUntil start d.year d.toDay.number := by
  have hordinal := d.ordinal_mem
  rw [weekdaysUntil_eq hstart (by rw [number_toDay]; omega), week, weekday_eq, weekdayOf,
    number_toDay]
  omega

/-- An ISO week is in the year of its Thursday, and it counts the Thursdays there. -/
theorem isoWeek_eq (d : Date) : InYear (thursdayOf d.toDay.number) d.isoWeek.1 ∧
    d.isoWeek.2 = weekdaysUntil 3 d.isoWeek.1 (thursdayOf d.toDay.number) := by
  have hordinal := d.ordinal_mem
  have hweekday : 0 ≤ d.weekday ∧ d.weekday ≤ 6 := by
    rw [weekday]
    omega
  have hthursday : thursdayOf d.toDay.number =
      daysBeforeYear d.year + (d.ordinal + 3 - d.weekday) := by
    rw [thursdayOf, ← weekday_eq, number_toDay]
    omega
  have hlast := daysBeforeYear_succ (d.year - 1)
  rw [Int.sub_add_cancel] at hlast
  have hnext := daysBeforeYear_succ d.year
  have hdaysLast := daysInYear_mem (d.year - 1)
  have hdaysNext := daysInYear_mem (d.year + 1)
  rw [isoWeek]
  -- the Thursday is in the year before, in the year after or in the same year
  split_ifs <;> dsimp only <;>
    rw [inYear_iff, weekdaysUntil_thursdayOf (by omega), hthursday] <;> omega

/-- A field of a date holds on it what it has to hold on that day, and nothing else. -/
theorem field?_eq_some_iff {f : Field} (hf : f ∈ dateFields) {v : Int} :
    d.field? f = some v ↔ d.toDay.Has v f := by
  have hsome {w : Int} : some w = some v ↔ v = w := by
    rw [Option.some.injEq, eq_comm]
  have hthursday {year : Int} : InYear (thursdayOf d.toDay.number) year ↔ year = d.isoWeek.1 :=
    ⟨fun h => h.unique d.isoWeek_eq.1, fun h => h ▸ d.isoWeek_eq.1⟩
  cases f with
  | year | month | day | ordinal | weekday => exact hsome
  | century | yearOfCentury =>
      exact Option.ite_none_right_eq_some.trans (and_congr_right fun _ => hsome)
  | isoYear => exact hsome.trans hthursday.symm
  | isoYearOfCentury =>
      show (if 0 ≤ d.isoWeek.1 then some (d.isoWeek.1 % 100) else none) = some v ↔
        ∃ year, InYear (thursdayOf d.toDay.number) year ∧ 0 ≤ year ∧ v = year % 100
      simp only [hthursday, exists_eq_left, Option.ite_none_right_eq_some, hsome]
  | quarter =>
      show some d.quarter = some v ↔ 3 * (v - 1) < d.month ∧ d.month ≤ 3 * v
      rw [hsome, quarter]
      omega
  | weekFromSunday =>
      show some (d.week 6) = some v ↔ v = weekdaysUntil 6 d.year d.toDay.number
      rw [hsome, d.week_eq (by decide)]
  | weekFromMonday =>
      show some (d.week 0) = some v ↔ v = weekdaysUntil 0 d.year d.toDay.number
      rw [hsome, d.week_eq (by decide)]
  | isoWeek =>
      show some d.isoWeek.2 = some v ↔ ∃ year, InYear (thursdayOf d.toDay.number) year ∧
        v = weekdaysUntil 3 year (thursdayOf d.toDay.number)
      simp only [hthursday, exists_eq_left, hsome, d.isoWeek_eq.2]
  | _ => exact absurd hf (by decide)

end Date

end RecordRules.Calendar
