import RecordRules.Calendar.Date

/-!
Days of the calendar.
-/

namespace RecordRules.Calendar

/-- Every fourth year is a leap year, but of the years that end a century only every fourth. -/
def IsLeap (year : Int) : Prop :=
  year % 4 = 0 ∧ (year % 100 ≠ 0 ∨ year % 400 = 0)

instance (year : Int) : Decidable (IsLeap year) :=
  inferInstanceAs (Decidable (_ ∧ _))

/-- The last day of a month. -/
def lastDay (year : Int) : Nat → Nat
  | 2 => if IsLeap year then 29 else 28
  | 4 | 6 | 9 | 11 => 30
  | _ => 31

theorem isLeapYear_iff {year : Int} : isLeapYear year = true ↔ IsLeap year := by
  simp [isLeapYear, IsLeap]

theorem daysInMonth_eq_lastDay (year : Int) (month : Nat) :
    daysInMonth year month = lastDay year month := by
  rw [daysInMonth, lastDay.eq_def]
  simp only [isLeapYear_iff]
  split <;> grind

theorem lastDay_congr {year other : Int} (h : IsLeap year ↔ IsLeap other) (month : Nat) :
    lastDay year month = lastDay other month := by
  simp only [lastDay.eq_def, h]

/-- Months are as long in one leap year as in another. -/
theorem daysInMonth_congr {year other : Int} (h : isLeapYear year = isLeapYear other)
    (month : Int) : daysInMonth year month = daysInMonth other month := by
  rw [daysInMonth, daysInMonth, h]

namespace Date

variable {year month day : Int} {d : Date}

theorem of?_eq_some_iff :
    of? year month day = some d ↔ d.year = year ∧ d.month = month ∧ d.day = day := by
  constructor
  · intro h
    obtain ⟨-, ⟨⟩⟩ := Option.dite_none_right_eq_some.1 h
    exact ⟨rfl, rfl, rfl⟩
  · rintro ⟨rfl, rfl, rfl⟩
    exact dif_pos ⟨d.year_mem, d.month_mem, d.day_mem⟩

theorem isSome_of?_iff :
    (of? year month day).isSome = true ↔ (firstYear ≤ year ∧ year ≤ lastYear) ∧
      (1 ≤ month ∧ month ≤ 12) ∧ 1 ≤ day ∧ day ≤ daysInMonth year month := by
  rw [of?]
  split <;> simp_all

end Date

end RecordRules.Calendar
