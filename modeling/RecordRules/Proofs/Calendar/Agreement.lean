import RecordRules.Calendar.Agreement

/-!
What settles a date. A year, a month and a day do as soon as they are known, and a date that is
settled is what every field of a date says; where the fields settle none, at least one of the three
is missing.
-/

namespace RecordRules.Calendar

namespace Verdict

variable {α β : Type} {verdict : Verdict α} {f : α → Verdict β}

@[simp] theorem settled_bind (a : α) (f : α → Verdict β) : (settled a).bind f = f a :=
  rfl

/-- A verdict is open as soon as one step towards it is. -/
theorem bind_eq_unsettled_iff : verdict.bind f = .unsettled ↔
    verdict = .unsettled ∨ ∃ a, verdict = .settled a ∧ f a = .unsettled := by
  cases verdict <;> simp [bind]

/-- A verdict settles what its last step settles. -/
theorem bind_eq_settled_iff {b : β} : verdict.bind f = .settled b ↔
    ∃ a, verdict = .settled a ∧ f a = .settled b := by
  cases verdict <;> simp [bind]

theorem ofOption_ne_unsettled {found : Option α} : ofOption found ≠ .unsettled := by
  cases found <;> simp [ofOption]

end Verdict

namespace Fields

variable {fields : Fields} {year isoYear : Option Int} {y m d : Int}

@[simp] theorem wholeYear_none_none : wholeYear year none none = .settled year := by
  cases year <;> rfl

theorem namedDate_of_day (hm : fields .month = some m) (hd : fields .day = some d) :
    fields.namedDate (some y) isoYear = .ofOption (Date.of? y m d) := by
  unfold namedDate
  simp only [hm, hd]

/-- An incomplete day settles nothing by itself. -/
theorem namedDate_eq_unsettled (hday : year = none ∨ fields .month = none ∨ fields .day = none)
    (ho : fields .ordinal = none) (hs : fields .weekFromSunday = none)
    (hw : fields .weekFromMonday = none) : fields.namedDate year none = .unsettled := by
  unfold namedDate
  simp only [ho, hs, hw]
  rcases hday with h | h | h
  · simp only [h]
  · simp only [h]
  · rw [h]
    cases year <;> cases fields .month <;> rfl

/-- Without fields that stand for others the date is named by the year itself. -/
theorem date_of_year (hcentury : fields .century = none) (hplace : fields .yearOfCentury = none)
    (hiso : fields .isoYear = none) (hisoPlace : fields .isoYearOfCentury = none) :
    fields.date = (fields.namedDate (fields .year) none).bind fun d =>
      if fields.fit d then .settled d else .contradictory := by
  rw [date, hcentury, hplace, hiso, hisoPlace, wholeYear_none_none, wholeYear_none_none]
  rfl

/-- A date is settled only if all fields of a date are true of it. -/
theorem fit_of_date {d : Date} (h : fields.date = .settled d) : fields.fit d = true := by
  rw [date] at h
  obtain ⟨year, -, hyear⟩ := Verdict.bind_eq_settled_iff.1 h
  obtain ⟨isoYear, -, hnamed⟩ := Verdict.bind_eq_settled_iff.1 hyear
  obtain ⟨named, -, hfit⟩ := Verdict.bind_eq_settled_iff.1 hnamed
  split at hfit
  next hnamedFit =>
    cases hfit
    exact hnamedFit
  next => cases hfit

/-! ### Dates that are not settled -/

/-- What is known of a year is true of the year that it settles, or else of a leap year. -/
theorem exists_year_of_wholeYear {century place : Option Int}
    (hcentury : ∀ v, century = some v → 0 ≤ v) (hplace : ∀ v, place = some v → 0 ≤ v ∧ v ≤ 99)
    (h : wholeYear year century place ≠ .contradictory) :
    ∃ y, (∀ v, year = some v → v = y) ∧ (∀ v, century = some v → 0 ≤ y ∧ v = y / 100) ∧
      (∀ v, place = some v → 0 ≤ y ∧ v = y % 100) ∧
      (wholeYear year century place = .settled (some y) ∨ year = none ∧ isLeapYear y = true) := by
  cases year with
  | some y =>
      refine ⟨y, ?_⟩
      cases century <;> cases place <;> simp [wholeYear] at h ⊢ <;> omega
  | none =>
      cases century with
      | some c =>
          have hc := hcentury c rfl
          cases place with
          | some p =>
              have hp := hplace p rfl
              refine ⟨c * 100 + p, by simp, ?_, ?_, .inl rfl⟩
              · simp only [Option.some.injEq, forall_eq']
                omega
              · simp only [Option.some.injEq, forall_eq']
                omega
          | none =>
              -- the first leap year of the century
              have hleap : isLeapYear (c * 100 + 4) = true := by
                simp only [isLeapYear, Bool.and_eq_true, Bool.or_eq_true, beq_iff_eq, bne_iff_ne]
                omega
              refine ⟨c * 100 + 4, by simp, ?_, by simp, .inr ⟨rfl, hleap⟩⟩
              simp only [Option.some.injEq, forall_eq']
              omega
      | none =>
          cases place with
          | some p =>
              have hp := hplace p rfl
              refine ⟨p + if p < 70 then 2000 else 1900, by simp, by simp, ?_, .inl rfl⟩
              simp only [Option.some.injEq, forall_eq']
              omega
          | none => exact ⟨2000, by simp, by simp, by simp, .inr ⟨rfl, rfl⟩⟩

theorem wholeYear_ne_unsettled (year place : Option Int) :
    wholeYear year none place ≠ .unsettled := by
  cases year <;> cases place <;> simp [wholeYear]
  split <;> simp

/-- Where a year is known that settles no date, a month or a day is missing. -/
theorem day_incomplete (h : fields.date = .unsettled)
    (hyear : wholeYear (fields .year) (fields .century) (fields .yearOfCentury) =
      .settled (some y)) : fields .month = none ∨ fields .day = none := by
  cases hm : fields .month with
  | none => exact .inl rfl
  | some m =>
      cases hd : fields .day with
      | none => exact .inr rfl
      | some d =>
          rw [date, hyear, Verdict.settled_bind] at h
          rcases Verdict.bind_eq_unsettled_iff.1 h with hiso | ⟨isoYear, -, hnamed⟩
          · exact absurd hiso (wholeYear_ne_unsettled _ _)
          · rw [namedDate_of_day hm hd] at hnamed
            rcases Verdict.bind_eq_unsettled_iff.1 hnamed with hdate | ⟨date, -, hfit⟩
            · exact absurd hdate Verdict.ofOption_ne_unsettled
            · split at hfit <;> cases hfit

end Fields

end RecordRules.Calendar
