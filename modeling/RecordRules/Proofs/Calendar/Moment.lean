import RecordRules.Calendar.Format
import RecordRules.Proofs.Calendar.Agreement
import RecordRules.Proofs.Calendar.Day
import RecordRules.Proofs.Calendar.Fields

/-!
The points in time that texts tell of. A text that matches its format tells of a point in time with
those of its fields that were compared with each other: the clock and the offset, the year, the month
and the day, and every field of a date that is settled. The count of seconds since 1970 is compared
with nothing, and neither are weeks and weekdays as long as no date is settled; so there are texts that
match and tell of no point in time.
-/

namespace RecordRules.Calendar

/-- A point in time, as it is told at some offset from universal time. The sixtieth second is a leap
second. -/
structure Moment where
  day : Day
  hour : Int
  minute : Int
  second : Int
  nanosecond : Int
  offset : Int
  hour_mem : 0 ≤ hour ∧ hour ≤ 23
  minute_mem : 0 ≤ minute ∧ minute ≤ 59
  second_mem : 0 ≤ second ∧ second ≤ 60
  nanosecond_mem : 0 ≤ nanosecond ∧ nanosecond ≤ 999999999
  offset_lt : offset.natAbs < 86400

namespace Moment

def epoch : Day :=
  .first 1970 1 (by decide)

/-- The seconds since the epoch began at the offset 0. A leap second counts as the second before. -/
def timestamp (m : Moment) : Int :=
  86400 * (m.day.number - epoch.number) + 3600 * m.hour + 60 * m.minute +
    (if m.second = 60 then 59 else m.second) - m.offset

/-- What a field holds at a moment. -/
def Holds (m : Moment) (v : Int) : Field → Prop
  | .halfDay => v = m.hour / 12
  | .hourOfHalf => v = m.hour % 12
  | .minute => v = m.minute
  | .second => v = m.second
  | .nanosecond => v = m.nanosecond
  | .offset => v = m.offset
  | .timestamp => v = m.timestamp
  | f => m.day.Has v f

theorem holds_of_has {m : Moment} {f : Field} {v : Int} (hf : f ∈ dateFields)
    (h : m.day.Has v f) : m.Holds v f := by
  cases f with
  | halfDay | hourOfHalf | minute | second | nanosecond | offset | timestamp =>
      exact absurd hf (by decide)
  | _ => exact h

/-- Every count of seconds is reached, whatever the offset. -/
theorem exists_timestamp (t : Int) {offset nanosecond : Int} (hoffset : offset.natAbs < 86400)
    (hnanosecond : 0 ≤ nanosecond ∧ nanosecond ≤ 999999999) :
    ∃ m : Moment, m.timestamp = t ∧ m.offset = offset ∧ m.nanosecond = nanosecond := by
  obtain ⟨d, hd⟩ := Day.exists_number (epoch.number + (t + offset) / 86400)
  refine ⟨⟨d, (t + offset) % 86400 / 3600, (t + offset) % 3600 / 60, (t + offset) % 60, nanosecond,
    offset, by omega, by omega, by omega, hnanosecond, hoffset⟩, ?_, rfl, rfl⟩
  rw [timestamp, hd]
  dsimp only
  omega

end Moment

/-- The year, the month and the day, and what also tells the year. -/
def civilFields : List Field :=
  [.year, .century, .yearOfCentury, .month, .day]

/-- The fields of a time of day in full seconds. -/
def clockFields : List Field :=
  [.halfDay, .hourOfHalf, .minute, .second]

/-- The fields that no date and no count of seconds tells. -/
def freeFields : List Field :=
  [.nanosecond, .offset]

theorem sublist_dateFields : civilFields.Sublist dateFields := by
  decide

theorem notMem_dateFields {f : Field} (h : f ∈ clockFields ++ freeFields) : f ∉ dateFields := by
  cases f with
  | halfDay | hourOfHalf | minute | second | nanosecond | offset => decide
  | _ => exact absurd h (by decide)

namespace Fields

variable {fields : Fields}

/-- All known numbers are those of one point in time. -/
def OfMoment (fields : Fields) : Prop :=
  ∃ m : Moment, ∀ f v, fields f = some v → m.Holds v f

/-- A field that was compared with all others with which it could disagree. Of a date that is not
settled these are the year, the month and the day, and a field that has no other of a date beside it;
a count of seconds has to stand without a date and without a time of day. -/
inductive Vouched (fields : Fields) : Field → Prop
  | clock {f : Field} (hf : f ∈ clockFields ++ freeFields) : Vouched fields f
  | civil {f : Field} (hf : f ∈ civilFields) : Vouched fields f
  | settled {f : Field} {d : Date} (hf : f ∈ dateFields) (hdate : fields.date = .settled d) :
      Vouched fields f
  | alone {f : Field} (hf : f ∈ dateFields)
      (halone : ∀ g ∈ dateFields, g ≠ f → fields g = none) : Vouched fields f
  | timestamp (halone : ∀ f ∈ dateFields ++ clockFields, fields f = none) :
      Vouched fields .timestamp

/-! ### The day -/

/-- The year, the month and the day are those of a day, also where they do not settle it. -/
theorem exists_day_of_unsettled (h : fields.Admitted) (hdate : fields.date = .unsettled)
    (hpossible : fields.dayIsPossible = true) :
    ∃ d : Day, ∀ f ∈ civilFields, ∀ v, fields f = some v → d.Has v f := by
  have hwhole : wholeYear (fields .year) (fields .century) (fields .yearOfCentury) ≠
      .contradictory := by
    intro hcontradictory
    rw [date, hcontradictory] at hdate
    cases hdate
  obtain ⟨y, hyear, hcentury, hplace, hy⟩ := exists_year_of_wholeYear
    (fun v hv => (Field.admits_iff.1 (h .century v hv)).1)
    (fun v hv => Field.admits_iff.1 (h .yearOfCentury v hv)) hwhole
  have hmonth : 1 ≤ (fields .month).getD 1 ∧ (fields .month).getD 1 ≤ 12 := h.getD_mem (by decide)
  have hday : 1 ≤ (fields .day).getD 1 ∧ (fields .day).getD 1 ≤ 31 := h.getD_mem (by decide)
  have hlast : (fields .day).getD 1 ≤ daysInMonth y ((fields .month).getD 1) := by
    cases hd : fields .day with
    | none =>
        have hdays := daysInMonth_mem y ((fields .month).getD 1)
        exact (show (1 : Int) ≤ 28 by decide).trans hdays.1
    | some d =>
        cases hm : fields .month with
        | none =>
            rw [hd] at hday
            exact hday.2
        | some m =>
            rcases hy with hsettled | ⟨hnone, hleap⟩
            · have hmissing := day_incomplete hdate hsettled
              rw [hm, hd] at hmissing
              simp at hmissing
            · rw [dayIsPossible, hnone, hm, hd] at hpossible
              have hexists := (Date.isSome_of?_iff.1 hpossible).2.2.2
              rwa [daysInMonth_congr (hleap.trans (show true = isLeapYear 2000 from rfl))]
  refine ⟨⟨y, (fields .month).getD 1, (fields .day).getD 1, hmonth, hday.1, hlast⟩, ?_⟩
  intro f hf v hv
  cases f with
  | year => exact hyear v hv
  | century => exact hcentury v hv
  | yearOfCentury => exact hplace v hv
  | month | day =>
      show v = (fields _).getD 1
      rw [hv]
      rfl
  | _ => exact absurd hf (by decide)

/-- A date that fits has what the fields of a date say. -/
theorem has_of_fit {d : Date} (hfit : fields.fit d = true) {f : Field} (hf : f ∈ dateFields)
    {v : Int} (hv : fields f = some v) : d.toDay.Has v f := by
  have hfield := List.all_eq_true.1 hfit f hf
  rw [hv] at hfield
  exact (Date.field?_eq_some_iff hf).1 (eq_of_beq hfield).symm

/-- Fields that agree tell of a day as far as they are vouched for. -/
theorem exists_day (h : fields.Admitted) (hagree : fields.agree = true) :
    ∃ d : Day, ∀ f ∈ dateFields, fields.Vouched f → ∀ v, fields f = some v → d.Has v f := by
  rw [agree, Bool.and_eq_true, Bool.and_eq_true] at hagree
  obtain ⟨⟨hpossible, -⟩, hday⟩ := hagree
  cases hdate : fields.date with
  | settled d => exact ⟨d.toDay, fun f hf _ v hv => has_of_fit (fit_of_date hdate) hf hv⟩
  | contradictory =>
      rw [hdate] at hpossible
      cases hpossible
  | unsettled =>
      by_cases halone : ∃ f ∈ dateFields, (∃ v, fields f = some v) ∧
          ∀ g ∈ dateFields, g ≠ f → fields g = none
      · obtain ⟨f, hf, ⟨v, hv⟩, hothers⟩ := halone
        obtain ⟨d, hd⟩ := Day.exists_has hf (h f v hv)
        refine ⟨d, fun g hg _ w hw => ?_⟩
        by_cases hgf : g = f
        · obtain rfl := hgf
          rwa [← Option.some.inj (hv.symm.trans hw)]
        · rw [hothers g hg hgf] at hw
          cases hw
      · obtain ⟨d, hd⟩ := exists_day_of_unsettled h hdate hday
        refine ⟨d, fun f hf hvouched v hv => ?_⟩
        cases hvouched with
        | clock hclock => exact absurd hf (notMem_dateFields hclock)
        | civil hcivil => exact hd f hcivil v hv
        | settled _ hsettled =>
            rw [hdate] at hsettled
            cases hsettled
        | alone _ hothers => exact absurd ⟨f, hf, ⟨v, hv⟩, hothers⟩ halone
        | timestamp => exact absurd hf (by decide)

/-! ### The moment -/

/-- An offset that is possible, or none, is shorter than a day. -/
theorem offset_lt (h : fields.offsetIsPossible = true) :
    ((fields .offset).getD 0).natAbs < 86400 := by
  rw [offsetIsPossible] at h
  cases hf : fields .offset with
  | none => decide
  | some seconds =>
      rw [hf] at h
      exact of_decide_eq_true h

/-- On any day there is a moment with the time of day that is known. -/
theorem exists_clock (h : fields.Admitted) (hoffset : fields.offsetIsPossible = true) (d : Day) :
    ∃ m : Moment, m.day = d ∧
      ∀ f ∈ clockFields ++ freeFields, ∀ v, fields f = some v → m.Holds v f := by
  have hhalf : 0 ≤ (fields .halfDay).getD 0 ∧ (fields .halfDay).getD 0 ≤ 1 :=
    h.getD_mem (by decide)
  have hhour : 0 ≤ (fields .hourOfHalf).getD 0 ∧ (fields .hourOfHalf).getD 0 ≤ 11 :=
    h.getD_mem (by decide)
  refine ⟨⟨d, 12 * (fields .halfDay).getD 0 + (fields .hourOfHalf).getD 0,
    (fields .minute).getD 0, (fields .second).getD 0, (fields .nanosecond).getD 0,
    (fields .offset).getD 0, by omega, h.getD_mem (by decide), h.getD_mem (by decide),
    h.getD_mem (by decide), offset_lt hoffset⟩, rfl, ?_⟩
  intro f hf v hv
  have hvalue : (fields f).getD 0 = v := by rw [hv]; rfl
  cases f with
  | halfDay =>
      show v = (12 * (fields .halfDay).getD 0 + (fields .hourOfHalf).getD 0) / 12
      omega
  | hourOfHalf =>
      show v = (12 * (fields .halfDay).getD 0 + (fields .hourOfHalf).getD 0) % 12
      omega
  | minute | second | nanosecond | offset => exact hvalue.symm
  | _ => exact absurd hf (by decide)

/-- Fields that agree tell of a moment as far as they are vouched for. -/
theorem exists_moment (h : fields.Admitted) (hagree : fields.agree = true) :
    ∃ m : Moment, ∀ f v, fields.Vouched f → fields f = some v → m.Holds v f := by
  have hoffset : fields.offsetIsPossible = true := by
    rw [agree, Bool.and_eq_true, Bool.and_eq_true] at hagree
    exact hagree.1.2
  by_cases htimestamp : ∃ t, fields .timestamp = some t ∧
      ∀ f ∈ dateFields ++ clockFields, fields f = none
  · obtain ⟨t, ht, hothers⟩ := htimestamp
    have hnanosecond : 0 ≤ (fields .nanosecond).getD 0 ∧
        (fields .nanosecond).getD 0 ≤ 999999999 := h.getD_mem (by decide)
    obtain ⟨m, hm, hmoffset, hmnanosecond⟩ :=
      Moment.exists_timestamp t (offset_lt hoffset) hnanosecond
    refine ⟨m, fun f v _ hv => ?_⟩
    cases f with
    | timestamp => exact (Option.some.inj (ht.symm.trans hv)).symm.trans hm.symm
    | nanosecond =>
        rw [hv] at hmnanosecond
        exact hmnanosecond.symm
    | offset =>
        rw [hv] at hmoffset
        exact hmoffset.symm
    | _ =>
        rw [hothers _ (by decide)] at hv
        cases hv
  · obtain ⟨d, hd⟩ := exists_day h hagree
    obtain ⟨m, rfl, hm⟩ := exists_clock h hoffset d
    refine ⟨m, fun f v hvouched hv => ?_⟩
    cases hvouched with
    | clock hf => exact hm f hf v hv
    | civil hf =>
        have hdate : f ∈ dateFields := sublist_dateFields.subset hf
        exact Moment.holds_of_has hdate (hd f hdate (.civil hf) v hv)
    | settled hf hdate => exact Moment.holds_of_has hf (hd f hf (.settled hf hdate) v hv)
    | alone hf hothers => exact Moment.holds_of_has hf (hd f hf (.alone hf hothers) v hv)
    | timestamp hothers => exact absurd ⟨v, hv, hothers⟩ htimestamp

end Fields

def parsed? (text format : String) : Option Fields :=
  (formatItems? format.toList).bind fun items => Item.fields? items text.toList

theorem matches?_eq_some_true_iff {text format : String} : matches? text format = some true ↔
    ∃ fields, parsed? text format = some fields ∧ fields.agree = true := by
  rw [matches?, parsed?]
  cases formatItems? format.toList with
  | none => simp
  | some items =>
      rw [Option.map_some, Option.bind_some, Option.some.injEq]
      cases Item.fields? items text.toList <;> simp

/-- A text that matches its format tells of a moment as far as its fields are vouched for. -/
theorem exists_moment_of_matches? {text format : String} (h : matches? text format = some true) :
    ∃ fields, parsed? text format = some fields ∧
      ∃ m : Moment, ∀ f v, fields.Vouched f → fields f = some v → m.Holds v f := by
  obtain ⟨fields, hparsed, hagree⟩ := matches?_eq_some_true_iff.1 h
  obtain ⟨items, -, hfields⟩ := Option.bind_eq_some_iff.1 hparsed
  exact ⟨fields, hparsed, Fields.exists_moment (Fields.admitted_of_fields? hfields) hagree⟩

/-- A leap day that is settled is vouched for with its weekday. -/
theorem exists_moment_of_leap_day :
    matches? "Thu 2024-02-29 23:59" "D Y-m-d H:i" = some true ∧
      ∃ m : Moment, m.Holds 29 .day ∧ m.Holds 3 .weekday ∧ m.Holds 59 .minute := by
  have hmatches : matches? "Thu 2024-02-29 23:59" "D Y-m-d H:i" = some true := by decide
  obtain ⟨fields, hparsed, m, hm⟩ := exists_moment_of_matches? hmatches
  have hfields : (parsed? "Thu 2024-02-29 23:59" "D Y-m-d H:i").map (fun fields : Fields =>
      (fields.date, fields .day, fields .weekday, fields .minute)) =
        some (.settled ⟨2024, 2, 29, by decide, by decide, by decide⟩, some 29, some 3, some 59) := by
    decide
  rw [hparsed] at hfields
  simp only [Option.map_some, Option.some.injEq, Prod.mk.injEq] at hfields
  obtain ⟨hdate, hday, hweekday, hminute⟩ := hfields
  exact ⟨hmatches, m, hm _ _ (.civil (by decide)) hday,
    hm _ _ (.settled (by decide) hdate) hweekday, hm _ _ (.clock (by decide)) hminute⟩

/-- The second in which 1970 began matches as a point in time of the year 2024. -/
theorem not_forall_ofMoment : ¬ ∀ text format, matches? text format = some true →
    ∃ fields, parsed? text format = some fields ∧ fields.OfMoment := by
  intro h
  obtain ⟨fields, hparsed, m, hm⟩ := h "0 2024" "U Y" (by decide)
  have hfields : (parsed? "0 2024" "U Y").map (fun fields => (fields .timestamp, fields .year)) =
      some (some 0, some 2024) := by decide
  rw [hparsed] at hfields
  obtain ⟨htimestamp, hyear⟩ := Prod.mk.inj (Option.some.inj hfields)
  have hseconds : 0 = m.timestamp := hm .timestamp 0 htimestamp
  have hday : 2024 = m.day.year := hm .year 2024 hyear
  have hfirst : Date.daysBeforeYear 2024 < m.day.number := hday ▸ m.day.inYear.1
  have hbefore : Date.daysBeforeYear 2024 = 738885 := by decide
  have hepoch : Moment.epoch.number = 719163 := by decide
  have hhour := m.hour_mem
  have hminute := m.minute_mem
  have hsecond := m.second_mem
  have hoffset := m.offset_lt
  rw [Moment.timestamp, hepoch] at hseconds
  omega

end RecordRules.Calendar
