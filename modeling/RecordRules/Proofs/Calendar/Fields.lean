import RecordRules.Calendar.Item

/-!
What fields learn. A number that is within the bounds of its field, and that the field does not
contradict, becomes known and changes nothing else; so whatever a text tells, all known numbers are
within their bounds.
-/

namespace RecordRules.Calendar

theorem Field.admits_iff {f : Field} {v : Int} :
    f.admits v = true ↔ f.bounds.1 ≤ v ∧ v ≤ f.bounds.2 := by
  rw [admits, Bool.and_eq_true, decide_eq_true_eq, decide_eq_true_eq]

namespace Fields

variable {f : Field} {v : Int} {fields learned : Fields} {cs rest : List Char}

/-- The fields with that number in one of them. -/
def set (f : Field) (v : Int) (fields : Fields) : Fields :=
  fun g => if g = f then some v else fields g

theorem set_eq_self (h : fields f = some v) : fields.set f v = fields := by
  funext g
  rw [set]
  split
  next hg => rw [hg, h]
  next => rfl

theorem put?_eq_some_iff : fields.put? f v = some learned ↔
    f.admits v = true ∧ (∀ known, fields f = some known → known = v) ∧
      learned = fields.set f v := by
  rw [put?, Option.ite_none_right_eq_some]
  refine and_congr_right fun _ => ?_
  cases hf : fields f with
  | none =>
      constructor
      · intro h
        exact ⟨fun _ hknown => (nomatch hknown), (Option.some.inj h).symm⟩
      · rintro ⟨-, rfl⟩
        rfl
  | some known =>
      rw [Option.ite_none_right_eq_some, Option.some.injEq]
      constructor
      · rintro ⟨rfl, rfl⟩
        exact ⟨fun other hother => (Option.some.inj hother).symm, (set_eq_self hf).symm⟩
      · rintro ⟨hknown, rfl⟩
        obtain rfl := hknown known rfl
        exact ⟨rfl, (set_eq_self hf).symm⟩

/-- All known numbers are within the bounds of their fields. -/
def Admitted (fields : Fields) : Prop :=
  ∀ f v, fields f = some v → f.admits v = true

theorem admitted_unknown : Admitted unknown := by
  intro f v h
  cases h

/-- A number that is within the bounds may stand for one that is not known. -/
theorem Admitted.getD_mem (h : fields.Admitted) (hv : f.admits v = true) :
    f.bounds.1 ≤ (fields f).getD v ∧ (fields f).getD v ≤ f.bounds.2 := by
  rw [← Field.admits_iff]
  cases hf : fields f with
  | none => exact hv
  | some known => exact h f known hf

theorem Admitted.put? (h : fields.Admitted) (hput : fields.put? f v = some learned) :
    learned.Admitted := by
  obtain ⟨hv, -, rfl⟩ := put?_eq_some_iff.1 hput
  intro g w hg
  rw [set] at hg
  split at hg
  next hgf =>
    rw [hgf, ← Option.some.inj hg]
    exact hv
  next => exact h g w hg

theorem Admitted.record? {q : Quantity} (h : fields.Admitted)
    (hrecord : q.record? v fields = some learned) : learned.Admitted := by
  cases q with
  | plain field => exact h.put? hrecord
  | hour =>
      obtain ⟨half, hhalf, hhour⟩ := Option.bind_eq_some_iff.1 hrecord
      exact (h.put? hhalf).put? hhour
  | hourOnDial => exact h.put? (Option.ite_none_right_eq_some.1 hrecord).2
  | weekdayFromSunday => exact h.put? (Option.ite_none_right_eq_some.1 hrecord).2
  | weekdayFromMonday => exact h.put? hrecord

theorem Admitted.learn? {found : Option (Int × List Char)} (h : fields.Admitted)
    (hlearn : Item.learn? f fields found = some (learned, rest)) : learned.Admitted := by
  cases found with
  | none => cases hlearn
  | some found =>
      obtain ⟨other, hput, heq⟩ := Option.map_eq_some_iff.1 hlearn
      cases heq
      exact h.put? hput

theorem Admitted.read? {item : Item} (h : fields.Admitted)
    (hread : item.read? fields cs = some (learned, rest)) : learned.Admitted := by
  cases item with
  | number q =>
      obtain ⟨⟨v, after⟩, -, hrecord⟩ := Option.bind_eq_some_iff.1 hread
      obtain ⟨other, hother, heq⟩ := Option.bind_eq_some_iff.1 hrecord
      cases heq
      exact h.record? hother
  | monthName | weekdayName | halfDay | digits | offset => exact h.learn? hread
  | blanks | zoneName =>
      cases hread
      exact h
  | literal | timeMark =>
      cases cs with
      | nil => cases hread
      | cons c cs =>
          obtain ⟨-, ⟨⟩⟩ := Option.ite_none_right_eq_some.1 hread
          exact h
  | fraction | pointAndDigits =>
      simp only [Item.read?] at hread
      split at hread
      next => exact h.learn? hread
      next =>
        cases hread
        exact h
  | zone =>
      simp only [Item.read?] at hread
      split at hread
      next => exact h.learn? hread
      next => exact h.learn? hread

theorem Admitted.readAll? {items : List Item} (h : fields.Admitted)
    (hread : Item.readAll? items fields cs = some (learned, rest)) : learned.Admitted := by
  induction items generalizing fields cs with
  | nil =>
      cases hread
      exact h
  | cons item items ih =>
      rw [Item.readAll?] at hread
      split at hread
      next between after hitem => exact ih (h.read? hitem) hread
      next => cases hread

theorem admitted_of_fields? {items : List Item} (h : Item.fields? items cs = some learned) :
    learned.Admitted := by
  rw [Item.fields?] at h
  split at h
  next hread =>
    cases h
    exact admitted_unknown.readAll? hread
  next => cases h

end Fields

end RecordRules.Calendar
