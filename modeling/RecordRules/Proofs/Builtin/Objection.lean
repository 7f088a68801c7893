import RecordRules.Builtin.Objection

/-!
Kinds of objections. What a rule objects to in the value of a field is a violation and names the
field; what it objects to in its parameter is a matter of configuration and names none.
-/

namespace RecordRules

namespace Message

/-- The message can be a rule's objection to the value of a field, or to the rule's parameter. -/
def IsObjection (m : Message) (field : String) : Prop :=
  m.kind = .ruleViolation ∧ m.field = some field ∨ m.kind = .configuration ∧ m.field = none

theorem IsObjection.of_ifNot {m found : Message} {field : String} {passed : Bool}
    (hm : m.IsObjection field) (h : m.ifNot passed = some found) : found.IsObjection field := by
  cases passed with
  | true => cases h
  | false =>
      rw [← Option.some.inj h]
      exact hm

end Message

namespace Builtin

variable {rule : Builtin} {isFile : String → Bool} {field : String} {value : Value}
variable {param : Option String} {within : Double → Double → Bool} {complaint : String → Message}
variable {found : Message}

theorem isObjection_of_boundObjection? (hcomplaint : ∀ raw, (complaint raw).IsObjection field)
    (h : boundObjection? rule field value param within complaint = some found) :
    found.IsObjection field := by
  unfold boundObjection? at h
  split at h
  · rw [← Option.some.inj h]
    exact .inl ⟨rfl, rfl⟩
  · split at h
    · rw [← Option.some.inj h]
      exact .inr ⟨rfl, rfl⟩
    · exact (hcomplaint _).of_ifNot h

theorem isObjection_of_lengthObjection? (hcomplaint : ∀ raw, (complaint raw).IsObjection field)
    (h : lengthObjection? rule field value param within complaint = some found) :
    found.IsObjection field := by
  unfold lengthObjection? at h
  split at h
  · split at h
    · rw [← Option.some.inj h]
      exact .inr ⟨rfl, rfl⟩
    · exact (hcomplaint _).of_ifNot h
  · rw [← Option.some.inj h]
    exact .inl ⟨rfl, rfl⟩

theorem isObjection_of_textObjection? {unusable : Message} {judge : String → String → Option Bool}
    (hunusable : unusable.IsObjection field) (hcomplaint : ∀ p, (complaint p).IsObjection field)
    (h : textObjection? field value param unusable judge complaint = some found) :
    found.IsObjection field := by
  unfold textObjection? at h
  split at h
  · split at h
    · rw [← Option.some.inj h]
      exact hunusable
    · split at h
      · rw [← Option.some.inj h]
        exact hunusable
      · exact (hcomplaint _).of_ifNot h
  · rw [← Option.some.inj h]
    exact .inl ⟨rfl, rfl⟩

theorem isObjection_of_fileObjection? (h : fileObjection? isFile field value = some found) :
    found.IsObjection field := by
  have hnot : (Message.notUploadedFile field).IsObjection field := .inl ⟨rfl, rfl⟩
  unfold fileObjection? at h
  split at h
  · split at h
    · rw [← Option.some.inj h]
      exact .inl ⟨rfl, rfl⟩
    · exact hnot.of_ifNot h
  · exact hnot.of_ifNot h

/-- A rule objects to the value of the field, or to its parameter. -/
theorem isObjection_of_objection? (h : rule.objection? isFile field value param = some found) :
    found.IsObjection field := by
  have hvalue (m : Message) (hkind : m.kind = .ruleViolation) (hfield : m.field = some field) :
      m.IsObjection field := .inl ⟨hkind, hfield⟩
  cases rule with
  | string | integer | numeric | email | array => exact (hvalue _ rfl rfl).of_ifNot h
  | regex | datetime =>
      exact isObjection_of_textObjection? (.inr ⟨rfl, rfl⟩) (fun _ => hvalue _ rfl rfl) h
  | min | max => exact isObjection_of_boundObjection? (fun _ => hvalue _ rfl rfl) h
  | minLength | maxLength =>
      rw [objection?] at h
      exact isObjection_of_lengthObjection? (fun _ => hvalue _ rfl rfl) h
  | file => exact isObjection_of_fileObjection? h

end Builtin

end RecordRules
