import RecordRules.Proofs.Builtin.Objection
import RecordRules.Proofs.Validation.Refusal

/-!
Values that are asked for are there. Whether a field is skipped and whether its requirements are met
is decided separately, but for a field that meets its requirements to be skipped is to be absent. So
the value that the other checks of the field are run on is always found, and no validation ends
because a path leads nowhere: a refusal is about the field at which it was found, and its kind is
never that of a missing field.
-/

namespace RecordRules

/-! ### Fields that meet their requirements -/

section

variable {record : Value} {field : String}

theorem Value.exists_get_eq_ok (h : record.has field = true) :
    ∃ value, record.get field = .ok value := by
  obtain ⟨value, hvalue⟩ := Option.isSome_iff_exists.1 h
  exact ⟨value, by rw [get, hvalue]⟩

/-- What the requirements of a field find in a record is what their trials find. -/
theorem firstFault?_requirementTrials_of_fieldRequirement {checks : List Check} {r : Requirement}
    (h : fieldRequirement field checks = .ok r) :
    Trial.firstFault? (requirementTrials record field checks) = r.fault? field record := by
  rw [fieldRequirement_eq] at h
  by_cases hlacks : ∃ check ∈ checks, check.lacksSibling = true
  · rw [if_pos hlacks] at h
    cases h
  · rw [if_neg hlacks] at h
    rw [firstFault?_requirementTrials_of_names hlacks, Except.ok.inj h]

end

/-! ### What refusals are about -/

/-- The refusal was found at this field, and the fault that reports it is about this field or, where
a parameter or a nameless directive is at fault, about none. -/
def Refusal.Concerns (field : String) : Refusal → Prop
  | blank f | nameless f | unknownRule f _ | predicate f => f = field
  | requirement f fault =>
    f = field ∧ fault.field = some field ∧ (fault.kind = .configuration ∨ fault.kind = .requirement)
  | objection f _ m => f = field ∧ m.IsObjection field

theorem Refusal.Concerns.kind_report_ne {field : String} {refusal : Refusal}
    (h : refusal.Concerns field) (messages : CustomMessages) (localizer : Localizer) :
    (refusal.report messages localizer).kind ≠ .missingField := by
  cases refusal with
  | blank | nameless | unknownRule | predicate => exact FaultKind.noConfusion
  | requirement f fault =>
      obtain ⟨-, -, hkind⟩ := h
      rw [report]
      rcases hkind with hkind | hkind <;> rw [hkind] <;> exact FaultKind.noConfusion
  | objection f name m =>
      rw [report, Message.reported]
      rcases h.2 with ⟨hkind, -⟩ | ⟨hkind, -⟩ <;> rw [hkind] <;> exact FaultKind.noConfusion

section

variable {isFile : String → Bool} {record : Value} {field : String} {checks : List Check}
variable {refusal : Refusal}

theorem Refusal.concerns_of_firstFault? {fault : Fault}
    (h : Trial.firstFault? (requirementTrials record field checks) = some fault) :
    (requirement field fault).Concerns field := by
  obtain ⟨trial, htrial, hfound⟩ := List.exists_of_findSome?_eq_some h
  refine ⟨rfl, ?_⟩
  simp only [requirementTrials, List.mem_cons, List.not_mem_nil, or_false] at htrial
  -- each of the five trials finds one fault or none, and that fault is on the field
  rcases htrial with rfl | rfl | rfl | rfl | rfl <;>
    · simp only [Trial.faultIf, Option.ite_none_right_eq_some, Option.some.injEq] at hfound
      rw [← hfound.2]
      simp

theorem Refusal.concerns_of_check {value : Value} {check : Check}
    (h : check.refusal? isFile field value = some refusal) : refusal.Concerns field := by
  cases check with
  | custom predicate =>
      simp only [Check.refusal?, Option.ite_none_right_eq_some, Option.some.injEq] at h
      rw [← h.2]
      rfl
  | standard d =>
      rw [Check.refusal?] at h
      split at h
      · rw [← Option.some.inj h]
        rfl
      · split at h
        · rw [← Option.some.inj h]
          rfl
        · obtain ⟨m, hm, rfl⟩ := Option.map_eq_some_iff.1 h
          exact ⟨rfl, Builtin.isObjection_of_objection? hm⟩

theorem Refusal.concerns_of_fieldRefusal?
    (h : fieldRefusal? isFile record field checks = some refusal) : refusal.Concerns field := by
  rcases cases_of_fieldRefusal? h with ⟨fault, hfault, rfl⟩ | ⟨value, -, check, -, hcheck⟩
  · exact concerns_of_firstFault? hfault
  · exact concerns_of_check hcheck

/-- Every refusal concerns a declared field. -/
theorem Refusal.exists_concerns_of_refusal? {specs : Specs}
    (h : specs.refusal? isFile record = some refusal) :
    ∃ field ∈ Keyed.keys specs.fields, refusal.Concerns field := by
  rcases Specs.cases_of_refusal? h with ⟨field, hblank, rfl⟩ | ⟨-, before, e, after, hfields, -, he⟩
  · obtain ⟨e, he, rfl⟩ := Option.map_eq_some_iff.1 hblank
    exact ⟨e.1, List.mem_map_of_mem (List.mem_of_find?_eq_some he), rfl⟩
  · have hmem : e ∈ specs.fields := hfields ▸ List.mem_append_right before List.mem_cons_self
    exact ⟨e.1, List.mem_map_of_mem hmem, concerns_of_fieldRefusal? he⟩

end

namespace Validator

/-- To fetch the value of a field never fails. -/
theorem validate_finds_values (localizers : List Localizer)
    (calls : List (Call localizers.length)) (i : Fin localizers.length) (isFile : String → Bool)
    (validator : Validator) (record : Value) :
    (∀ (field : String) (r : Requirement), r.fault? field record = none →
      (r.skips field record = true ↔ record.has field = false) ∧
        (r.skips field record = false → ∃ value, record.get field = .ok value)) ∧
      (∀ (field : String) (checks : List Check) (r : Requirement),
        fieldRequirement field checks = .ok r → r.fault? field record = none →
          validateField isFile validator.messages record field checks =
            match record.resolve? field with
            | some value =>
              Check.runAll isFile validator.messages field value (Check.others checks)
            | none => Run.report (.absent field)) ∧
      ∀ fault, (validator.validate isFile record
          (((Pool.new localizers).after calls).session i)).result = .error fault →
        fault.kind ≠ .missingField := by
  refine ⟨?_, ?_, ?_⟩
  · intro field r hpass
    have hskips := r.skips_eq_of_fault?_eq_none field record hpass
    refine ⟨by rw [hskips, Bool.not_eq_true'], fun hnot => Value.exists_get_eq_ok ?_⟩
    rwa [hskips, Bool.not_eq_false'] at hnot
  · intro field checks r hread hpass
    refine validateField_of_pass isFile validator.messages ?_
    rw [firstFault?_requirementTrials_of_fieldRequirement hread, hpass]
  · intro fault hfault
    rw [((Pool.sound_new localizers).after calls).validate_result_eq_ending] at hfault
    cases hrefusal : validator.specs.refusal? isFile record with
    | none =>
        rw [hrefusal] at hfault
        cases hfault
    | some refusal =>
        obtain ⟨field, -, hconcerns⟩ := Refusal.exists_concerns_of_refusal? hrefusal
        rw [hrefusal, ending] at hfault
        rw [← Except.error.inj hfault]
        exact hconcerns.kind_report_ne _ _

/-- A phone that is required and excludes a mail address, in a record that has it and holds null
there. -/
theorem validate_finds_phone :
    let r : Requirement := ⟨true, ["mail"]⟩
    let record := Value.object [("phone", .null)]
    r.fault? "phone" record = none ∧ r.skips "phone" record = false ∧
      ∃ value, record.get "phone" = .ok value := by
  intro r record
  have hpass : r.fault? "phone" record = none := rfl
  have hskips : r.skips "phone" record = false := rfl
  obtain ⟨-, hfound⟩ := (validate_finds_values [.english] [] 0 (fun _ => false) default record).1
    "phone" r hpass
  exact ⟨hpass, hskips, hfound hskips⟩

end Validator

end RecordRules
