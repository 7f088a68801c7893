import RecordRules.Proofs.Validation.Trial

/-!
Requirements read off the checks of a field. Reading them is refused exactly if some `requiredWithout`
names no sibling, and otherwise gives all siblings in order. What is then found wrong with a record
is what the trials of the requirements find, and if they find nothing the field is skipped exactly if
it is absent.
-/

namespace RecordRules

theorem Directive.not_isNamed_requiredWithout {d : Directive} (h : d.isNamed "required" = true) :
    d.isNamed "requiredWithout" = false := by
  have hname := Text.sameLetters_iff.1 h
  rw [Bool.eq_false_iff]
  intro hother
  have hwithout := Text.sameLetters_iff.1 hother
  rw [hname] at hwithout
  revert hwithout
  decide +kernel

namespace Check

theorem isRequirement_eq (check : Check) : check.isRequirement = !check.isOrdinary := by
  cases check <;> simp [isRequirement, isOrdinary]

/-- To leave the requirements out is to keep the ordinary checks. -/
theorem others_eq_filter (checks : List Check) : others checks = checks.filter isOrdinary := by
  simp only [others, isRequirement_eq, Bool.not_not]

end Check

namespace Requirement

theorem add_eq (r : Requirement) (check : Check) :
    r.add check =
      if check.lacksSibling then .error Message.requiredWithoutNeedsField.fault
      else .ok ⟨r.required || check.isDirective "required",
        r.siblings ++ check.sibling?.toList⟩ := by
  cases check with
  | custom p => simp [add]
  | standard d =>
      by_cases hrequired : d.isNamed "required" = true
      · have hwithout := Directive.not_isNamed_requiredWithout hrequired
        simp [add, hrequired, hwithout]
      · by_cases hwithout : d.isNamed "requiredWithout" = true
        · cases hparam : d.param with
          | none => simp [add, hrequired, hwithout, hparam]
          | some param =>
              by_cases hempty : param = "" <;>
                simp [add, hrequired, hwithout, hparam, hempty, Option.filter]
        · simp [add, hrequired, hwithout]

theorem foldlM_add_eq (checks : List Check) (r : Requirement) :
    checks.foldlM add r =
      if ∃ check ∈ checks, check.lacksSibling then
        .error Message.requiredWithoutNeedsField.fault
      else .ok ⟨r.required || checks.any (Check.isDirective "required"),
        r.siblings ++ Check.siblings checks⟩ := by
  induction checks generalizing r with
  | nil => simp [Check.siblings, pure, Except.pure]
  | cons check checks ih =>
      rw [List.foldlM_cons, add_eq]
      by_cases hlacks : check.lacksSibling = true
      · simp [hlacks, bind, Except.bind]
      · have hsiblings : Check.siblings (check :: checks) =
            check.sibling?.toList ++ Check.siblings checks := by
          cases h : check.sibling? <;> simp [Check.siblings, h]
        simp only [hlacks, Bool.false_eq_true, if_false, bind, Except.bind, ih, hsiblings]
        simp [hlacks, Bool.or_assoc]

theorem ofChecks_eq (checks : List Check) :
    ofChecks checks =
      if ∃ check ∈ checks, check.lacksSibling then
        .error Message.requiredWithoutNeedsField.fault
      else .ok ⟨checks.any (Check.isDirective "required"), Check.siblings checks⟩ := by
  rw [ofChecks, foldlM_add_eq]
  simp

end Requirement

theorem fieldRequirement_eq (field : String) (checks : List Check) :
    fieldRequirement field checks =
      if ∃ check ∈ checks, check.lacksSibling then
        .error (Message.requiredWithoutNeedsField.fault.onField field)
      else .ok ⟨checks.any (Check.isDirective "required"), Check.siblings checks⟩ := by
  rw [fieldRequirement, Requirement.ofChecks_eq]
  by_cases h : ∃ check ∈ checks, check.lacksSibling = true
  · rw [if_pos h, if_pos h]
  · rw [if_neg h, if_neg h]

namespace Requirement

variable (r : Requirement) (field : String) (record : Value)

/-- A field that passes its requirements has a value for its other checks, or is skipped. -/
theorem skips_eq_of_fault?_eq_none (h : r.fault? field record = none) :
    r.skips field record = !record.has field := by
  cases hhas : record.has field with
  | true => simp [skips, hhas]
  | false =>
      cases hrequired : r.required with
      | false => simp [skips, hhas, hrequired]
      | true =>
          -- a required field that is absent does not pass
          rw [fault?] at h
          by_cases hself : r.siblings.contains field = true <;> simp_all

end Requirement

section

variable {record : Value} {field : String} {checks : List Check}

theorem intercalate_map_quotes (paths : List String) :
    String.intercalate ", " (paths.map fun path => "'" ++ path ++ "'") = quotedPaths paths := by
  induction paths with
  | nil => rfl
  | cons path paths ih =>
      cases paths with
      | nil => exact String.intercalate_singleton
      | cons next paths =>
          rw [List.map_cons] at ih
          rw [List.map_cons, List.map_cons, String.intercalate_cons_cons, ih]
          rfl

theorem fieldList_eq_siblingText (siblings : List String) :
    fieldList siblings = siblingText siblings :=
  match siblings with
  | [_] => rfl
  | [] | _ :: _ :: _ => congrArg ("one of " ++ ·) (intercalate_map_quotes _)

/-- The faults that the requirements find are those that report their messages. -/
theorem requirementTrials_eq :
    requirementTrials record field checks =
      [.faultIf (∃ check ∈ checks, check.lacksSibling)
          (Message.requiredWithoutNeedsField.fault.onField field),
        .faultIf (field ∈ Check.siblings checks)
          (Message.requiredWithoutSelfReference.fault.onField field),
        .faultIf (record.has field ∧ ∃ sibling ∈ Check.siblings checks, record.has sibling)
          (Message.onlyOneFieldAllowed field (fieldList (Check.siblings checks))).fault,
        .faultIf (¬ record.has field ∧ checks.any (Check.isDirective "required"))
          (Message.requiredFieldMissing field).fault,
        .faultIf (¬ record.has field ∧ ¬ checks.any (Check.isDirective "required") ∧
            Check.siblings checks ≠ [] ∧ ∀ sibling ∈ Check.siblings checks, ¬ record.has sibling)
          (Message.eitherFieldRequired field (fieldList (Check.siblings checks))).fault] := by
  rw [fieldList_eq_siblingText]
  rfl

theorem firstFault?_requirementTrials_of_lacks (h : ∃ check ∈ checks, check.lacksSibling = true) :
    Trial.firstFault? (requirementTrials record field checks) =
      some (Message.requiredWithoutNeedsField.fault.onField field) := by
  simp only [requirementTrials_eq, Trial.firstFault?_cons, Trial.faultIf, if_pos h, Option.some_or]

theorem firstFault?_requirementTrials_of_names
    (h : ¬ ∃ check ∈ checks, check.lacksSibling = true) :
    Trial.firstFault? (requirementTrials record field checks) =
      Requirement.fault? ⟨checks.any (Check.isDirective "required"), Check.siblings checks⟩
        field record := by
  simp only [requirementTrials_eq, Trial.firstFault?_cons, Trial.firstFault?_nil, Trial.faultIf,
    if_neg h, Option.none_or, Requirement.fault?, Requirement.alternatives]
  by_cases hself : field ∈ Check.siblings checks
  · simp [hself]
  · cases hhas : record.has field with
    | true =>
        by_cases hsome : ∃ sibling ∈ Check.siblings checks, record.has sibling = true <;>
          simp [hself, hsome]
    | false =>
        cases hrequired : checks.any (Check.isDirective "required") with
        | true => simp [hself]
        | false =>
            by_cases hnil : Check.siblings checks = []
            · simp [hnil]
            · simp [hself, hnil]

/-- The rule of no requirement is ever used. -/
theorem rulesUsed_requirementTrials :
    Trial.rulesUsed (requirementTrials record field checks) = [] := by
  apply Trial.rulesUsed_eq_nil
  intro trial htrial
  simp only [requirementTrials, List.mem_cons, List.not_mem_nil, or_false] at htrial
  rcases htrial with rfl | rfl | rfl | rfl | rfl <;> rfl

end

end RecordRules
