import RecordRules.Proofs.Run
import RecordRules.Proofs.Validation.Requirement

/-!
Requirements and other checks go their own ways. What a field requires is read off its requirement
directives, whatever stands between them, and what its value has to pass is the list of its other
entries, wherever the requirements are written. So entries may be interleaved in any way as long as
either kind keeps its order, and where a field is absent its other entries are not even looked at:
unknown rules, unusable parameters and predicates that reject everything make no difference.

Such a change leaves the whole run as it is, with the result, the events and the registry.
-/

namespace RecordRules

/-! ### Requirements -/

namespace Requirement

theorem add_of_not_isRequirement {check : Check} (h : check.isRequirement = false)
    (r : Requirement) : r.add check = .ok r := by
  rw [add]
  cases hd : check.directive? with
  | none => rfl
  | some d =>
      rw [Check.isRequirement, hd, Bool.or_eq_false_iff] at h
      simp [h.1, h.2]

/-- Nothing is read off the other checks. -/
theorem foldlM_add_filter (checks : List Check) (r : Requirement) :
    (checks.filter Check.isRequirement).foldlM add r = checks.foldlM add r := by
  induction checks generalizing r with
  | nil => rfl
  | cons check checks ih =>
      cases h : check.isRequirement with
      | false =>
          rw [List.filter_cons_of_neg (by simp [h]), List.foldlM_cons, add_of_not_isRequirement h]
          exact ih r
      | true =>
          rw [List.filter_cons_of_pos h, List.foldlM_cons, List.foldlM_cons]
          cases r.add check with
          | error fault => rfl
          | ok next => exact ih next

end Requirement

section

variable {field : String} {checks others : List Check}

theorem fieldRequirement_congr
    (h : checks.filter Check.isRequirement = others.filter Check.isRequirement) :
    fieldRequirement field checks = fieldRequirement field others := by
  have hread : Requirement.ofChecks checks = Requirement.ofChecks others := by
    rw [Requirement.ofChecks, ← Requirement.foldlM_add_filter, h, Requirement.foldlM_add_filter]
    rfl
  rw [fieldRequirement, hread, fieldRequirement]

/-! ### Fields -/

variable {isFile : String → Bool} {messages : CustomMessages} {record : Value}

theorem validateField_congr
    (hrequirements : checks.filter Check.isRequirement = others.filter Check.isRequirement)
    (hothers : Check.others checks = Check.others others) :
    validateField isFile messages record field checks =
      validateField isFile messages record field others := by
  rw [validateField, fieldRequirement_congr hrequirements, hothers, validateField]

/-- An absent field is settled by its requirements alone. -/
theorem validateField_congr_of_absent
    (hrequirements : checks.filter Check.isRequirement = others.filter Check.isRequirement)
    (habsent : record.has field = false) :
    validateField isFile messages record field checks =
      validateField isFile messages record field others := by
  rw [validateField, fieldRequirement_congr hrequirements, validateField]
  cases fieldRequirement field others with
  | error fault => rfl
  | ok r =>
      change (Run.failWith? (r.fault? field record) >>= _) =
        (Run.failWith? (r.fault? field record) >>= _)
      cases hfault : r.fault? field record with
      | some fault => rfl
      | none =>
          -- the requirements are met, so to be absent is to be skipped
          have hskips := r.skips_eq_of_fault?_eq_none field record hfault
          rw [habsent] at hskips
          simp only [hskips, Bool.not_false, if_true]

theorem validateFields_congr
    (h : validateField isFile messages record field checks =
      validateField isFile messages record field others)
    (before after : List (String × List Check)) :
    validateFields isFile messages record (before ++ (field, checks) :: after) =
      validateFields isFile messages record (before ++ (field, others) :: after) := by
  induction before with
  | nil => rw [List.nil_append, List.nil_append, validateFields, validateFields, h]
  | cons e before ih =>
      rw [List.cons_append, List.cons_append, validateFields, validateFields, ih]

end

/-! ### Specifications -/

theorem compileFields_append_cons {field : String} {entries : List Entry} {checks : List Check}
    (h : compileEntries field entries = .ok checks) (before after : List (String × List Entry)) :
    compileFields (before ++ (field, entries) :: after) = do
      let first ← compileFields before
      let rest ← compileFields after
      return first ++ (field, checks) :: rest := by
  induction before with
  | nil =>
      rw [List.nil_append, compileFields, compileFields, h]
      cases compileFields after <;> rfl
  | cons e before ih =>
      rw [List.cons_append, compileFields, ih, compileFields]
      cases compileEntries e.1 e.2 with
      | error fault => rfl
      | ok found =>
          cases compileFields before with
          | error fault => rfl
          | ok first => cases compileFields after <;> rfl

namespace Validator

section

variable {isFile : String → Bool} {messages : CustomMessages} {specs : Specs} {record : Value}
variable {field : String} {entries others : List Entry} {checks otherChecks : List Check}

/-- A field with other entries leaves a run as it is if the run over the field stays as it is. -/
theorem validate_insert_congr (hentries : compileEntries field entries = .ok checks)
    (hothers : compileEntries field others = .ok otherChecks)
    (h : validateField isFile messages record field checks =
      validateField isFile messages record field otherChecks) :
    validate isFile ⟨specs.insert field entries, messages⟩ record =
      validate isFile ⟨specs.insert field others, messages⟩ record := by
  obtain ⟨before, after, hput⟩ := Keyed.exists_put_eq (α := List Entry) field specs.fields
  have hcompile {entries : List Entry} {checks : List Check}
      (h : compileEntries field entries = .ok checks) :
      (specs.insert field entries).compile = do
        let first ← compileFields before
        let rest ← compileFields after
        return first ++ (field, checks) :: rest := by
    have hfields : (specs.insert field entries).fields = before ++ (field, entries) :: after :=
      hput entries
    rw [Specs.compile, hfields, compileFields_append_cons h]
  rw [validate, validate, hcompile hentries, hcompile hothers]
  cases compileFields before with
  | error fault => rfl
  | ok first =>
      cases compileFields after with
      | error fault => rfl
      | ok rest =>
          have hlength : (first ++ (field, checks) :: rest).length =
              (first ++ (field, otherChecks) :: rest).length := by
            simp
          change (Run.ofExcept (.ok _) >>= _) = (Run.ofExcept (.ok _) >>= _)
          simp only [Run.ofExcept_ok_bind, hlength, validateFields_congr h first rest]

end

/-- Two ways to write the entries of a field, with the same requirement directives in the same
order, give the same run if their other entries are the same in the same order. On a record without
that field they give the same run in any case. -/
theorem validate_of_same_requirements (isFile : String → Bool) (messages : CustomMessages)
    (specs : Specs) (field : String) (entries others : List Entry)
    (checks otherChecks : List Check) (hentries : compileEntries field entries = .ok checks)
    (hothers : compileEntries field others = .ok otherChecks)
    (hrequirements : checks.filter Check.isRequirement =
      otherChecks.filter Check.isRequirement) :
    (Check.others checks = Check.others otherChecks → ∀ record,
      validate isFile ⟨specs.insert field entries, messages⟩ record =
        validate isFile ⟨specs.insert field others, messages⟩ record) ∧
      ∀ record : Value, record.has field = false →
        validate isFile ⟨specs.insert field entries, messages⟩ record =
          validate isFile ⟨specs.insert field others, messages⟩ record := by
  refine ⟨fun hsame record => ?_, fun record habsent => ?_⟩
  · exact validate_insert_congr hentries hothers (validateField_congr hrequirements hsame)
  · exact validate_insert_congr hentries hothers
      (validateField_congr_of_absent hrequirements habsent)

/-- A mail address that may be left out for a phone: with the requirement behind the other rule,
and, in a record that has no mail address, with entries that no value would pass. -/
theorem validate_of_same_mail_requirement :
    let run := fun entries record => validate (fun _ => false)
      ⟨(Specs.ofList [("mail", []), ("age", [.directive "integer"])]).insert "mail" entries, .empty⟩
      record
    let alternative : Check := .standard ⟨"requiredWithout", some "phone"⟩
    let entries : List Entry := [.directive "requiredWithout:phone", .directive "email"]
    let behind : List Entry := [.directive "email", .directive " requiredWithout : phone "]
    let hopeless : List Entry := [.directive "mial", .directive "requiredWithout:phone",
      .directive "min:abc", .predicate fun _ => some false]
    let record := Value.object [("phone", .null), ("age", .string "7")]
    (compileEntries "mail" entries = .ok [alternative, .standard ⟨"email", none⟩] ∧
        compileEntries "mail" behind = .ok [.standard ⟨"email", none⟩, alternative] ∧
        ∀ record, run entries record = run behind record) ∧
      (∃ checks, compileEntries "mail" hopeless = .ok checks ∧
        checks.filter Check.isRequirement = [alternative]) ∧
      record.has "mail" = false ∧ run entries record = run hopeless record := by
  intro run alternative entries behind hopeless record
  have hentries : compileEntries "mail" entries =
      .ok [alternative, .standard ⟨"email", none⟩] := rfl
  have hbehind : compileEntries "mail" behind =
      .ok [.standard ⟨"email", none⟩, alternative] := rfl
  have hhopeless : compileEntries "mail" hopeless =
      .ok [.standard ⟨"mial", none⟩, alternative, .standard ⟨"min", some "abc"⟩,
        .custom fun _ => some false] := rfl
  have habsent : record.has "mail" = false := rfl
  have hmoved := validate_of_same_requirements (fun _ => false) .empty
    (Specs.ofList [("mail", []), ("age", [.directive "integer"])]) "mail" entries behind _ _
    hentries hbehind rfl
  have hany := validate_of_same_requirements (fun _ => false) .empty
    (Specs.ofList [("mail", []), ("age", [.directive "integer"])]) "mail" entries hopeless _ _
    hentries hhopeless rfl
  exact ⟨⟨hentries, hbehind, hmoved.1 rfl⟩, ⟨_, hhopeless, rfl⟩, habsent, hany.2 record habsent⟩

end Validator

end RecordRules
