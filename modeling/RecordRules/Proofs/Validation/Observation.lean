import RecordRules.Proofs.Validation.Refusal

/-!
What a validation sees of a record: the values of the declared fields, and whether the paths that
directives name as siblings are there. Records that agree on these are refused for the same cause or
both accepted, whatever else they hold and whatever is inside a sibling that is there.
-/

namespace RecordRules

/-- The paths that the directives of a specification name as siblings. -/
def Specs.siblings (specs : Specs) : List String :=
  specs.fields.flatMap fun e => Check.siblings (e.2.filterMap Entry.check?)

/-- The records hold the same at every declared field, and either both or none of them have a path
that a directive names. -/
structure Specs.Agree (specs : Specs) (record other : Value) : Prop where
  resolve?_eq : ∀ field ∈ Keyed.keys specs.fields, record.resolve? field = other.resolve? field
  has_eq : ∀ path ∈ specs.siblings, record.has path = other.has path

section

variable {record other : Value} {field : String} {checks : List Check}

theorem Requirement.fault?_congr {r : Requirement} (hfield : record.has field = other.has field)
    (hsiblings : ∀ sibling ∈ r.siblings, record.has sibling = other.has sibling) :
    r.fault? field record = r.fault? field other := by
  have hany : r.siblings.any record.has = r.siblings.any other.has := by
    rw [Bool.eq_iff_iff, List.any_eq_true, List.any_eq_true]
    exact exists_congr fun sibling =>
      and_congr_right fun hsibling => by rw [hsiblings sibling hsibling]
  rw [fault?, fault?, hfield, hany]

theorem requirementRefusal?_congr (hfield : record.has field = other.has field)
    (hsiblings : ∀ sibling ∈ Check.siblings checks, record.has sibling = other.has sibling) :
    requirementRefusal? record field checks = requirementRefusal? other field checks := by
  rw [requirementRefusal?, requirementRefusal?]
  -- badly written requirements are refused before the record is looked at
  by_cases hlacks : ∃ check ∈ checks, check.lacksSibling = true
  · rw [firstFault?_requirementTrials_of_lacks hlacks, firstFault?_requirementTrials_of_lacks hlacks]
  · rw [firstFault?_requirementTrials_of_names hlacks, firstFault?_requirementTrials_of_names hlacks,
      Requirement.fault?_congr hfield hsiblings]

theorem fieldRefusal?_congr (isFile : String → Bool)
    (hfield : record.resolve? field = other.resolve? field)
    (hsiblings : ∀ sibling ∈ Check.siblings checks, record.has sibling = other.has sibling) :
    fieldRefusal? isFile record field checks = fieldRefusal? isFile other field checks := by
  have hhas : record.has field = other.has field := by
    rw [Value.has, Value.has, hfield]
  rw [fieldRefusal?, fieldRefusal?, requirementRefusal?_congr hhas hsiblings, checkRefusal?,
    checkRefusal?, hfield]

theorem fieldsRefusal?_congr (isFile : String → Bool) {fields : List (String × List Entry)}
    (h : ∀ e ∈ fields, fieldRefusal? isFile record e.1 (e.2.filterMap Entry.check?) =
      fieldRefusal? isFile other e.1 (e.2.filterMap Entry.check?)) :
    fieldsRefusal? isFile record fields = fieldsRefusal? isFile other fields := by
  induction fields with
  | nil => rfl
  | cons e fields ih =>
      obtain ⟨he, hrest⟩ := List.forall_mem_cons.1 h
      rw [fieldsRefusal?_cons, fieldsRefusal?_cons, he, ih hrest]

end

namespace Specs.Agree

variable {specs : Specs} {record other : Value}

theorem fieldRefusal?_eq (h : specs.Agree record other) (isFile : String → Bool)
    {e : String × List Entry} (he : e ∈ specs.fields) :
    fieldRefusal? isFile record e.1 (e.2.filterMap Entry.check?) =
      fieldRefusal? isFile other e.1 (e.2.filterMap Entry.check?) :=
  fieldRefusal?_congr isFile (h.resolve?_eq e.1 (List.mem_map_of_mem he))
    fun sibling hsibling => h.has_eq sibling (List.mem_flatMap.2 ⟨e, he, hsibling⟩)

theorem refusal?_eq (h : specs.Agree record other) (isFile : String → Bool) :
    specs.refusal? isFile record = specs.refusal? isFile other := by
  have hfields : fieldsRefusal? isFile record specs.fields =
      fieldsRefusal? isFile other specs.fields :=
    fieldsRefusal?_congr isFile fun e he => h.fieldRefusal?_eq isFile he
  rw [refusal?, refusal?, hfields]

end Specs.Agree

namespace Validator

/-- What a specification does not name has no influence. -/
theorem validate_result_of_agree (localizers : List Localizer)
    (calls otherCalls : List (Call localizers.length)) (i : Fin localizers.length)
    (isFile : String → Bool) (validator : Validator) (record other : Value)
    (h : validator.specs.Agree record other) :
    let result :=
      (validator.validate isFile record (((Pool.new localizers).after calls).session i)).result
    let otherResult :=
      (validator.validate isFile other (((Pool.new localizers).after otherCalls).session i)).result
    result = .ok record ∧ otherResult = .ok other ∨
      ∃ fault, result = .error fault ∧ otherResult = .error fault := by
  intro result otherResult
  have hnew := Pool.sound_new localizers
  have hresult : result = ending _ _ record _ :=
    (hnew.after calls).validate_result_eq_ending i isFile validator record
  have hother : otherResult = ending _ _ other _ :=
    (hnew.after otherCalls).validate_result_eq_ending i isFile validator other
  rw [← h.refusal?_eq isFile] at hother
  cases hrefusal : validator.specs.refusal? isFile record with
  | none =>
      rw [hrefusal] at hresult hother
      exact .inl ⟨hresult, hother⟩
  | some refusal =>
      rw [hrefusal] at hresult hother
      exact .inr ⟨_, hresult, hother⟩

/-- Two records without a mail address, one validated after the other, with different things under
the phone that is to be there instead, and elsewhere. -/
theorem validate_result_of_other_phone :
    let specs := Specs.ofList [("mail", [.directive "email", .directive "requiredWithout:phone"]),
      ("age", [.directive "integer"])]
    let record := Value.object [("age", .string "seven"), ("phone", .object [("home", .null)])]
    let other := Value.object [("phone", .array []), ("note", .bool true), ("age", .string "seven")]
    let first : List (Call 1) := [⟨0, .validate (fun _ => false) ⟨specs, .empty⟩ record⟩]
    let result := (validate (fun _ => false) ⟨specs, .empty⟩ record
      ((Pool.new [.english]).session 0)).result
    let otherResult := (validate (fun _ => false) ⟨specs, .empty⟩ other
      (((Pool.new [.english]).after first).session 0)).result
    specs.Agree record other ∧ (result = .ok record ∧ otherResult = .ok other ∨
      ∃ fault, result = .error fault ∧ otherResult = .error fault) := by
  intro specs record other first
  have hagree : specs.Agree record other := by
    refine ⟨?_, ?_⟩
    · intro field hfield
      have hkeys : Keyed.keys specs.fields = ["mail", "age"] := rfl
      rw [hkeys] at hfield
      simp only [List.mem_cons, List.not_mem_nil, or_false] at hfield
      rcases hfield with rfl | rfl <;> rfl
    · intro path hpath
      have hsiblings : specs.siblings = ["phone"] := by decide +kernel
      rw [hsiblings, List.mem_singleton] at hpath
      rw [hpath]
      rfl
  exact ⟨hagree, validate_result_of_agree [.english] [] first 0 (fun _ => false)
    ⟨specs, .empty⟩ record other hagree⟩

end Validator

end RecordRules
