import RecordRules.Proofs.Validation.Refusal

/-!
What it takes for a record to be accepted. Which refusal comes first depends on the order of fields
and entries, but whether there is one at all does not: a record is accepted exactly if every declared
field is, and a field exactly if each of its entries has nothing against the record. All of this only
asks which entries a field has. So a specification can be rearranged, its fields and entries put in
another order and entries written several times, and accepts the same records.
-/

namespace RecordRules

theorem Trial.fault_faultIf_eq_none_iff {p : Prop} [Decidable p] {fault : Fault} :
    (faultIf p fault).fault = none ↔ ¬ p := by
  by_cases h : p <;> simp [faultIf, h]

/-! ### Requirements -/

/-- The record meets the requirements among the checks of a field: every directive names a sibling
that has to, none names the field itself, and either the field or a sibling is there but not both. -/
structure RequirementsMet (record : Value) (field : String) (checks : List Check) : Prop where
  named : ∀ check ∈ checks, check.lacksSibling = false
  not_self : field ∉ Check.siblings checks
  not_both : record.has field = true → ∀ path ∈ Check.siblings checks, record.has path = false
  not_required : record.has field = false → ∀ check ∈ checks, check.isDirective "required" = false
  replaced : record.has field = false → Check.siblings checks ≠ [] →
    ∃ path ∈ Check.siblings checks, record.has path = true

section

variable {record : Value} {field : String} {checks : List Check}

theorem requirementRefusal?_eq_none_iff :
    requirementRefusal? record field checks = none ↔ RequirementsMet record field checks := by
  rw [requirementRefusal?, Option.map_eq_none_iff, Trial.firstFault?_eq_none_iff]
  simp only [requirementTrials, List.forall_mem_cons, List.not_mem_nil, false_imp_iff, implies_true,
    and_true, Trial.fault_faultIf_eq_none_iff, not_exists, not_and, Bool.not_eq_true,
    List.any_eq_false]
  constructor
  · rintro ⟨hnamed, hself, hboth, hrequired, heither⟩
    -- the last trial is only held when the field is not required, which the fourth has made sure of
    refine ⟨hnamed, hself, hboth, hrequired, fun hhas hne => ?_⟩
    simpa using heither hhas (hrequired hhas) hne
  · intro h
    refine ⟨h.named, h.not_self, h.not_both, h.not_required, fun hhas _ hne hnone => ?_⟩
    obtain ⟨path, hpath, hpresent⟩ := h.replaced hhas hne
    rw [hnone path hpath] at hpresent
    cases hpresent

theorem RequirementsMet.of_mem_iff {other : List Check} (h : RequirementsMet record field checks)
    (hmem : ∀ check, check ∈ checks ↔ check ∈ other) : RequirementsMet record field other := by
  have hsiblings (path : String) : path ∈ Check.siblings checks ↔ path ∈ Check.siblings other := by
    simp only [Check.siblings, List.mem_filterMap, hmem]
  refine ⟨?_, ?_, ?_, ?_, ?_⟩
  · exact fun check hcheck => h.named check ((hmem check).2 hcheck)
  · exact fun hself => h.not_self ((hsiblings field).2 hself)
  · exact fun hhas path hpath => h.not_both hhas path ((hsiblings path).2 hpath)
  · exact fun hhas check hcheck => h.not_required hhas check ((hmem check).2 hcheck)
  · intro hhas hne
    obtain ⟨path, hpath⟩ := List.exists_mem_of_ne_nil _ hne
    obtain ⟨found, hfound, hpresent⟩ :=
      h.replaced hhas (List.ne_nil_of_mem ((hsiblings path).2 hpath))
    exact ⟨found, (hsiblings found).1 hfound, hpresent⟩

end

/-! ### Fields -/

/-- The record is accepted at a field with these entries. -/
structure FieldAccepted (isFile : String → Bool) (record : Value) (field : String)
    (entries : List Entry) : Prop where
  not_blank : ∀ entry ∈ entries, entry.isBlank = false
  requirements : RequirementsMet record field (entries.filterMap Entry.check?)
  passed : ∀ value, record.resolve? field = some value →
    ∀ check ∈ entries.filterMap Entry.check?, check.isOrdinary = true →
      check.refusal? isFile field value = none

section

variable {isFile : String → Bool} {record : Value} {field : String}

theorem checkRefusal?_eq_none_iff {checks : List Check} :
    checkRefusal? isFile record field checks = none ↔
      ∀ value, record.resolve? field = some value → ∀ check ∈ checks,
        check.isOrdinary = true → check.refusal? isFile field value = none := by
  rw [checkRefusal?]
  cases record.resolve? field with
  | none => simp
  | some value => simp [List.findSome?_eq_none_iff]

theorem FieldAccepted.of_mem_iff {entries other : List Entry}
    (h : FieldAccepted isFile record field entries)
    (hmem : ∀ entry, entry ∈ entries ↔ entry ∈ other) :
    FieldAccepted isFile record field other := by
  have hchecks (check : Check) :
      check ∈ entries.filterMap Entry.check? ↔ check ∈ other.filterMap Entry.check? := by
    simp only [List.mem_filterMap, hmem]
  exact ⟨fun entry hentry => h.not_blank entry ((hmem entry).2 hentry),
    h.requirements.of_mem_iff hchecks,
    fun value hvalue check hcheck => h.passed value hvalue check ((hchecks check).2 hcheck)⟩

end

/-! ### Specifications -/

namespace Specs

theorem blankField?_eq_none_iff {specs : Specs} :
    specs.blankField? = none ↔ ∀ e ∈ specs.fields, ∀ entry ∈ e.2, entry.isBlank = false := by
  simp [blankField?]

theorem refusal?_eq_none_iff {specs : Specs} {isFile : String → Bool} {record : Value} :
    specs.refusal? isFile record = none ↔
      ∀ e ∈ specs.fields, FieldAccepted isFile record e.1 e.2 := by
  rw [refusal?, Option.or_eq_none_iff, Option.map_eq_none_iff, blankField?_eq_none_iff,
    fieldsRefusal?, List.findSome?_eq_none_iff]
  simp only [fieldRefusal?, Option.or_eq_none_iff, requirementRefusal?_eq_none_iff,
    checkRefusal?_eq_none_iff]
  constructor
  · rintro ⟨hblank, hpass⟩ e he
    exact ⟨hblank e he, (hpass e he).1, (hpass e he).2⟩
  · intro h
    exact ⟨fun e he => (h e he).not_blank, fun e he => ⟨(h e he).requirements, (h e he).passed⟩⟩

end Specs

/-! ### Rearrangements -/

/-- The other entries are these in any order, some of them several times. -/
def Entry.Repeats (entries other : List Entry) : Prop :=
  ∃ copies, (∀ entry ∈ copies, entry ∈ entries) ∧ other.Perm (entries ++ copies)

theorem Entry.Repeats.mem_iff {entries other : List Entry} (h : Repeats entries other)
    (entry : Entry) : entry ∈ entries ↔ entry ∈ other := by
  obtain ⟨copies, hcopies, hperm⟩ := h
  rw [hperm.mem_iff, List.mem_append]
  exact ⟨.inl, fun hentry => hentry.elim id (hcopies entry)⟩

namespace Specs

/-- The other specification declares the same fields in any order, each with its entries in any
order, some of them several times. -/
structure Rearranged (specs other : Specs) : Prop where
  keys_perm : (Keyed.keys specs.fields).Perm (Keyed.keys other.fields)
  repeats : ∀ e ∈ specs.fields, ∀ f ∈ other.fields, e.1 = f.1 → Entry.Repeats e.2 f.2

theorem Rearranged.refusal?_eq_none_iff {specs other : Specs} (h : specs.Rearranged other)
    (isFile : String → Bool) (record : Value) :
    specs.refusal? isFile record = none ↔ other.refusal? isFile record = none := by
  rw [Specs.refusal?_eq_none_iff, Specs.refusal?_eq_none_iff]
  -- a field of one specification is looked up under its name in the other
  constructor
  · intro haccepted f hf
    obtain ⟨e, he, hkey⟩ := List.mem_map.1 (h.keys_perm.mem_iff.2 (List.mem_map_of_mem hf))
    rw [← hkey]
    exact (haccepted e he).of_mem_iff (h.repeats e he f hf hkey).mem_iff
  · intro haccepted e he
    obtain ⟨f, hf, hkey⟩ := List.mem_map.1 (h.keys_perm.mem_iff.1 (List.mem_map_of_mem he))
    rw [← hkey]
    exact (haccepted f hf).of_mem_iff fun entry => ((h.repeats e he f hf hkey.symm).mem_iff entry).symm

end Specs

namespace Validator

theorem ending_eq_ok_iff {messages : CustomMessages} {localizer : Localizer} {record value : Value}
    {refusal? : Option Refusal} :
    ending messages localizer record refusal? = .ok value ↔ refusal? = none ∧ record = value := by
  cases refusal? <;> simp [ending]

/-- A rearranged specification accepts the same records. -/
theorem validate_result_eq_ok_iff_of_rearranged (localizers : List Localizer)
    (calls otherCalls : List (Call localizers.length)) (i : Fin localizers.length)
    (isFile : String → Bool) (messages : CustomMessages) (specs other : Specs)
    (record value : Value) (h : specs.Rearranged other) :
    (validate isFile ⟨specs, messages⟩ record
        (((Pool.new localizers).after calls).session i)).result = .ok value ↔
      (validate isFile ⟨other, messages⟩ record
        (((Pool.new localizers).after otherCalls).session i)).result = .ok value := by
  have hnew := Pool.sound_new localizers
  rw [(hnew.after calls).validate_result_eq_ending, (hnew.after otherCalls).validate_result_eq_ending,
    ending_eq_ok_iff, ending_eq_ok_iff, h.refusal?_eq_none_iff]

/-- Two fields in the other order, with the requirement moved to the front and two rules called
twice. -/
theorem validate_result_eq_ok_iff_of_age_first :
    let isString : Entry := .predicate fun value => some value.isString
    let mail : List Entry := [.directive "email", isString, .directive "requiredWithout:phone"]
    let moved : List Entry :=
      [.directive "requiredWithout:phone", .directive "email", isString, .directive "email"]
    let specs := Specs.ofList [("mail", mail), ("age", [.directive "integer"])]
    let other := Specs.ofList [("age", [.directive "integer", .directive "integer"]),
      ("mail", moved)]
    let record := Value.object [("age", .string "7"), ("mail", .string "a@b.c")]
    specs.Rearranged other ∧
      ((validate (fun _ => false) ⟨specs, .empty⟩ record
          ((Pool.new [.english]).session 0)).result = .ok record ↔
        (validate (fun _ => false) ⟨other, .empty⟩ record
          (((Pool.new [.english]).after [(⟨0, .create "EMAIL"⟩ : Call 1)]).session 0)).result =
            .ok record) := by
  intro isString mail moved specs other record
  have hmoved : Entry.Repeats mail moved := by
    refine ⟨[.directive "email"], by simp [mail], ?_⟩
    have hmiddle : ([.directive "email", isString] ++
        .directive "requiredWithout:phone" :: [.directive "email"] : List Entry).Perm moved :=
      List.perm_middle
    exact hmiddle.symm
  have hrearranged : specs.Rearranged other := by
    refine ⟨List.Perm.swap "age" "mail" [], ?_⟩
    have hfields : specs.fields = [("mail", mail), ("age", [.directive "integer"])] := rfl
    have hother : other.fields =
      [("age", [.directive "integer", .directive "integer"]), ("mail", moved)] := rfl
    intro e he f hf hkey
    rw [hfields] at he
    rw [hother] at hf
    simp only [List.mem_cons, List.not_mem_nil, or_false] at he hf
    rcases he with rfl | rfl <;> rcases hf with rfl | rfl
    · exact absurd hkey (by decide)
    · exact hmoved
    · exact ⟨[.directive "integer"], by simp, .refl _⟩
    · exact absurd hkey (by decide)
  exact ⟨hrearranged, validate_result_eq_ok_iff_of_rearranged [.english] [] [⟨0, .create "EMAIL"⟩] 0
    (fun _ => false) .empty specs other record record hrearranged⟩

end Validator

end RecordRules
