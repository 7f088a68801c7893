import RecordRules.Proofs.Validation.Transparency

/-!
Alternatives: specifications whose fields all name each other as siblings and have no other
requirements. Every field is judged by itself and sees no more than its own siblings, yet a record
passes exactly if one field is there and passes its own checks. For a field that is there rejects the
record as soon as another one is, and one that is absent as soon as no other is; so the first
objection is that of the first field present when there are several, and that of the first field
declared when there is none.
-/

namespace RecordRules

/-! ### The entries of alternatives -/

namespace Entry

/-- The entry that names a sibling. -/
def alternativeTo (sibling : String) : Entry :=
  .directive ("requiredWithout:" ++ sibling)

/-- Whether the entry is a `required` or a `requiredWithout`, in any letter case. -/
def isRequirement (entry : Entry) : Bool :=
  entry.check?.any fun check => check.isDirective "required" || check.isDirective "requiredWithout"

theorem check?_alternativeTo {sibling : String} (h : Text.Trimmed sibling.toList) :
    (alternativeTo sibling).check? = some (.standard ⟨"requiredWithout", some sibling⟩) := by
  have hname : Text.Trimmed "requiredWithout".toList := by decide +kernel
  have hcolon : ':' ∉ "requiredWithout".toList := by decide +kernel
  have htidy : Directive.Tidy ⟨"requiredWithout", some sibling⟩ := by
    refine ⟨hname, hcolon, ?_, fun hnone => by cases hnone⟩
    intro param hparam
    rw [← Option.some.inj hparam]
    exact h
  have hprint : "requiredWithout:" ++ sibling =
      Directive.print ⟨"requiredWithout", some sibling⟩ := rfl
  rw [alternativeTo, check?, hprint, Directive.parse?_print htidy]
  rfl

end Entry

/-- Specifications of two or more alternatives. The directives that name the siblings can stand in
any order and between other entries, which can be any that compile and are no requirements. -/
structure Specs.Alternatives (specs : Specs) : Prop where
  two_le_size : 2 ≤ specs.size
  ne_empty : ∀ field ∈ Keyed.keys specs.fields, field ≠ ""
  trimmed : ∀ field ∈ Keyed.keys specs.fields, Text.Trimmed field.toList
  names_others : ∀ e ∈ specs.fields, ∀ other ∈ Keyed.keys specs.fields, other ≠ e.1 →
    Entry.alternativeTo other ∈ e.2
  requires_nothing_else : ∀ e ∈ specs.fields, ∀ entry ∈ e.2, entry.isRequirement = true →
    ∃ other ∈ Keyed.keys specs.fields, other ≠ e.1 ∧ entry = Entry.alternativeTo other
  compiles : ∀ e ∈ specs.fields, ∀ entry ∈ e.2, entry.isBlank = false

namespace Specs.Alternatives

variable {specs : Specs} {e : String × List Entry}

/-- The requirements of a field name other fields and do nothing else. -/
theorem eq_of_isDirective (h : specs.Alternatives) (he : e ∈ specs.fields) {check : Check}
    (hcheck : check ∈ e.2.filterMap Entry.check?)
    (hreq : check.isDirective "required" = true ∨ check.isDirective "requiredWithout" = true) :
    ∃ other ∈ Keyed.keys specs.fields, other ≠ e.1 ∧
      check = .standard ⟨"requiredWithout", some other⟩ := by
  obtain ⟨entry, hentry, hread⟩ := List.mem_filterMap.1 hcheck
  have hentryReq : entry.isRequirement = true := by
    rw [Entry.isRequirement, hread]
    exact Bool.or_eq_true_iff.2 hreq
  obtain ⟨other, hother, hne, rfl⟩ := h.requires_nothing_else e he entry hentry hentryReq
  rw [Entry.check?_alternativeTo (h.trimmed other hother)] at hread
  exact ⟨other, hother, hne, (Option.some.inj hread).symm⟩

theorem any_isDirective_required (h : specs.Alternatives) (he : e ∈ specs.fields) :
    (e.2.filterMap Entry.check?).any (Check.isDirective "required") = false := by
  rw [List.any_eq_false]
  intro check hcheck hrequired
  obtain ⟨other, -, -, rfl⟩ := h.eq_of_isDirective he hcheck (.inl hrequired)
  have hnot := Directive.not_isNamed_requiredWithout hrequired
  rw [Directive.isNamed, Text.sameLetters_refl] at hnot
  cases hnot

theorem not_lacksSibling (h : specs.Alternatives) (he : e ∈ specs.fields) :
    ¬ ∃ check ∈ e.2.filterMap Entry.check?, check.lacksSibling = true := by
  rintro ⟨check, hcheck, hlacks⟩
  rw [Check.lacksSibling, Bool.and_eq_true] at hlacks
  obtain ⟨other, hother, -, rfl⟩ := h.eq_of_isDirective he hcheck (.inr hlacks.1)
  exact h.ne_empty other hother (beq_iff_eq.1 hlacks.2)

/-- The siblings of a field are all the other fields. -/
theorem mem_siblings_iff (h : specs.Alternatives) (he : e ∈ specs.fields) {field : String} :
    field ∈ Check.siblings (e.2.filterMap Entry.check?) ↔
      field ∈ Keyed.keys specs.fields ∧ field ≠ e.1 := by
  rw [Check.siblings, List.mem_filterMap]
  constructor
  · rintro ⟨check, hcheck, hsibling⟩
    have hdirective : check.isDirective "requiredWithout" = true := by
      by_contra hnot
      rw [Check.sibling?, if_neg hnot] at hsibling
      cases hsibling
    obtain ⟨other, hother, hne, rfl⟩ := h.eq_of_isDirective he hcheck (.inr hdirective)
    rw [Check.sibling?, if_pos hdirective] at hsibling
    obtain ⟨hparam, -⟩ := Option.filter_eq_some_iff.1 hsibling
    rw [← Option.some.inj hparam]
    exact ⟨hother, hne⟩
  · rintro ⟨hfield, hne⟩
    have hcheck := Entry.check?_alternativeTo (h.trimmed field hfield)
    refine ⟨_, List.mem_filterMap.2 ⟨_, h.names_others e he field hfield hne, hcheck⟩, ?_⟩
    have hdirective : Check.isDirective "requiredWithout"
        (.standard ⟨"requiredWithout", some field⟩) = true :=
      Text.sameLetters_refl _
    rw [Check.sibling?, if_pos hdirective]
    exact Option.filter_eq_some_iff.2 ⟨rfl, by simpa using h.ne_empty field hfield⟩

/-- No field is without siblings. -/
theorem siblings_ne_nil (h : specs.Alternatives) (he : e ∈ specs.fields) :
    Check.siblings (e.2.filterMap Entry.check?) ≠ [] := by
  have hsize : 2 ≤ (Keyed.keys specs.fields).length := by
    rw [Keyed.keys, List.length_map]
    exact h.two_le_size
  have hnodup := specs.nodup
  obtain ⟨first, more, hkeys⟩ := List.exists_cons_of_length_pos (Nat.lt_of_succ_lt hsize)
  rw [hkeys, List.length_cons] at hsize
  obtain ⟨second, rest, rfl⟩ := List.exists_cons_of_length_pos (Nat.le_of_succ_le_succ hsize)
  rw [hkeys] at hnodup
  by_cases hfirst : first = e.1
  · have hsecond : second ≠ e.1 := by
      rintro rfl
      exact (List.nodup_cons.1 hnodup).1 (hfirst ▸ List.mem_cons_self)
    exact List.ne_nil_of_mem ((h.mem_siblings_iff he).2 ⟨by simp [hkeys], hsecond⟩)
  · exact List.ne_nil_of_mem ((h.mem_siblings_iff he).2 ⟨by simp [hkeys], hfirst⟩)

/-- A field objects if it and a sibling are both present, or if all of them are absent. -/
theorem firstFault?_requirementTrials (h : specs.Alternatives) (he : e ∈ specs.fields)
    (record : Value) :
    Trial.firstFault? (requirementTrials record e.1 (e.2.filterMap Entry.check?)) =
      match record.has e.1, (Check.siblings (e.2.filterMap Entry.check?)).any record.has with
      | true, true => some (Message.onlyOneFieldAllowed e.1
          (fieldList (Check.siblings (e.2.filterMap Entry.check?)))).fault
      | false, false => some (Message.eitherFieldRequired e.1
          (fieldList (Check.siblings (e.2.filterMap Entry.check?)))).fault
      | _, _ => none := by
  have hself : e.1 ∉ Check.siblings (e.2.filterMap Entry.check?) :=
    fun hmem => ((h.mem_siblings_iff he).1 hmem).2 rfl
  have hne := h.siblings_ne_nil he
  rw [firstFault?_requirementTrials_of_names (h.not_lacksSibling he),
    h.any_isDirective_required he]
  cases hhas : record.has e.1 <;>
    cases hany : (Check.siblings (e.2.filterMap Entry.check?)).any record.has <;>
      simp [Requirement.fault?, Requirement.alternatives, hself, hhas, hany, hne]

end Specs.Alternatives

/-! ### The fields that are present -/

/-- The declared fields that a record has. -/
def Specs.present (specs : Specs) (record : Value) : List (String × List Entry) :=
  specs.fields.filter fun e => record.has e.1

theorem Specs.nodup_present (specs : Specs) (record : Value) :
    ((specs.present record).map Prod.fst).Nodup :=
  specs.nodup.sublist (List.filter_sublist.map Prod.fst)

namespace Specs.Alternatives

variable {specs : Specs} {e : String × List Entry} {record : Value}
variable (isFile : String → Bool) (localizer : Localizer) (messages : CustomMessages)

theorem any_siblings_iff (h : specs.Alternatives) (he : e ∈ specs.fields) :
    (Check.siblings (e.2.filterMap Entry.check?)).any record.has = true ↔
      ∃ f ∈ specs.present record, f.1 ≠ e.1 := by
  rw [List.any_eq_true]
  constructor
  · rintro ⟨field, hfield, hhas⟩
    obtain ⟨hkey, hne⟩ := (h.mem_siblings_iff he).1 hfield
    obtain ⟨f, hf, rfl⟩ := List.mem_map.1 hkey
    exact ⟨f, List.mem_filter.2 ⟨hf, hhas⟩, hne⟩
  · rintro ⟨f, hf, hne⟩
    obtain ⟨hmem, hhas⟩ := List.mem_filter.1 hf
    exact ⟨f.1, (h.mem_siblings_iff he).2 ⟨List.mem_map_of_mem hmem, hne⟩, hhas⟩

/-- A field that is present has a sibling present exactly if it is not the only one. -/
theorem any_siblings_iff_of_present_cons (h : specs.Alternatives)
    {more : List (String × List Entry)} (hpresent : specs.present record = e :: more) :
    (Check.siblings (e.2.filterMap Entry.check?)).any record.has = true ↔ more ≠ [] := by
  have hmem : e ∈ specs.present record := hpresent ▸ List.mem_cons_self
  have hnodup := specs.nodup_present record
  rw [hpresent, List.map_cons, List.nodup_cons] at hnodup
  rw [h.any_siblings_iff (List.mem_filter.1 hmem).1, hpresent]
  constructor
  · rintro ⟨f, hf, hne⟩ rfl
    exact hne (congrArg Prod.fst (List.mem_singleton.1 hf))
  · intro hmore
    obtain ⟨f, rest, rfl⟩ := List.exists_cons_of_ne_nil hmore
    refine ⟨f, List.mem_cons_of_mem _ List.mem_cons_self, fun heq => hnodup.1 ?_⟩
    rw [← heq]
    exact List.mem_cons_self

/-- An absent field leaves everything to another that is present. -/
theorem firstFault?_fieldTrials_of_other (h : specs.Alternatives) (he : e ∈ specs.fields)
    (hhas : record.has e.1 = false) {f : String × List Entry} (hf : f ∈ specs.present record) :
    Trial.firstFault? (fieldTrials isFile localizer messages record e.1
      (e.2.filterMap Entry.check?)) = none := by
  have hne : f.1 ≠ e.1 := by
    intro heq
    have hfhas : record.has f.1 = true := (List.mem_filter.1 hf).2
    rw [heq, hhas] at hfhas
    cases hfhas
  have hany := (h.any_siblings_iff he).2 ⟨f, hf, hne⟩
  rw [fieldTrials, Trial.firstFault?_append, h.firstFault?_requirementTrials he, hhas, hany,
    checkTrials_of_absent hhas]
  rfl

end Specs.Alternatives

namespace Validator

/-- The trials of a field's own checks, which its requirements are none of. -/
def ownTrials (isFile : String → Bool) (localizer : Localizer) (validator : Validator)
    (record : Value) (e : String × List Entry) : List Trial :=
  checkTrials isFile localizer validator.messages record e.1 (e.2.filterMap Entry.check?)

variable {validator : Validator} {e : String × List Entry} {record : Value}
variable (isFile : String → Bool) (localizer : Localizer)

/-- With no field present the first one declared objects. -/
theorem firstFault?_trials_of_present_nil (h : validator.specs.Alternatives)
    (hpresent : validator.specs.present record = []) :
    ∃ e ∈ validator.specs.fields.head?,
      Trial.firstFault? (validator.trials isFile localizer record) =
        some (Message.eitherFieldRequired e.1
          (fieldList (Check.siblings (e.2.filterMap Entry.check?)))).fault := by
  have hsize := h.two_le_size
  rw [Specs.size] at hsize
  obtain ⟨e, rest, hfields⟩ := List.exists_cons_of_length_pos (Nat.lt_of_succ_lt hsize)
  have he : e ∈ validator.specs.fields := hfields ▸ List.mem_cons_self
  have hhas : record.has e.1 = false :=
    Bool.eq_false_iff.2 (List.filter_eq_nil_iff.1 hpresent e he)
  have hany : (Check.siblings (e.2.filterMap Entry.check?)).any record.has = false := by
    rw [Bool.eq_false_iff, ne_eq, h.any_siblings_iff he, hpresent]
    simp
  refine ⟨e, by rw [hfields]; rfl, ?_⟩
  rw [trials, hfields, List.flatMap_cons, Trial.firstFault?_append, fieldTrials,
    Trial.firstFault?_append, h.firstFault?_requirementTrials he, hhas, hany]
  rfl

/-- Of the fields present the first one objects if there are others, and has its other checks held
if it is alone. -/
theorem firstFault?_trials_of_present_cons (h : validator.specs.Alternatives)
    {more : List (String × List Entry)}
    (hpresent : validator.specs.present record = e :: more) :
    Trial.firstFault? (validator.trials isFile localizer record) =
      if more = [] then Trial.firstFault? (validator.ownTrials isFile localizer record e)
      else some (Message.onlyOneFieldAllowed e.1
        (fieldList (Check.siblings (e.2.filterMap Entry.check?)))).fault := by
  obtain ⟨before, after, hfields, hbefore, hhas, hafter⟩ := List.filter_eq_cons_iff.1 hpresent
  have hmem : e ∈ validator.specs.present record := hpresent ▸ List.mem_cons_self
  have he := (List.mem_filter.1 hmem).1
  -- all that are absent pass, since this one is present
  have habsent (x : String × List Entry) (hx : x ∈ validator.specs.fields)
      (hnot : ¬ record.has x.1 = true) :
      Trial.firstFault? (fieldTrials isFile localizer validator.messages record x.1
        (x.2.filterMap Entry.check?)) = none :=
    h.firstFault?_fieldTrials_of_other isFile localizer validator.messages hx
      (Bool.eq_false_iff.2 hnot) hmem
  have hprefix : ∀ x ∈ before, Trial.firstFault? (fieldTrials isFile localizer
      validator.messages record x.1 (x.2.filterMap Entry.check?)) = none := by
    intro x hx
    exact habsent x (hfields ▸ List.mem_append_left _ hx) (hbefore x hx)
  have hany := h.any_siblings_iff_of_present_cons hpresent
  rw [trials, hfields, Trial.firstFault?_flatMap_of_prefix hprefix, List.flatMap_cons,
    Trial.firstFault?_append, fieldTrials, Trial.firstFault?_append,
    h.firstFault?_requirementTrials he, hhas]
  by_cases hmore : more = []
  · have halone : (Check.siblings (e.2.filterMap Entry.check?)).any record.has = false := by
      rw [Bool.eq_false_iff, ne_eq, hany, not_not]
      exact hmore
    have hrest : Trial.firstFault? (after.flatMap fun x => fieldTrials isFile localizer
        validator.messages record x.1 (x.2.filterMap Entry.check?)) = none := by
      rw [hmore, List.filter_eq_nil_iff] at hafter
      have hpass : ∀ x ∈ after, _ := fun x hx => habsent x
        (hfields ▸ List.mem_append_right _ (List.mem_cons_of_mem _ hx)) (hafter x hx)
      have hall := Trial.firstFault?_flatMap_of_prefix hpass []
      rwa [List.append_nil] at hall
    rw [if_pos hmore, halone, hrest, Option.none_or, Option.or_none, ownTrials]
  · rw [if_neg hmore, hany.2 hmore]
    rfl

theorem verdict_of_alternatives (h : validator.specs.Alternatives) (record : Value) :
    validator.verdict isFile localizer record =
      match Trial.firstFault? (validator.trials isFile localizer record) with
      | some fault => .error fault
      | none => .ok record := by
  rw [verdict]
  cases hblank : validator.specs.blankField? with
  | none => rfl
  | some field =>
      obtain ⟨e, hfind, -⟩ := Option.map_eq_some_iff.1 hblank
      have hany : e.2.any Entry.isBlank = true := by
        have hfound := List.find?_some hfind
        exact hfound
      obtain ⟨entry, hentry, hentryBlank⟩ := List.any_eq_true.1 hany
      rw [h.compiles e (List.mem_of_find?_eq_some hfind) entry hentry] at hentryBlank
      cases hentryBlank

theorem verdict_of_present_nil (h : validator.specs.Alternatives)
    (hpresent : validator.specs.present record = []) :
    ∃ fault, validator.verdict isFile localizer record = .error fault ∧
      fault.kind = .requirement ∧ ∃ e ∈ validator.specs.fields.head?, fault.field = some e.1 := by
  obtain ⟨e, he, hfault⟩ := firstFault?_trials_of_present_nil isFile localizer h hpresent
  have hverdict := verdict_of_alternatives isFile localizer h record
  rw [hfault] at hverdict
  exact ⟨_, hverdict, rfl, e, he, rfl⟩

theorem verdict_of_present_singleton (h : validator.specs.Alternatives)
    (hpresent : validator.specs.present record = [e]) :
    validator.verdict isFile localizer record =
      match Trial.firstFault? (validator.ownTrials isFile localizer record e) with
      | some fault => .error fault
      | none => .ok record := by
  rw [verdict_of_alternatives isFile localizer h,
    firstFault?_trials_of_present_cons isFile localizer h hpresent, if_pos rfl]

theorem verdict_of_present_several (h : validator.specs.Alternatives)
    {f : String × List Entry} {more : List (String × List Entry)}
    (hpresent : validator.specs.present record = e :: f :: more) :
    ∃ fault, validator.verdict isFile localizer record = .error fault ∧
      fault.kind = .requirement ∧ fault.field = some e.1 := by
  have hfault := firstFault?_trials_of_present_cons isFile localizer h hpresent
  rw [if_neg (List.cons_ne_nil f more)] at hfault
  have hverdict := verdict_of_alternatives isFile localizer h record
  rw [hfault] at hverdict
  exact ⟨_, hverdict, rfl, rfl⟩

/-- Of alternatives exactly one has to be present, and it has to pass its own checks. -/
theorem validate_result_of_alternatives (localizers : List Localizer)
    (calls : List (Call localizers.length)) (i : Fin localizers.length) (isFile : String → Bool)
    (validator : Validator) (record : Value) (h : validator.specs.Alternatives) :
    let result :=
      (validator.validate isFile record (((Pool.new localizers).after calls).session i)).result
    let present := validator.specs.present record
    ((∃ value, result = .ok value) ↔ ∃ e, present = [e] ∧
        ∀ trial ∈ validator.ownTrials isFile (localizers.get i) record e, trial.fault = none) ∧
      (present = [] → ∃ fault, result = .error fault ∧ fault.kind = .requirement ∧
        ∃ e ∈ validator.specs.fields.head?, fault.field = some e.1) ∧
      (∀ e f more, present = e :: f :: more → ∃ fault, result = .error fault ∧
        fault.kind = .requirement ∧ fault.field = some e.1) ∧
      ∀ e, present = [e] → result =
        match Trial.firstFault? (validator.ownTrials isFile (localizers.get i) record e) with
        | some fault => .error fault
        | none => .ok record := by
  intro result present
  have hresult : result = validator.verdict isFile (localizers.get i) record :=
    ((Pool.sound_new localizers).after calls).validate_result i isFile validator record
  rw [hresult]
  refine ⟨?_, verdict_of_present_nil isFile _ h,
    fun e f more => verdict_of_present_several isFile _ h,
    fun e => verdict_of_present_singleton isFile _ h⟩
  constructor
  · rintro ⟨value, hvalue⟩
    match hpresent : present with
    | [] =>
        obtain ⟨fault, hfault, -⟩ := verdict_of_present_nil isFile (localizers.get i) h hpresent
        cases hvalue.symm.trans hfault
    | [e] =>
        refine ⟨e, rfl, Trial.firstFault?_eq_none_iff.1 ?_⟩
        rw [verdict_of_present_singleton isFile (localizers.get i) h hpresent] at hvalue
        cases hown : Trial.firstFault? (validator.ownTrials isFile (localizers.get i) record e) with
        | none => rfl
        | some fault =>
            rw [hown] at hvalue
            cases hvalue
    | e :: f :: more =>
        obtain ⟨fault, hfault, -⟩ := verdict_of_present_several isFile (localizers.get i) h hpresent
        cases hvalue.symm.trans hfault
  · rintro ⟨e, hpresent, hpass⟩
    refine ⟨record, ?_⟩
    rw [verdict_of_present_singleton isFile (localizers.get i) h hpresent,
      Trial.firstFault?_eq_none_iff.2 hpass]

/-- A record with both a mail address and a phone number, of which it should have one. -/
theorem validate_result_of_mail_and_phone :
    let specs := Specs.ofList [("mail", [.directive "email", .directive "requiredWithout:phone"]),
      ("phone", [.directive "requiredWithout:mail"])]
    specs.Alternatives ∧ ∃ fault,
      (validate (fun _ => false) ⟨specs, .empty⟩
        (.object [("phone", .string "12"), ("mail", .string "a@b.c")])
        (((Pool.new [.english]).after [(⟨0, .predicates⟩ : Call 1)]).session 0)).result =
          .error fault ∧ fault.kind = .requirement ∧ fault.field = some "mail" := by
  intro specs
  have hfields : specs.fields = [("mail", [.directive "email", .directive "requiredWithout:phone"]),
      ("phone", [.directive "requiredWithout:mail"])] := rfl
  have hemail : ¬ (Entry.directive "email").isRequirement = true := by decide +kernel
  have halternatives : specs.Alternatives := by
    refine ⟨Nat.le_refl 2, ?_, ?_, ?_, ?_, ?_⟩ <;> simp only [hfields]
    · decide
    · decide +kernel
    · simp [Entry.alternativeTo, Keyed.keys]
    · simp [Entry.alternativeTo, Keyed.keys, hemail]
    · simp [Entry.isBlank, Text.allBlank, Text.isBlank]
  refine ⟨halternatives, ?_⟩
  exact (validate_result_of_alternatives [.english] [⟨0, .predicates⟩] 0 (fun _ => false)
    ⟨specs, .empty⟩ (.object [("phone", .string "12"), ("mail", .string "a@b.c")])
    halternatives).2.2.1 _ _ _ rfl

end Validator

end RecordRules
