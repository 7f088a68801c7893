import RecordRules.Proofs.Validation.Stop

/-!
Faults of configuration, and what decides them. A specification is misconfigured if it has a blank
directive, or if a `requiredWithout` names no sibling and no record is refused for a field before it.
Then all records meet the same fault, before anything is looked at in them. Any other fault of
configuration depends on the record: a bad parameter is only noticed on a field that is there, and a
field that comes earlier may be refused first.
-/

namespace RecordRules

/-- The kind of fault that reports the refusal, which is the same in all words. -/
def Refusal.kind (refusal : Refusal) : FaultKind :=
  (refusal.report .empty .english).kind

theorem Refusal.kind_report (refusal : Refusal) (messages : CustomMessages)
    (localizer : Localizer) : (refusal.report messages localizer).kind = refusal.kind := by
  cases refusal <;> rfl

/-- The specification has this fault on its own account, and no record hides it. -/
inductive Specs.Misconfigured (isFile : String → Bool) (specs : Specs) : Fault → Prop
  | blank {field : String} (blank_eq : specs.blankField? = some field) :
      Misconfigured isFile specs (Message.emptyDirective.fault.onField field)
  | sibling {before after : List (String × List Entry)} {e : String × List Entry}
      (blank_eq : specs.blankField? = none) (fields_eq : specs.fields = before ++ e :: after)
      (lacks : ∃ check ∈ e.2.filterMap Entry.check?, check.lacksSibling = true)
      (passes : ∀ record, fieldsRefusal? isFile record before = none) :
      Misconfigured isFile specs (Message.requiredWithoutNeedsField.fault.onField e.1)

section

variable {isFile : String → Bool} {specs : Specs} {record : Value} {field : String}
variable {checks : List Check} {fault : Fault}

/-! ### Badly written requirements -/

/-- No path leads anywhere in null. -/
theorem Value.resolve?_null (path : String) : Value.null.resolve? path = none := by
  rw [resolve?]
  cases hsteps : pathSteps path with
  | nil => exact absurd hsteps (Text.splitAll_ne_nil _ _)
  | cons step steps => rfl

/-- Of all that requirements can find, only a missing sibling is a matter of configuration. -/
theorem lacksSibling_of_configuration
    (h : Trial.firstFault? (requirementTrials record field checks) = some fault)
    (hkind : fault.kind = .configuration) : ∃ check ∈ checks, check.lacksSibling = true := by
  obtain ⟨trial, htrial, hfound⟩ := List.exists_of_findSome?_eq_some h
  simp only [requirementTrials, List.mem_cons, List.not_mem_nil, or_false] at htrial
  rcases htrial with rfl | rfl | rfl | rfl | rfl <;>
    simp only [Trial.faultIf, Option.ite_none_right_eq_some, Option.some.injEq] at hfound
  · exact hfound.1
  -- the faults of the other four trials are of another kind
  all_goals
    rw [← hfound.2] at hkind
    cases hkind

theorem fieldRefusal?_of_lacksSibling (h : ∃ check ∈ checks, check.lacksSibling = true) :
    fieldRefusal? isFile record field checks =
      some (.requirement field (Message.requiredWithoutNeedsField.fault.onField field)) := by
  rw [fieldRefusal?, requirementRefusal?, firstFault?_requirementTrials_of_lacks h]
  rfl

/-! ### Misconfigured specifications -/

namespace Specs

/-- A misconfigured specification has its fault on every record. -/
theorem Misconfigured.exists_refusal (h : specs.Misconfigured isFile fault) (record : Value) :
    ∃ refusal, specs.refusal? isFile record = some refusal ∧
      ∀ messages localizer, refusal.report messages localizer = fault := by
  cases h with
  | blank hblank =>
      refine ⟨.blank _, ?_, fun _ _ => rfl⟩
      rw [refusal?, hblank]
      rfl
  | sibling hblank hfields hlacks hpasses =>
      exact ⟨.requirement _ _, refusal?_of_append hblank hfields (hpasses record)
        (fieldRefusal?_of_lacksSibling hlacks), fun _ _ => rfl⟩

/-- A fault of configuration that every record has is one of a misconfigured specification. -/
theorem misconfigured_of_forall (messages : CustomMessages) (localizer : Localizer)
    (hkind : fault.kind = .configuration)
    (h : ∀ record, ∃ refusal, specs.refusal? isFile record = some refusal ∧
      refusal.report messages localizer = fault) : specs.Misconfigured isFile fault := by
  -- null has no fields, so what refuses it is no check on a value
  obtain ⟨refusal, hrefusal, hreport⟩ := h .null
  rcases cases_of_refusal? hrefusal with ⟨field, hblank, rfl⟩ |
    ⟨hblank, before, e, after, hfields, -, he⟩
  · rw [← hreport]
    exact .blank hblank
  · rcases cases_of_fieldRefusal? he with ⟨found, hfound, rfl⟩ | ⟨value, hvalue, -⟩
    · obtain rfl : found = fault := hreport
      have hlacks := lacksSibling_of_configuration hfound hkind
      rw [firstFault?_requirementTrials_of_lacks hlacks] at hfound
      obtain rfl := Option.some.inj hfound
      refine .sibling hblank hfields hlacks fun record => ?_
      -- the same fault names the same field on another record, which has to pass those before it
      obtain ⟨other, hother, hreport⟩ := h record
      rcases cases_of_refusal? hother with ⟨field, hfield, -⟩ |
        ⟨-, before', e', after', hfields', hbefore', he'⟩
      · rw [hblank] at hfield
        cases hfield
      · have hfield := (Refusal.concerns_of_fieldRefusal? he').field_report messages localizer
        rw [hreport] at hfield
        split at hfield
        · cases hfield
        · have hnodup := specs.nodup
          rw [hfields] at hnodup
          rw [Keyed.eq_of_append_cons_eq hnodup (hfields.symm.trans hfields')
            (Option.some.inj hfield)]
          exact hbefore'
    · rw [Value.resolve?_null] at hvalue
      cases hvalue

end Specs

end

namespace Validator

/-- A fault of configuration on one record is the fault on every record, whatever has been asked of
the registries. -/
def ConfigurationDecided (localizers : List Localizer) (i : Fin localizers.length)
    (isFile : String → Bool) (validator : Validator) : Prop :=
  ∀ (calls : List (Call localizers.length)) (record : Value) (fault : Fault),
    (validator.validate isFile record
      (((Pool.new localizers).after calls).session i)).result = .error fault →
    fault.kind = .configuration →
    ∀ (others : List (Call localizers.length)) (other : Value),
      (validator.validate isFile other
        (((Pool.new localizers).after others).session i)).result = .error fault

theorem validate_result_of_misconfigured {isFile : String → Bool} {validator : Validator}
    {s : Session} {fault : Fault} (hs : s.Sound) (h : validator.specs.Misconfigured isFile fault)
    (record : Value) : (validator.validate isFile record s).result = .error fault := by
  obtain ⟨refusal, hrefusal, hreport⟩ := h.exists_refusal record
  rw [validator.validate_result_eq_ending isFile record hs, hrefusal, ending, hreport]

section

variable (localizers : List Localizer) (i : Fin localizers.length) (isFile : String → Bool)
variable (validator : Validator)

/-- Where faults of configuration are decided without the data, one of them is enough to make the
specification misconfigured. -/
theorem misconfigured_of_configurationDecided {record : Value} {refusal : Refusal}
    (h : ConfigurationDecided localizers i isFile validator)
    (hrefusal : validator.specs.refusal? isFile record = some refusal)
    (hkind : refusal.kind = .configuration) :
    validator.specs.Misconfigured isFile
      (refusal.report validator.messages (localizers.get i)) := by
  have hresult (record : Value) :=
    ((Pool.sound_new localizers).after []).validate_result_eq_ending i isFile validator record
  have hconfiguration :=
    (refusal.kind_report validator.messages (localizers.get i)).trans hkind
  have hfault := hresult record
  rw [hrefusal, ending] at hfault
  refine Specs.misconfigured_of_forall validator.messages (localizers.get i) hconfiguration
    fun other => ?_
  have hother := h [] record _ hfault hconfiguration [] other
  rw [hresult] at hother
  exact ending_eq_error_iff.1 hother

/-- Faults of configuration are decided without the data exactly if the specification is
misconfigured or no record at all has such a fault. -/
theorem configurationDecided_iff :
    ConfigurationDecided localizers i isFile validator ↔
      (∃ fault, validator.specs.Misconfigured isFile fault) ∨
        ∀ record refusal, validator.specs.refusal? isFile record = some refusal →
          refusal.kind ≠ .configuration := by
  constructor
  · intro h
    by_cases hmeets : ∃ record refusal, validator.specs.refusal? isFile record = some refusal ∧
        refusal.kind = .configuration
    · obtain ⟨record, refusal, hrefusal, hkind⟩ := hmeets
      exact .inl ⟨_, misconfigured_of_configurationDecided localizers i isFile validator h
        hrefusal hkind⟩
    · exact .inr fun record refusal hrefusal hkind => hmeets ⟨record, refusal, hrefusal, hkind⟩
  · rintro (⟨fault, hmisconfigured⟩ | hnever) calls record found hfound hkind others other
    · have hsound (calls : List (Call localizers.length)) :
          (((Pool.new localizers).after calls).session i).Sound :=
        ((Pool.sound_new localizers).after calls).session_sound i
      rw [validate_result_of_misconfigured (hsound calls) hmisconfigured] at hfound
      rw [validate_result_of_misconfigured (hsound others) hmisconfigured, hfound]
    · rw [((Pool.sound_new localizers).after calls).validate_result_eq_ending] at hfound
      obtain ⟨refusal, hrefusal, rfl⟩ := ending_eq_error_iff.1 hfound
      rw [Refusal.kind_report] at hkind
      exact absurd hkind (hnever record refusal hrefusal)

end

/-- A mail address that excludes nothing in particular is noticed only if the age before it is
good. -/
theorem not_configurationDecided_of_bad_age :
    ¬ ConfigurationDecided [.english] 0 (fun _ => false)
      ⟨Specs.ofList [("age", [.directive "integer"]), ("mail", [.directive "requiredWithout:"])],
        .empty⟩ := by
  intro h
  have hother := h [] (.object [])
    (Message.requiredWithoutNeedsField.fault.onField "mail") rfl rfl []
    (.object [("age", .bool true)])
  cases hother

end Validator

end RecordRules
