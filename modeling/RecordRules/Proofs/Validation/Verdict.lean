import RecordRules.Proofs.Directive
import RecordRules.Proofs.Run
import RecordRules.Proofs.Validation.Requirement

/-!
A validation comes to the verdict. A run follows a list of trials if on every sound session it ends
with the first fault among them and uses the rules of those that are held; runs that follow each
other follow the trials of both, one list behind the other. So each check follows its own trial, a
field follows the trials of the field, and the whole run those of the record.
-/

namespace RecordRules

namespace Run

/-- On every sound session the run does what the trials say in the language of the registry. -/
def Follows (x : Run Unit) (trials : Localizer → List Trial) : Prop :=
  ∀ s : Session, s.Sound → x.Meets s (Trial.outcome (trials s.registry.localizer))
    (Trial.rulesUsed (trials s.registry.localizer))

theorem follows_pure : Follows (pure ()) fun _ => [] :=
  fun _ hs => meets_pure hs ()

theorem follows_failWith? (fault? : Option Fault) :
    (failWith? fault?).Follows fun _ => [⟨none, fault?⟩] := by
  intro s hs
  rw [Trial.outcome_singleton, Trial.rulesUsed_singleton]
  exact meets_failWith? hs fault?

theorem Follows.bind {x y : Run Unit} {trials more : Localizer → List Trial}
    (hx : x.Follows trials) (hy : y.Follows more) :
    (x >>= fun _ => y).Follows fun localizer => trials localizer ++ more localizer := by
  intro s hs
  have hfirst := hx s hs
  -- the second run speaks the language of the first, since no run changes it
  have hlocalizer := hfirst.grown.localizer_eq
  cases hfault : Trial.firstFault? (trials s.registry.localizer) with
  | some fault =>
      rw [Trial.outcome, hfault] at hfirst
      rw [Trial.outcome, Trial.firstFault?_append, hfault, Option.some_or,
        Trial.rulesUsed_append_of_eq_some hfault]
      exact hfirst.bind_error _
  | none =>
      rw [Trial.outcome, hfault] at hfirst
      have hsecond := hy _ hfirst.sound
      rw [hlocalizer] at hsecond
      rw [Trial.outcome, Trial.firstFault?_append, hfault, Option.none_or,
        Trial.rulesUsed_append_of_eq_none hfault]
      exact hfirst.bind hsecond

theorem Follows.result_eq_ok_iff {x : Run Unit} {trials : Localizer → List Trial}
    (hx : x.Follows trials) {s : Session} (hs : s.Sound) :
    (x s).result = .ok () ↔ Trial.firstFault? (trials s.registry.localizer) = none := by
  rw [(hx s hs).result_eq, Trial.outcome_eq_ok_iff]

theorem Follows.result_eq_error_iff {x : Run Unit} {trials : Localizer → List Trial}
    (hx : x.Follows trials) {s : Session} (hs : s.Sound) {fault : Fault} :
    (x s).result = .error fault ↔
      Trial.firstFault? (trials s.registry.localizer) = some fault := by
  rw [(hx s hs).result_eq, Trial.outcome_eq_error_iff]

theorem Follows.reportingFaults {x : Run Unit} {trials : Localizer → List Trial}
    (hx : x.Follows trials) (event : Fault → Event) :
    (x.reportingFaults event).Follows trials :=
  fun s hs => (hx s hs).reportingFaults event

end Run

section

variable (isFile : String → Bool) (messages : CustomMessages) (record : Value) (field : String)

/-! ### Checks -/

/-- A rule's fault with a custom text in place of its own is its objection as it is reported. -/
theorem Rule.map_fault? (rule : Rule) (value : Value) (param custom : Option String) :
    ((rule.fault? isFile field value param).map fun fault =>
        match custom with
        | some text => fault.saying text
        | none => fault) =
      (rule.kind.objection? isFile field value param).map fun m =>
        m.reported rule.localizer custom := by
  rw [Rule.fault?, Option.map_map]
  cases custom <;> rfl

theorem Check.run_follows (value : Value) (check : Check) :
    (check.run isFile messages field value).Follows fun localizer =>
      [check.trial isFile localizer messages field value] := by
  cases check with
  | custom predicate => exact Run.follows_failWith? _
  | standard d =>
      intro s hs
      cases hlookup : Builtin.lookup? d.name with
      | none =>
          have hmeets := Run.meets_rule?_of_eq_none hlookup hs
          by_cases hname : d.name = ""
          · rw [if_pos hname] at hmeets
            simp only [Check.trial, if_pos hname]
            exact hmeets.bind_error _
          · rw [if_neg hname] at hmeets
            simp only [Check.trial, if_neg hname, hlookup]
            exact hmeets.bind (Run.meets_fail hmeets.sound _)
      | some kind =>
          obtain ⟨rule, hmeets, rfl, hmem⟩ := Run.meets_rule?_of_eq_some hlookup hs
          have hname : ¬ d.name = "" := by
            intro hempty
            rw [hempty, Builtin.lookup?_empty] at hlookup
            cases hlookup
          have hlocalizer : rule.localizer = s.registry.localizer :=
            (hmeets.sound.coherent.localizer_eq _ hmem).trans hmeets.grown.localizer_eq
          have hfault :=
            rule.map_fault? isFile field value d.param (messages.get? field d.name)
          simp only [Check.trial, if_neg hname, hlookup]
          rw [Trial.outcome_singleton, Trial.rulesUsed_singleton, ← hlocalizer, ← hfault]
          exact hmeets.bind (Run.meets_failWith? hmeets.sound _)

theorem Check.runAll_follows (value : Value) (checks : List Check) :
    (Check.runAll isFile messages field value checks).Follows fun localizer =>
      checks.map (Check.trial isFile localizer messages field value) := by
  induction checks with
  | nil => exact Run.follows_pure
  | cons check checks ih => exact (check.run_follows isFile messages field value).bind ih

/-! ### Fields -/

section

variable {record field} {checks : List Check}

theorem validateField_of_fault {fault : Fault}
    (h : Trial.firstFault? (requirementTrials record field checks) = some fault) :
    validateField isFile messages record field checks = Run.fail fault := by
  rw [validateField, fieldRequirement_eq]
  by_cases hlacks : ∃ check ∈ checks, check.lacksSibling = true
  · rw [firstFault?_requirementTrials_of_lacks hlacks] at h
    rw [if_pos hlacks, ← Option.some.inj h]
    rfl
  · rw [firstFault?_requirementTrials_of_names hlacks] at h
    rw [if_neg hlacks]
    change (Run.failWith? (Requirement.fault? _ field record) >>= _) = _
    rw [h]
    rfl

/-- A field that passes its requirements has its other checks run if it is there. -/
theorem validateField_of_pass
    (h : Trial.firstFault? (requirementTrials record field checks) = none) :
    validateField isFile messages record field checks =
      match record.resolve? field with
      | some value => Check.runAll isFile messages field value (Check.others checks)
      | none => Run.report (.absent field) := by
  by_cases hlacks : ∃ check ∈ checks, check.lacksSibling = true
  · rw [firstFault?_requirementTrials_of_lacks hlacks] at h
    cases h
  · rw [firstFault?_requirementTrials_of_names hlacks] at h
    have hskips := Requirement.skips_eq_of_fault?_eq_none _ _ _ h
    rw [validateField, fieldRequirement_eq, if_neg hlacks]
    change (Run.failWith? (Requirement.fault? _ field record) >>= _) = _
    rw [h, hskips, Value.has, Value.get]
    cases record.resolve? field <;> rfl

end

theorem validateField_follows (checks : List Check) :
    (validateField isFile messages record field checks).Follows fun localizer =>
      fieldTrials isFile localizer messages record field checks := by
  have huses : Trial.rulesUsed (requirementTrials record field checks) = [] :=
    rulesUsed_requirementTrials
  intro s hs
  simp only [fieldTrials]
  cases h : Trial.firstFault? (requirementTrials record field checks) with
  | some fault =>
      rw [validateField_of_fault _ _ h, Trial.outcome, Trial.firstFault?_append, h,
        Option.some_or, Trial.rulesUsed_append_of_eq_some h, huses]
      exact Run.meets_fail hs fault
  | none =>
      rw [validateField_of_pass _ _ h, Trial.outcome, Trial.firstFault?_append, h,
        Option.none_or, Trial.rulesUsed_append_of_eq_none h, huses, checkTrials,
        ← Check.others_eq_filter]
      cases record.resolve? field with
      | some value => exact Check.runAll_follows isFile messages field value _ s hs
      | none => exact Run.meets_report hs _

theorem validateFields_follows (fields : List (String × List Check)) :
    (validateFields isFile messages record fields).Follows fun localizer =>
      fields.flatMap fun e => fieldTrials isFile localizer messages record e.1 e.2 := by
  induction fields with
  | nil => exact Run.follows_pure
  | cons e fields ih =>
      have hfield := validateField_follows isFile messages record e.1 e.2
      simp only [List.flatMap_cons]
      exact (hfield.reportingFaults _).bind ih

end

/-! ### Specifications -/

theorem Check.ofEntry_eq (field : String) (entry : Entry) :
    Check.ofEntry field entry =
      match entry.check? with
      | some check => .ok check
      | none => .error (Message.emptyDirective.fault.onField field) := by
  cases entry with
  | predicate p => rfl
  | directive raw =>
      rw [Check.ofEntry, Entry.check?, Directive.parse]
      cases Directive.parse? raw <;> rfl

theorem Entry.check?_eq_none_iff {entry : Entry} : entry.check? = none ↔ entry.isBlank = true := by
  cases entry with
  | predicate p => simp [check?, isBlank]
  | directive raw =>
      rw [check?, Option.map_eq_none_iff, isBlank]
      exact Directive.parse?_eq_none_iff

theorem compileEntries_eq (field : String) (entries : List Entry) :
    compileEntries field entries =
      if entries.any Entry.isBlank then .error (Message.emptyDirective.fault.onField field)
      else .ok (entries.filterMap Entry.check?) := by
  induction entries with
  | nil => rfl
  | cons entry entries ih =>
      rw [compileEntries, Check.ofEntry_eq, ih, List.any_cons, List.filterMap_cons]
      cases hcheck : entry.check? with
      | none =>
          rw [Entry.check?_eq_none_iff.1 hcheck]
          rfl
      | some check =>
          have hblank : entry.isBlank = false := by
            rw [Bool.eq_false_iff, ne_eq, ← Entry.check?_eq_none_iff, hcheck]
            simp
          rw [hblank, Bool.false_or]
          cases entries.any Entry.isBlank <;> rfl

theorem compileFields_eq (fields : List (String × List Entry)) :
    compileFields fields =
      match fields.find? fun e => e.2.any Entry.isBlank with
      | some e => .error (Message.emptyDirective.fault.onField e.1)
      | none => .ok (fields.map fun e => (e.1, e.2.filterMap Entry.check?)) := by
  induction fields with
  | nil => rfl
  | cons e fields ih =>
      rw [compileFields, compileEntries_eq, ih, List.find?_cons]
      cases e.2.any Entry.isBlank with
      | true => rfl
      | false =>
          cases fields.find? fun e => e.2.any Entry.isBlank <;> rfl

theorem Specs.compile_eq (specs : Specs) :
    specs.compile =
      match specs.blankField? with
      | some field => .error (Message.emptyDirective.fault.onField field)
      | none => .ok (specs.fields.map fun e => (e.1, e.2.filterMap Entry.check?)) := by
  rw [compile, compileFields_eq, blankField?]
  cases specs.fields.find? fun e => e.2.any Entry.isBlank <;> rfl

namespace Specs

variable {specs : Specs} {compiled : List (String × List Check)}

theorem compiled_eq (h : specs.compile = .ok compiled) :
    specs.blankField? = none ∧
      compiled = specs.fields.map fun e => (e.1, e.2.filterMap Entry.check?) := by
  rw [compile_eq] at h
  cases hblank : specs.blankField? with
  | some field =>
      rw [hblank] at h
      cases h
  | none =>
      rw [hblank] at h
      exact ⟨rfl, (Except.ok.inj h).symm⟩

theorem length_compiled (h : specs.compile = .ok compiled) : compiled.length = specs.size := by
  rw [(compiled_eq h).2, List.length_map, size]

theorem keys_compiled (h : specs.compile = .ok compiled) :
    Keyed.keys compiled = Keyed.keys specs.fields := by
  rw [(compiled_eq h).2, Keyed.keys, List.map_map]
  rfl

end Specs

/-! ### Validations -/

namespace Validator

variable (isFile : String → Bool) (validator : Validator) (record : Value)

theorem validateFields_follows_trials :
    (validateFields isFile validator.messages record
      (validator.specs.fields.map fun e => (e.1, e.2.filterMap Entry.check?))).Follows
      fun localizer => validator.trials isFile localizer record := by
  have h := validateFields_follows isFile validator.messages record
    (validator.specs.fields.map fun e => (e.1, e.2.filterMap Entry.check?))
  simpa only [trials, List.flatMap_map] using h

/-- On a sound session a validation ends with the verdict and uses its rules. -/
theorem validate_meets {s : Session} (hs : s.Sound) :
    (validator.validate isFile record).Meets s
      (validator.verdict isFile s.registry.localizer record)
      (validator.rulesUsed isFile s.registry.localizer record) := by
  rw [validate, Specs.compile_eq, verdict, rulesUsed]
  cases validator.specs.blankField? with
  | some field => exact (Run.meets_ofExcept hs (.error _)).bind_error _
  | none =>
      have hcompiled := Run.meets_ofExcept hs
        (.ok (validator.specs.fields.map fun e => (e.1, e.2.filterMap Entry.check?)))
      have hfields := validator.validateFields_follows_trials isFile record s hs
      rw [Trial.outcome] at hfields
      cases h : Trial.firstFault? (validator.trials isFile s.registry.localizer record) with
      | some fault =>
          rw [h] at hfields
          exact hcompiled.bind ((Run.meets_report hs _).bind (hfields.bind_error _))
      | none =>
          rw [h] at hfields
          have hend (event : Event) := (Run.meets_report hfields.sound event).andThen
            (Run.meets_pure hfields.sound record)
          have hrest (event : Event) := hfields.andThen (hend event)
          simp only [List.append_nil] at hrest
          exact hcompiled.bind ((Run.meets_report hs _).bind (hrest _))

end Validator

end RecordRules
