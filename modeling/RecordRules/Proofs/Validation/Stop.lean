import RecordRules.Proofs.Validation.Presence

/-!
Where validations stop. A validation that fails stops at one of the declared fields: the fields before
have passed, this one ends the run, and unless its directives could not even be read, that is the last
thing that is reported. The fault names the field, except where a rule is badly called: a directive
with a parameter and no name, or with a parameter that its rule cannot use, makes a fault that names no
field.
-/

namespace RecordRules

/-! ### Runs that stop -/

/-- The directives of the fields before the first blank one can be read. -/
theorem Specs.exists_of_blankField?_eq_some {specs : Specs} {field : String}
    (h : specs.blankField? = some field) :
    ∃ before entries after compiled, specs.fields = before ++ (field, entries) :: after ∧
      compileFields before = .ok compiled ∧
      compileEntries field entries = .error (Message.emptyDirective.fault.onField field) := by
  obtain ⟨e, he, rfl⟩ := Option.map_eq_some_iff.1 h
  obtain ⟨hblank, before, after, hfields, hbefore⟩ := List.find?_eq_some_iff_append.1 he
  have hnone : (before.find? fun e => e.2.any Entry.isBlank) = none :=
    List.find?_eq_none.2 fun f hf => by simpa using hbefore f hf
  refine ⟨before, e.2, after, before.map fun e => (e.1, e.2.filterMap Entry.check?), hfields, ?_, ?_⟩
  · rw [compileFields_eq, hnone]
  · rw [compileEntries_eq, if_pos hblank]

section

variable {isFile : String → Bool} {messages : CustomMessages} {record : Value}
variable {e : String × List Check} {s : Session} {fault : Fault}

theorem validateFields_cons_of_ok
    (h : (validateField isFile messages record e.1 e.2 s).result = .ok ())
    (fields : List (String × List Check)) :
    let first := validateField isFile messages record e.1 e.2 s
    let rest := validateFields isFile messages record fields first.session
    validateFields isFile messages record (e :: fields) s =
      ⟨rest.result, rest.session, first.events ++ rest.events⟩ := by
  have hfirst := Run.reportingFaults_of_ok h fun fault => .failed e.1 fault.kind
  rw [validateFields, Run.bind_of_ok (by rw [hfirst, h]), hfirst]

theorem validateFields_cons_of_error
    (h : (validateField isFile messages record e.1 e.2 s).result = .error fault)
    (fields : List (String × List Check)) :
    let first := validateField isFile messages record e.1 e.2 s
    validateFields isFile messages record (e :: fields) s =
      ⟨.error fault, first.session, first.events ++ [.failed e.1 fault.kind]⟩ := by
  have hfirst := Run.reportingFaults_of_error h fun fault => .failed e.1 fault.kind
  rw [validateFields, Run.bind_of_error (by rw [hfirst]), hfirst]

/-- Fields that are passed come before what the others do. -/
theorem validateFields_append_of_ok {before : List (String × List Check)}
    (h : (validateFields isFile messages record before s).result = .ok ())
    (more : List (String × List Check)) :
    let first := validateFields isFile messages record before s
    let rest := validateFields isFile messages record more first.session
    validateFields isFile messages record (before ++ more) s =
      ⟨rest.result, rest.session, first.events ++ rest.events⟩ := by
  induction before generalizing s with
  | nil => rfl
  | cons e before ih =>
      cases hfield : (validateField isFile messages record e.1 e.2 s).result with
      | error fault =>
          rw [validateFields_cons_of_error hfield] at h
          cases h
      | ok _ =>
          rw [validateFields_cons_of_ok hfield] at h
          rw [List.cons_append, validateFields_cons_of_ok hfield, validateFields_cons_of_ok hfield]
          simp only [ih h, List.append_assoc]

/-- A run over fields that fails has passed some fields and fails at the next, which is reported. -/
theorem validateFields_stops {fields : List (String × List Check)}
    (h : (validateFields isFile messages record fields s).result = .error fault) :
    ∃ before e after, fields = before ++ e :: after ∧
      (validateFields isFile messages record before s).result = .ok () ∧
      (validateField isFile messages record e.1 e.2
        (validateFields isFile messages record before s).session).result = .error fault ∧
      (validateFields isFile messages record fields s).events.getLast? =
        some (.failed e.1 fault.kind) := by
  induction fields generalizing s with
  | nil => cases h
  | cons e fields ih =>
      cases hfield : (validateField isFile messages record e.1 e.2 s).result with
      | error found =>
          rw [validateFields_cons_of_error hfield] at h ⊢
          cases h
          exact ⟨[], e, fields, rfl, rfl, hfield, List.getLast?_concat⟩
      | ok _ =>
          rw [validateFields_cons_of_ok hfield] at h ⊢
          obtain ⟨before, f, after, rfl, hbefore, hf, hreported⟩ := ih h
          refine ⟨e :: before, f, after, rfl, ?_, ?_, ?_⟩
          · rw [validateFields_cons_of_ok hfield]
            exact hbefore
          · rw [validateFields_cons_of_ok hfield]
            exact hf
          · rw [List.getLast?_append, hreported]
            rfl

end

/-! ### Refusals at the fields where runs stop -/

section

variable {isFile : String → Bool} {messages : CustomMessages} {record : Value}
variable {s : Session} {fault : Fault}

/-- Where a run passes some fields and fails at the next, that is the first field that is refused. -/
theorem fieldRefusal?_of_stop (hs : s.Sound) {before : List (String × List Entry)} {field : String}
    {checks : List Check}
    (hbefore : (validateFields isFile messages record
      (before.map fun e => (e.1, e.2.filterMap Entry.check?)) s).result = .ok ())
    (hfield : (validateField isFile messages record field checks
      (validateFields isFile messages record
        (before.map fun e => (e.1, e.2.filterMap Entry.check?)) s).session).result =
      .error fault) :
    fieldsRefusal? isFile record before = none ∧
      ∃ refusal, fieldRefusal? isFile record field checks = some refusal ∧
        refusal.report messages s.registry.localizer = fault := by
  have hpassed := validateFields_follows isFile messages record
    (before.map fun e => (e.1, e.2.filterMap Entry.check?))
  have hchecked := validateField_follows isFile messages record field checks
  have hnone := (hpassed.result_eq_ok_iff hs).1 hbefore
  simp only [List.flatMap_map, firstFault?_flatMap_fieldTrials] at hnone
  -- the fields that were passed have left the session sound and its language as it was
  have hsome := (hchecked.result_eq_error_iff (hpassed s hs).sound).1 hfield
  rw [(hpassed s hs).grown.localizer_eq, firstFault?_fieldTrials] at hsome
  exact ⟨Option.map_eq_none_iff.1 hnone, Option.map_eq_some_iff.1 hsome⟩

end

/-- The refusal is about how a rule is called and not about the value: the rule has no name, or a
parameter that it cannot use. -/
def Refusal.isMisuse : Refusal → Bool
  | nameless _ => true
  | objection _ _ m => m.kind = .configuration
  | _ => false

theorem Refusal.Concerns.field_report {field : String} {refusal : Refusal}
    (h : refusal.Concerns field) (messages : CustomMessages) (localizer : Localizer) :
    (refusal.report messages localizer).field = if refusal.isMisuse then none else some field := by
  cases refusal with
  | blank f | unknownRule f _ | predicate f =>
      obtain rfl : f = field := h
      rfl
  | requirement f fault => exact h.2.1
  | nameless f => rfl
  | objection f name m =>
      rcases h.2 with ⟨hkind, hfield⟩ | ⟨hkind, hfield⟩ <;>
        simp [report, Message.reported, isMisuse, hkind, hfield]

namespace Validator

/-- The validation stops at this field with this fault. Either a directive of the field cannot be
read, after those of all fields before, or the run over the fields passes the ones before and fails
at this one, and that is the last event. -/
inductive StopsAt (isFile : String → Bool) (validator : Validator) (record : Value) (s : Session)
    (field : String) (fault : Fault) : Prop
  | reading {before after : List (String × List Entry)} {entries : List Entry}
      {compiled : List (String × List Check)}
      (fields_eq : validator.specs.fields = before ++ (field, entries) :: after)
      (before_eq : compileFields before = .ok compiled)
      (field_eq : compileEntries field entries = .error fault)
  | checking {before after : List (String × List Check)} {checks : List Check}
      (compile_eq : validator.specs.compile = .ok (before ++ (field, checks) :: after))
      (before_eq : (validateFields isFile validator.messages record before s).result = .ok ())
      (field_eq : (validateField isFile validator.messages record field checks
        (validateFields isFile validator.messages record before s).session).result = .error fault)
      (last_eq : (validator.validate isFile record s).events.getLast? =
        some (.failed field fault.kind))

section

variable {isFile : String → Bool} {validator : Validator} {record : Value} {s : Session}
variable {fault : Fault}

theorem validate_of_compile_eq_error
    (h : validator.specs.compile = .error fault) :
    validator.validate isFile record s = ⟨.error fault, s, []⟩ := by
  rw [validate, h]
  rfl

/-- After a specification is compiled, the run over the fields decides. -/
theorem validate_of_compiled {compiled : List (String × List Check)}
    (h : validator.specs.compile = .ok compiled) :
    let fields := validateFields isFile validator.messages record compiled
    let rest := (fields >>= fun _ => Run.report (.valid compiled.length) >>= fun _ => pure record) s
    validator.validate isFile record s =
      ⟨rest.result, rest.session, .validating compiled.length :: rest.events⟩ := by
  rw [validate, h]
  rfl

theorem validateFields_of_result_eq_error {compiled : List (String × List Check)}
    (hcompiled : validator.specs.compile = .ok compiled)
    (h : (validator.validate isFile record s).result = .error fault) :
    let fields := validateFields isFile validator.messages record compiled s
    fields.result = .error fault ∧
      (validator.validate isFile record s).events =
        .validating compiled.length :: fields.events := by
  intro fields
  rw [validate_of_compiled hcompiled] at h ⊢
  cases hfields : fields.result with
  | ok _ =>
      rw [Run.bind_of_ok hfields] at h
      cases h
  | error found =>
      rw [Run.bind_of_error hfields] at h ⊢
      exact ⟨congrArg Except.error (Except.error.inj h), rfl⟩

/-- A validation that fails stops at a declared field, and the fault reports what this field is
refused for. -/
theorem exists_stopsAt (hs : s.Sound)
    (h : (validator.validate isFile record s).result = .error fault) :
    ∃ field ∈ Keyed.keys validator.specs.fields,
      validator.StopsAt isFile record s field fault ∧
        ∃ refusal, validator.specs.refusal? isFile record = some refusal ∧
          refusal.Concerns field ∧
          fault = refusal.report validator.messages s.registry.localizer := by
  cases hblank : validator.specs.blankField? with
  | some field =>
      obtain ⟨before, entries, after, compiled, hfields, hbefore, hfield⟩ :=
        Specs.exists_of_blankField?_eq_some hblank
      rw [validate, Specs.compile_eq, hblank] at h
      cases h
      refine ⟨field, ?_, .reading hfields hbefore hfield, .blank field, ?_, rfl, rfl⟩
      · simp [Keyed.keys, hfields]
      · rw [Specs.refusal?, hblank]
        rfl
  | none =>
      have hcompile := validator.specs.compile_eq
      rw [hblank] at hcompile
      obtain ⟨hfail, hevents⟩ := validateFields_of_result_eq_error hcompile h
      obtain ⟨before, e, after, hsplit, hbefore, hfield, hlast⟩ := validateFields_stops hfail
      obtain ⟨passed, rest, hfields, rfl, hrest⟩ := List.map_eq_append_iff.1 hsplit
      obtain ⟨f, later, rfl, rfl, rfl⟩ := List.map_eq_cons_iff.1 hrest
      obtain ⟨hpassed, refusal, hrefusal, hreport⟩ := fieldRefusal?_of_stop hs hbefore hfield
      have hstops : validator.StopsAt isFile record s f.1 fault := by
        refine .checking (hcompile.trans (congrArg Except.ok hsplit)) hbefore hfield ?_
        rw [hevents, List.getLast?_cons, hlast]
        rfl
      refine ⟨f.1, ?_, hstops, refusal, ?_, ?_, hreport.symm⟩
      · simp [Keyed.keys, hfields]
      · exact Specs.refusal?_of_append hblank hfields hpassed hrefusal
      · exact Refusal.concerns_of_fieldRefusal? hrefusal

end

/-- A fault names the field at which the validation stops, unless a rule is badly called there. -/
theorem validate_stops_at_named_field (localizers : List Localizer)
    (calls : List (Call localizers.length)) (i : Fin localizers.length) (isFile : String → Bool)
    (validator : Validator) (record : Value) (fault : Fault) :
    let s := ((Pool.new localizers).after calls).session i
    (validator.validate isFile record s).result = .error fault →
      ∃ field ∈ Keyed.keys validator.specs.fields,
        validator.StopsAt isFile record s field fault ∧
          ∃ refusal, validator.specs.refusal? isFile record = some refusal ∧
            fault.field = if refusal.isMisuse then none else some field := by
  intro s h
  have hs : s.Sound := ((Pool.sound_new localizers).after calls).session_sound i
  obtain ⟨field, hmem, hstops, refusal, hrefusal, hconcerns, rfl⟩ := exists_stopsAt hs h
  exact ⟨field, hmem, hstops, refusal, hrefusal, hconcerns.field_report _ _⟩

/-- A bound that is no number, on a field that is there. -/
theorem validate_stops_at_unnamed_age :
    let validator : Validator := ⟨Specs.ofList [("age", [.directive "min:abc"])], .empty⟩
    let record := Value.object [("age", .string "5")]
    let fault := (Message.numericParamRequired "min").fault
    let s := ((Pool.new [.english]).after ([] : List (Call 1))).session 0
    (validator.validate (fun _ => false) record s).result = .error fault ∧
      ∃ field ∈ Keyed.keys validator.specs.fields,
        validator.StopsAt (fun _ => false) record s field fault ∧
          ∃ refusal, validator.specs.refusal? (fun _ => false) record = some refusal ∧
            fault.field = if refusal.isMisuse then none else some field := by
  intro validator record fault s
  have hfault : (validator.validate (fun _ => false) record s).result = .error fault := rfl
  exact ⟨hfault, validate_stops_at_named_field [.english] [] 0 (fun _ => false) validator record
    fault hfault⟩

theorem not_all_faults_name_age :
    let validator : Validator := ⟨Specs.ofList [("age", [.directive "min:abc"])], .empty⟩
    let record := Value.object [("age", .string "5")]
    let s := (Pool.new [.english]).session 0
    ¬ ∀ fault, (validator.validate (fun _ => false) record s).result = .error fault →
      ∃ field, validator.StopsAt (fun _ => false) record s field fault ∧
        fault.field = some field := by
  intro validator record s h
  obtain ⟨field, -, hfield⟩ := h (Message.numericParamRequired "min").fault rfl
  cases hfield

end Validator

end RecordRules
