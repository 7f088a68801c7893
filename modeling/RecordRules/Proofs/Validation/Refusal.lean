import RecordRules.Proofs.Validation.Transparency

/-!
Why records are refused. A refusal is the cause of a failed validation: a blank directive in the
specification, a requirement that is badly written or not met, a directive without a name or with an
unknown one, a predicate's answer, or the objection of a built-in rule. The first cause is looked for
in the specification and the record alone. The texts come in last, when the cause is reported, and of
all causes only an objection is reported in other words by custom messages or by a localizer.
-/

namespace RecordRules

/-- The cause of a failed validation, with the declared field at which it was found. -/
inductive Refusal where
  /-- The field has a directive of nothing but blanks. -/
  | blank (field : String)
  /-- The requirements of the field cannot be read or are not met. -/
  | requirement (field : String) (fault : Fault)
  /-- The field has a directive that is a parameter without a name. -/
  | nameless (field : String)
  | unknownRule (field name : String)
  | predicate (field : String)
  /-- A built-in rule, called by that name, objects to the value of the field. -/
  | objection (field name : String) (message : Message)
  deriving DecidableEq

def Refusal.report (messages : CustomMessages) (localizer : Localizer) : Refusal → Fault
  | blank field => ⟨.configuration, some field, Message.emptyDirective.english⟩
  | requirement _ fault => fault
  | nameless _ => ⟨.configuration, none, Message.emptyDirective.english⟩
  | unknownRule field name => ⟨.unknownRule, some field, (Message.unknownRule name).english⟩
  | predicate field => ⟨.ruleViolation, some field, (Message.customValidationFailed field).english⟩
  | objection field name m => m.reported localizer (messages.get? field name)

/-! ### The first refusal -/

def Check.refusal? (isFile : String → Bool) (field : String) (value : Value) :
    Check → Option Refusal
  | .standard d =>
    if d.name = "" then some (.nameless field)
    else
      match Builtin.lookup? d.name with
      | none => some (.unknownRule field d.name)
      | some rule => (rule.objection? isFile field value d.param).map (.objection field d.name)
  | .custom predicate => if predicate value = some false then some (.predicate field) else none

def requirementRefusal? (record : Value) (field : String) (checks : List Check) : Option Refusal :=
  (Trial.firstFault? (requirementTrials record field checks)).map (.requirement field)

/-- What the ordinary checks of a field have against a record, in which the field may be absent. -/
def checkRefusal? (isFile : String → Bool) (record : Value) (field : String)
    (checks : List Check) : Option Refusal :=
  match record.resolve? field with
  | some value => (checks.filter Check.isOrdinary).findSome? (Check.refusal? isFile field value)
  | none => none

/-- Why a field is refused: its requirements come first. -/
def fieldRefusal? (isFile : String → Bool) (record : Value) (field : String)
    (checks : List Check) : Option Refusal :=
  (requirementRefusal? record field checks).or (checkRefusal? isFile record field checks)

/-- Why the first of several fields is refused that is. -/
def fieldsRefusal? (isFile : String → Bool) (record : Value)
    (fields : List (String × List Entry)) : Option Refusal :=
  fields.findSome? fun e => fieldRefusal? isFile record e.1 (e.2.filterMap Entry.check?)

/-- Why a record is refused: blank directives come first, then field after field. -/
def Specs.refusal? (specs : Specs) (isFile : String → Bool) (record : Value) : Option Refusal :=
  (specs.blankField?.map .blank).or (fieldsRefusal? isFile record specs.fields)

theorem fieldsRefusal?_cons (isFile : String → Bool) (record : Value) (e : String × List Entry)
    (fields : List (String × List Entry)) :
    fieldsRefusal? isFile record (e :: fields) =
      (fieldRefusal? isFile record e.1 (e.2.filterMap Entry.check?)).or
        (fieldsRefusal? isFile record fields) := by
  rw [fieldsRefusal?, List.findSome?_cons]
  cases fieldRefusal? isFile record e.1 (e.2.filterMap Entry.check?) <;> rfl

/-! ### Where a refusal comes from -/

section

variable {isFile : String → Bool} {record : Value} {field : String} {checks : List Check}
variable {refusal : Refusal}

/-- A field is refused for its requirements, or by one of its ordinary checks if it is there. -/
theorem cases_of_fieldRefusal? (h : fieldRefusal? isFile record field checks = some refusal) :
    (∃ fault, Trial.firstFault? (requirementTrials record field checks) = some fault ∧
        refusal = .requirement field fault) ∨
      ∃ value, record.resolve? field = some value ∧
        ∃ check ∈ checks.filter Check.isOrdinary, check.refusal? isFile field value = some refusal := by
  rw [fieldRefusal?, Option.or_eq_some_iff] at h
  rcases h with h | ⟨-, h⟩
  · obtain ⟨fault, hfault, hrefusal⟩ := Option.map_eq_some_iff.1 h
    exact .inl ⟨fault, hfault, hrefusal.symm⟩
  · rw [checkRefusal?] at h
    cases hvalue : record.resolve? field with
    | none =>
        rw [hvalue] at h
        cases h
    | some value =>
        rw [hvalue] at h
        exact .inr ⟨value, rfl, List.exists_of_findSome?_eq_some h⟩

/-- A record is refused for the first field with a blank directive, or at the first field that is
refused, which is one behind others that are not. -/
theorem Specs.cases_of_refusal? {specs : Specs} (h : specs.refusal? isFile record = some refusal) :
    (∃ field, specs.blankField? = some field ∧ refusal = .blank field) ∨
      specs.blankField? = none ∧ ∃ before e after, specs.fields = before ++ e :: after ∧
        fieldsRefusal? isFile record before = none ∧
        fieldRefusal? isFile record e.1 (e.2.filterMap Entry.check?) = some refusal := by
  rw [refusal?, Option.or_eq_some_iff] at h
  rcases h with h | ⟨hblank, h⟩
  · obtain ⟨field, hfield, hrefusal⟩ := Option.map_eq_some_iff.1 h
    exact .inl ⟨field, hfield, hrefusal.symm⟩
  · rw [Option.map_eq_none_iff] at hblank
    obtain ⟨before, e, after, hfields, hrefusal, hbefore⟩ := List.findSome?_eq_some_iff.1 h
    exact .inr ⟨hblank, before, e, after, hfields, List.findSome?_eq_none_iff.2 hbefore, hrefusal⟩

theorem Specs.refusal?_of_append {specs : Specs} {before after : List (String × List Entry)}
    {e : String × List Entry} (hblank : specs.blankField? = none)
    (hfields : specs.fields = before ++ e :: after)
    (hbefore : fieldsRefusal? isFile record before = none)
    (he : fieldRefusal? isFile record e.1 (e.2.filterMap Entry.check?) = some refusal) :
    specs.refusal? isFile record = some refusal := by
  rw [refusal?, hblank, Option.map_none, Option.none_or, fieldsRefusal?, hfields,
    List.findSome?_append, ← fieldsRefusal?, hbefore, Option.none_or, List.findSome?_cons, he]

end

/-! ### Reports -/

section

variable (isFile : String → Bool) (localizer : Localizer) (messages : CustomMessages)
variable (record : Value) (field : String) (checks : List Check)

theorem Check.fault_trial (value : Value) (check : Check) :
    (check.trial isFile localizer messages field value).fault =
      (check.refusal? isFile field value).map (Refusal.report messages localizer) := by
  cases check with
  | custom predicate =>
      by_cases hfalse : predicate value = some false
      · simp [Check.trial, Check.refusal?, Trial.faultIf, hfalse, Refusal.report]
      · simp [Check.trial, Check.refusal?, Trial.faultIf, hfalse]
  | standard d =>
      by_cases hname : d.name = ""
      · simp [Check.trial, Check.refusal?, hname, Refusal.report]
      · cases hlookup : Builtin.lookup? d.name with
        | none => simp [Check.trial, Check.refusal?, hname, hlookup, Refusal.report]
        | some rule =>
            simp only [Check.trial, Check.refusal?, if_neg hname, hlookup, Option.map_map]
            rfl

theorem firstFault?_requirementTrials :
    Trial.firstFault? (requirementTrials record field checks) =
      (requirementRefusal? record field checks).map (Refusal.report messages localizer) := by
  rw [requirementRefusal?, Option.map_map]
  exact Option.map_id'.symm

theorem firstFault?_checkTrials :
    Trial.firstFault? (checkTrials isFile localizer messages record field checks) =
      (checkRefusal? isFile record field checks).map (Refusal.report messages localizer) := by
  rw [checkTrials, checkRefusal?]
  cases record.resolve? field with
  | none => rfl
  | some value =>
      simp only [Trial.firstFault?, List.findSome?_map, List.map_findSome?]
      congr 1
      funext check
      exact check.fault_trial isFile localizer messages field value

theorem firstFault?_fieldTrials :
    Trial.firstFault? (fieldTrials isFile localizer messages record field checks) =
      (fieldRefusal? isFile record field checks).map (Refusal.report messages localizer) := by
  rw [fieldTrials, Trial.firstFault?_append, firstFault?_requirementTrials localizer messages,
    firstFault?_checkTrials, fieldRefusal?]
  cases requirementRefusal? record field checks <;> rfl

theorem firstFault?_flatMap_fieldTrials (fields : List (String × List Entry)) :
    Trial.firstFault? (fields.flatMap fun e =>
        fieldTrials isFile localizer messages record e.1 (e.2.filterMap Entry.check?)) =
      (fieldsRefusal? isFile record fields).map (Refusal.report messages localizer) := by
  induction fields with
  | nil => rfl
  | cons e fields ih =>
      rw [List.flatMap_cons, Trial.firstFault?_append, ih, firstFault?_fieldTrials,
        fieldsRefusal?_cons]
      cases fieldRefusal? isFile record e.1 (e.2.filterMap Entry.check?) <;> rfl

end

namespace Validator

/-- How a validation ends that meets a refusal or none. -/
def ending (messages : CustomMessages) (localizer : Localizer) (record : Value) :
    Option Refusal → Except Fault Value
  | some refusal => .error (refusal.report messages localizer)
  | none => .ok record

theorem ending_eq_error_iff {messages : CustomMessages} {localizer : Localizer} {record : Value}
    {refusal? : Option Refusal} {fault : Fault} :
    ending messages localizer record refusal? = .error fault ↔
      ∃ refusal, refusal? = some refusal ∧ refusal.report messages localizer = fault := by
  cases refusal? <;> simp [ending]

variable (isFile : String → Bool) (localizer : Localizer) (validator : Validator) (record : Value)

theorem firstFault?_trials :
    Trial.firstFault? (validator.trials isFile localizer record) =
      (fieldsRefusal? isFile record validator.specs.fields).map
        (Refusal.report validator.messages localizer) :=
  firstFault?_flatMap_fieldTrials isFile localizer validator.messages record validator.specs.fields

theorem verdict_eq_ending :
    validator.verdict isFile localizer record =
      ending validator.messages localizer record (validator.specs.refusal? isFile record) := by
  rw [verdict, Specs.refusal?, firstFault?_trials]
  cases validator.specs.blankField? with
  | some field => rfl
  | none => cases fieldsRefusal? isFile record validator.specs.fields <;> rfl

/-- On a sound session a validation reports the first refusal in the language of the registry. -/
theorem validate_result_eq_ending {s : Session} (hs : s.Sound) :
    (validator.validate isFile record s).result =
      ending validator.messages s.registry.localizer record
        (validator.specs.refusal? isFile record) := by
  rw [(validator.validate_meets isFile record hs).result_eq, verdict_eq_ending]

end Validator

theorem Pool.Sound.validate_result_eq_ending {localizers : List Localizer} {pool : Pool}
    (hp : pool.Sound localizers) (i : Fin localizers.length) (isFile : String → Bool)
    (validator : Validator) (record : Value) :
    (validator.validate isFile record (pool.session i)).result =
      Validator.ending validator.messages (localizers.get i) record
        (validator.specs.refusal? isFile record) := by
  rw [validator.validate_result_eq_ending isFile record (hp.session_sound i), session_registry,
    hp.localizer_eq]

end RecordRules
