import RecordRules.Validator
import Mathlib.Data.List.Basic

/-!
What a validation looks at, told as a list and without a registry. The trials of a record come field
by field: first the five that concern the requirements of the field, then, if the field is there,
one for each of its other checks. A trial knows the built-in rule that it takes and the fault that it
finds. The verdict on a record is the fault of the first trial that finds one, unless a blank
directive spoils the specification beforehand.
-/

namespace RecordRules

/-- The rule that a trial takes, if it takes one, and the fault that it finds, if it finds one. -/
structure Trial where
  rule : Option Builtin
  fault : Option Fault
  deriving DecidableEq

namespace Trial

/-- A trial that takes no rule and finds a fault under a condition. -/
def faultIf (p : Prop) [Decidable p] (fault : Fault) : Trial :=
  ⟨none, if p then some fault else none⟩

/-- The fault of the first trial that finds one. -/
def firstFault? (trials : List Trial) : Option Fault :=
  trials.findSome? Trial.fault

/-- The trials that are held: no more once a fault is found. -/
def held : List Trial → List Trial
  | [] => []
  | trial :: trials => if trial.fault.isSome then [trial] else trial :: held trials

/-- The rules that the held trials take, in their order. -/
def rulesUsed (trials : List Trial) : List Builtin :=
  (held trials).filterMap Trial.rule

def outcome (trials : List Trial) : Except Fault Unit :=
  match firstFault? trials with
  | some fault => .error fault
  | none => .ok ()

@[simp] theorem firstFault?_nil : firstFault? [] = none := rfl

theorem firstFault?_cons (trial : Trial) (trials : List Trial) :
    firstFault? (trial :: trials) = trial.fault.or (firstFault? trials) := by
  rw [firstFault?, List.findSome?_cons]
  cases trial.fault <;> rfl

theorem firstFault?_append (trials more : List Trial) :
    firstFault? (trials ++ more) = (firstFault? trials).or (firstFault? more) :=
  List.findSome?_append

theorem firstFault?_eq_none_iff {trials : List Trial} :
    firstFault? trials = none ↔ ∀ trial ∈ trials, trial.fault = none :=
  List.findSome?_eq_none_iff

/-- What the first part with a fault finds is found by all parts together. -/
theorem firstFault?_flatMap_of_prefix {α : Type} {f : α → List Trial} {before : List α}
    (h : ∀ a ∈ before, firstFault? (f a) = none) (more : List α) :
    firstFault? ((before ++ more).flatMap f) = firstFault? (more.flatMap f) := by
  have hbefore : firstFault? (before.flatMap f) = none := by
    refine firstFault?_eq_none_iff.2 fun trial htrial => ?_
    obtain ⟨a, ha, htrial⟩ := List.mem_flatMap.1 htrial
    exact firstFault?_eq_none_iff.1 (h a ha) trial htrial
  rw [List.flatMap_append, firstFault?_append, hbefore, Option.none_or]

theorem held_append_of_firstFault?_eq_none {trials : List Trial} (h : firstFault? trials = none)
    (more : List Trial) : held (trials ++ more) = trials ++ held more := by
  induction trials with
  | nil => rfl
  | cons trial trials ih =>
      rw [firstFault?_cons, Option.or_eq_none_iff] at h
      rw [List.cons_append, held, h.1, ih h.2]
      rfl

theorem held_append_of_firstFault?_eq_some {trials : List Trial} {fault : Fault}
    (h : firstFault? trials = some fault) (more : List Trial) :
    held (trials ++ more) = held trials := by
  induction trials with
  | nil => cases h
  | cons trial trials ih =>
      rw [List.cons_append, held, held]
      cases hf : trial.fault with
      | some _ => rfl
      | none =>
          rw [firstFault?_cons, hf, Option.none_or] at h
          rw [ih h]

theorem rulesUsed_append_of_eq_none {trials : List Trial} (h : firstFault? trials = none)
    (more : List Trial) : rulesUsed (trials ++ more) = rulesUsed trials ++ rulesUsed more := by
  have hall := held_append_of_firstFault?_eq_none h []
  rw [List.append_nil, held, List.append_nil] at hall
  rw [rulesUsed, held_append_of_firstFault?_eq_none h, List.filterMap_append, rulesUsed, rulesUsed,
    hall]

theorem rulesUsed_append_of_eq_some {trials : List Trial} {fault : Fault}
    (h : firstFault? trials = some fault) (more : List Trial) :
    rulesUsed (trials ++ more) = rulesUsed trials := by
  rw [rulesUsed, held_append_of_firstFault?_eq_some h, rulesUsed]

theorem outcome_singleton (trial : Trial) :
    outcome [trial] =
      match trial.fault with
      | some fault => .error fault
      | none => .ok () := by
  rw [outcome, firstFault?_cons, firstFault?_nil, Option.or_none]

theorem outcome_eq_ok_iff {trials : List Trial} :
    outcome trials = .ok () ↔ firstFault? trials = none := by
  rw [outcome]
  cases firstFault? trials <;> simp

theorem outcome_eq_error_iff {trials : List Trial} {fault : Fault} :
    outcome trials = .error fault ↔ firstFault? trials = some fault := by
  rw [outcome]
  cases firstFault? trials <;> simp

theorem rulesUsed_singleton (trial : Trial) : rulesUsed [trial] = trial.rule.toList := by
  have hheld : held [trial] = [trial] := by
    cases h : trial.fault <;> simp [held, h]
  rw [rulesUsed, hheld]
  cases h : trial.rule <;> simp [h]

theorem mem_of_mem_held {trial : Trial} {trials : List Trial} (h : trial ∈ held trials) :
    trial ∈ trials := by
  induction trials with
  | nil => cases h
  | cons first trials ih =>
      rw [held] at h
      split at h
      · exact List.mem_cons.2 (.inl (List.mem_singleton.1 h))
      · exact List.mem_cons.2 ((List.mem_cons.1 h).imp_right ih)

theorem rulesUsed_eq_nil {trials : List Trial} (h : ∀ trial ∈ trials, trial.rule = none) :
    rulesUsed trials = [] := by
  rw [rulesUsed, List.filterMap_eq_nil_iff]
  exact fun trial htrial => h trial (mem_of_mem_held htrial)

end Trial

/-! ### Requirements -/

namespace Check

/-- Whether the check is a directive of that name, in any letter case. -/
def isDirective (name : String) : Check → Bool
  | standard d => Text.sameLetters d.name name
  | custom _ => false

/-- Whether the check is neither `required` nor `requiredWithout`. -/
def isOrdinary (check : Check) : Bool :=
  !check.isDirective "required" && !check.isDirective "requiredWithout"

/-- Whether the check should name a sibling and does not. -/
def lacksSibling (check : Check) : Bool :=
  check.isDirective "requiredWithout" && (check.param?.getD "" == "")

/-- The sibling that the check names. -/
def sibling? (check : Check) : Option String :=
  if check.isDirective "requiredWithout" then check.param?.filter fun s => !s.isEmpty else none

/-- The siblings that are named among some checks, in their order. -/
def siblings (checks : List Check) : List String :=
  checks.filterMap sibling?

section

variable (d : Directive) (p : Predicate) (name : String)

@[simp] theorem directive?_standard : (standard d).directive? = some d := rfl

@[simp] theorem directive?_custom : (custom p).directive? = none := rfl

@[simp] theorem isDirective_standard : (standard d).isDirective name = d.isNamed name := rfl

@[simp] theorem isDirective_custom : (custom p).isDirective name = false := rfl

@[simp] theorem lacksSibling_standard :
    (standard d).lacksSibling = (d.isNamed "requiredWithout" && d.param.getD "" == "") := rfl

@[simp] theorem lacksSibling_custom : (custom p).lacksSibling = false := rfl

@[simp] theorem sibling?_standard :
    (standard d).sibling? =
      if d.isNamed "requiredWithout" then d.param.filter fun s => !s.isEmpty else none := rfl

@[simp] theorem sibling?_custom : (custom p).sibling? = none := rfl

end

end Check

/-- Paths in a text, each in quotes and with commas between them. -/
def quotedPaths : List String → String
  | [] => ""
  | [path] => "'" ++ path ++ "'"
  | path :: paths => "'" ++ path ++ "'" ++ ", " ++ quotedPaths paths

/-- The siblings of a field in a text. -/
def siblingText : List String → String
  | [sibling] => quotedPaths [sibling]
  | siblings => "one of " ++ quotedPaths siblings

/-- The trials of the requirements among the checks of a field. -/
def requirementTrials (record : Value) (field : String) (checks : List Check) : List Trial :=
  let siblings := Check.siblings checks
  let required := checks.any (Check.isDirective "required")
  [.faultIf (∃ check ∈ checks, check.lacksSibling)
      ⟨.configuration, some field, Message.requiredWithoutNeedsField.english⟩,
    .faultIf (field ∈ siblings)
      ⟨.requirement, some field, Message.requiredWithoutSelfReference.english⟩,
    .faultIf (record.has field ∧ ∃ sibling ∈ siblings, record.has sibling)
      ⟨.requirement, some field,
        (Message.onlyOneFieldAllowed field (siblingText siblings)).english⟩,
    .faultIf (¬ record.has field ∧ required)
      ⟨.requirement, some field, (Message.requiredFieldMissing field).english⟩,
    .faultIf (¬ record.has field ∧ ¬ required ∧ siblings ≠ [] ∧
        ∀ sibling ∈ siblings, ¬ record.has sibling)
      ⟨.requirement, some field,
        (Message.eitherFieldRequired field (siblingText siblings)).english⟩]

/-! ### Other checks -/

/-- The fault that reports a rule's objection. A custom text comes before the localizer's, and that
before the English one. -/
def Message.reported (m : Message) (localizer : Localizer) (custom : Option String) : Fault :=
  ⟨m.kind, m.field, (custom.or (localizer.translate m)).getD m.english⟩

section

variable (isFile : String → Bool) (localizer : Localizer)

/-- The trial of a check on the value of a field. -/
def Check.trial (messages : CustomMessages) (field : String) (value : Value) : Check → Trial
  | .standard d =>
    if d.name = "" then ⟨none, some ⟨.configuration, none, Message.emptyDirective.english⟩⟩
    else
      match Builtin.lookup? d.name with
      | none => ⟨none, some ⟨.unknownRule, some field, (Message.unknownRule d.name).english⟩⟩
      | some rule =>
        ⟨some rule, (rule.objection? isFile field value d.param).map fun m =>
          m.reported localizer (messages.get? field d.name)⟩
  | .custom predicate =>
    .faultIf (predicate value = some false)
      ⟨.ruleViolation, some field, (Message.customValidationFailed field).english⟩

/-- The trials of the ordinary checks of a field that is there, in the order in which they are
written; an absent field has none. -/
def checkTrials (messages : CustomMessages) (record : Value) (field : String)
    (checks : List Check) : List Trial :=
  match record.resolve? field with
  | some value =>
    (checks.filter Check.isOrdinary).map (Check.trial isFile localizer messages field value)
  | none => []

theorem checkTrials_of_absent {isFile : String → Bool} {localizer : Localizer}
    {messages : CustomMessages} {record : Value} {field : String} (h : record.has field = false)
    (checks : List Check) : checkTrials isFile localizer messages record field checks = [] := by
  have hnone : record.resolve? field = none := by
    rwa [Value.has, Option.isSome_eq_false_iff, Option.isNone_iff_eq_none] at h
  rw [checkTrials, hnone]

/-- All trials of a field. -/
def fieldTrials (messages : CustomMessages) (record : Value) (field : String)
    (checks : List Check) : List Trial :=
  requirementTrials record field checks ++ checkTrials isFile localizer messages record field checks

end

/-! ### Specifications -/

namespace Entry

/-- Whether the entry is a directive of nothing but blanks. -/
def isBlank : Entry → Bool
  | directive raw => Text.allBlank raw.toList
  | predicate _ => false

/-- The entry with its directive read, which a blank one has none of. -/
def check? : Entry → Option Check
  | directive raw => (Directive.parse? raw).map Check.standard
  | predicate p => some (Check.custom p)

end Entry

/-- The first declared field that has a blank directive. -/
def Specs.blankField? (specs : Specs) : Option String :=
  (specs.fields.find? fun e => e.2.any Entry.isBlank).map Prod.fst

namespace Validator

variable (isFile : String → Bool) (localizer : Localizer) (validator : Validator) (record : Value)

/-- The trials of a record, field by field. -/
def trials : List Trial :=
  validator.specs.fields.flatMap fun e =>
    fieldTrials isFile localizer validator.messages record e.1 (e.2.filterMap Entry.check?)

/-- The verdict on a record. -/
def verdict : Except Fault Value :=
  match validator.specs.blankField? with
  | some field => .error ⟨.configuration, some field, Message.emptyDirective.english⟩
  | none =>
    match Trial.firstFault? (validator.trials isFile localizer record) with
    | some fault => .error fault
    | none => .ok record

/-- The rules that are used on the way to the verdict. -/
def rulesUsed : List Builtin :=
  match validator.specs.blankField? with
  | some _ => []
  | none => Trial.rulesUsed (validator.trials isFile localizer record)

end Validator

end RecordRules
