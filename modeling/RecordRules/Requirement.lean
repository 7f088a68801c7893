import RecordRules.Check
import RecordRules.Record.Path

/-!
Requirements: `required` makes a field necessary, and `requiredWithout:sibling` makes it and its
sibling alternatives, of which exactly one has to be there. They are settled before the other
checks of a field, and an absent field has no others to pass.
-/

namespace RecordRules

def fieldList : List String → String
  | [field] => "'" ++ field ++ "'"
  | fields => "one of " ++ String.intercalate ", " (fields.map fun field => "'" ++ field ++ "'")

def Check.isRequirement (check : Check) : Bool :=
  match check.directive? with
  | some d => d.isNamed "required" || d.isNamed "requiredWithout"
  | none => false

def Check.others (checks : List Check) : List Check :=
  checks.filter fun check => !check.isRequirement

/-- What the requirements of a field say, the siblings in the order of their directives. -/
structure Requirement where
  required : Bool
  siblings : List String
  deriving DecidableEq, Inhabited

namespace Requirement

def add (r : Requirement) (check : Check) : Except Fault Requirement :=
  match check.directive? with
  | none => .ok r
  | some d =>
    if d.isNamed "required" then .ok { r with required := true }
    else if d.isNamed "requiredWithout" then
      match d.param.filter fun sibling => !sibling.isEmpty with
      | some sibling => .ok { r with siblings := r.siblings ++ [sibling] }
      | none => .error Message.requiredWithoutNeedsField.fault
    else .ok r

def ofChecks (checks : List Check) : Except Fault Requirement :=
  checks.foldlM add ⟨false, []⟩

def alternatives (r : Requirement) : String :=
  fieldList r.siblings

def fault? (r : Requirement) (field : String) (record : Value) : Option Fault :=
  let siblingPresent := r.siblings.any record.has
  if r.siblings.contains field then
    some (Message.requiredWithoutSelfReference.fault.onField field)
  else if record.has field then
    if siblingPresent then some (Message.onlyOneFieldAllowed field r.alternatives).fault else none
  else if r.required then some (Message.requiredFieldMissing field).fault
  else if !r.siblings.isEmpty && !siblingPresent then
    some (Message.eitherFieldRequired field r.alternatives).fault
  else none

/-- Whether there is no value for the other checks: the field is absent and does not have to be
there itself. -/
def skips (r : Requirement) (field : String) (record : Value) : Bool :=
  !record.has field && (!r.required || !r.siblings.isEmpty)

end Requirement

def fieldRequirement (field : String) (checks : List Check) : Except Fault Requirement :=
  match Requirement.ofChecks checks with
  | .ok r => .ok r
  | .error fault => .error (fault.onField field)

end RecordRules
