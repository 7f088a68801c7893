import RecordRules.Requirement

/-!
Validation of records. The specification is compiled first; then the fields are checked in the order
of their declaration, each by its requirements and, if it is there, by its other checks. The first
fault ends the run. A record that passes is given back as it is.
-/

namespace RecordRules

structure Validator where
  specs : Specs
  messages : CustomMessages
  deriving Inhabited

def validateField (isFile : String → Bool) (messages : CustomMessages) (record : Value)
    (field : String) (checks : List Check) : Run Unit := do
  let requirement ← Run.ofExcept (fieldRequirement field checks)
  Run.failWith? (requirement.fault? field record)
  if requirement.skips field record then Run.report (.absent field)
  else
    let value ← Run.ofExcept (record.get field)
    Check.runAll isFile messages field value (Check.others checks)

def validateFields (isFile : String → Bool) (messages : CustomMessages) (record : Value) :
    List (String × List Check) → Run Unit
  | [] => pure ()
  | (field, checks) :: fields => do
    (validateField isFile messages record field checks).reportingFaults fun fault =>
      .failed field fault.kind
    validateFields isFile messages record fields

namespace Validator

def validate (isFile : String → Bool) (validator : Validator) (record : Value) : Run Value := do
  let compiled ← Run.ofExcept validator.specs.compile
  Run.report (.validating compiled.length)
  validateFields isFile validator.messages record compiled
  Run.report (.valid compiled.length)
  return record

end Validator

/-- Validates a record with a new registry that speaks English. -/
def validateOnce (isFile : String → Bool) (specs : Specs) (messages : CustomMessages)
    (record : Value) : Outcome Value :=
  Validator.validate isFile ⟨specs, messages⟩ record (.new .english)

end RecordRules
