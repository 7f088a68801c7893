import RecordRules.Builtin
import RecordRules.Fault
import RecordRules.Text.Digits

/-!
What happens during a validation, one event after the other, and the lines that report it.
-/

namespace RecordRules

inductive Event where
  /-- A registry makes a rule it has not made before. -/
  | instantiating (rule : Builtin)
  /-- The validation of a record against so many fields begins. -/
  | validating (fields : Nat)
  /-- A field that may be absent is absent. -/
  | absent (field : String)
  /-- The validation ends at a field. -/
  | failed (field : String) (kind : FaultKind)
  /-- The validation has gone through all fields. -/
  | valid (fields : Nat)
  deriving DecidableEq, Inhabited

def Event.line : Event → String
  | instantiating rule => "DEBUG instantiating rule rule=" ++ rule.name
  | validating fields => "DEBUG validating record fields=" ++ Text.decimal fields
  | absent field => "TRACE field absent, skipping remaining rules field=" ++ field
  | failed field kind => "DEBUG validation failed field=" ++ field ++ " kind=" ++ kind.title
  | valid fields => "DEBUG record valid fields=" ++ Text.decimal fields

end RecordRules
