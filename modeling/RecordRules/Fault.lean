import RecordRules.Value

/-!
What a failed check reports: the kind of failure, the field it is about, and a text. A fault can be
written as a JSON object and read back.
-/

namespace RecordRules

inductive FaultKind where
  /-- A specification or its document is wrong, whatever the data. -/
  | configuration
  /-- A required field is missing, or fields that exclude each other are both there. -/
  | requirement
  /-- A rule rejected a value. -/
  | ruleViolation
  /-- A directive names no rule. -/
  | unknownRule
  /-- A looked-up path leads nowhere. -/
  | missingField
  deriving DecidableEq, Inhabited

namespace FaultKind

def name : FaultKind → String
  | configuration => "configuration"
  | requirement => "requirement"
  | ruleViolation => "rule_violation"
  | unknownRule => "unknown_rule"
  | missingField => "missing_field"

/-- The name of the kind in event lines. -/
def title : FaultKind → String
  | configuration => "Configuration"
  | requirement => "Requirement"
  | ruleViolation => "RuleViolation"
  | unknownRule => "UnknownRule"
  | missingField => "MissingField"

def all : List FaultKind :=
  [configuration, requirement, ruleViolation, unknownRule, missingField]

def ofName? (s : String) : Option FaultKind :=
  all.find? fun kind => kind.name == s

theorem ofName?_name (kind : FaultKind) : ofName? kind.name = some kind := by
  cases kind <;> decide

end FaultKind

structure Fault where
  kind : FaultKind
  field : Option String
  message : String
  deriving DecidableEq, Inhabited

namespace Fault

def new (kind : FaultKind) (message : String) : Fault :=
  ⟨kind, none, message⟩

def configuration (message : String) : Fault :=
  new .configuration message

def onField (fault : Fault) (field : String) : Fault :=
  { fault with field := some field }

def saying (fault : Fault) (message : String) : Fault :=
  { fault with message := message }

/-- The fault as data; a fault about no field has no such member. -/
def toValue (fault : Fault) : Value :=
  .object (
    [("kind", .string fault.kind.name)] ++
    (match fault.field with
      | some field => [("field", .string field)]
      | none => []) ++
    [("message", .string fault.message)])

/-- A kind as data: its name, or an object with the name as its only member, holding null. -/
def kindOfValue? : Value → Option FaultKind
  | .string s => FaultKind.ofName? s
  | .object [(s, .null)] => FaultKind.ofName? s
  | _ => none

def fieldOfValue? : Value → Option (Option String)
  | .null => some none
  | .string s => some (some s)
  | _ => none

/-- Reads a fault from an object, in which other members do not matter and the field may be left
out, or from a list of the three parts. -/
def ofValue? : Value → Option Fault
  | .object members => do
    let kind ← kindOfValue? (← Keyed.find? "kind" members)
    let field ← fieldOfValue? ((Keyed.find? "field" members).getD .null)
    let message ← (← Keyed.find? "message" members).string?
    return ⟨kind, field, message⟩
  | .array [kind, field, message] => do
    return ⟨← kindOfValue? kind, ← fieldOfValue? field, ← message.string?⟩
  | _ => none

end Fault

end RecordRules
