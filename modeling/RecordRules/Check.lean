import RecordRules.CustomMessages
import RecordRules.Directive
import RecordRules.Run
import RecordRules.Specs

/-!
Checks: the entries of a field with their directives read. A specification whose directives can all
be read is compiled field by field and entry by entry; a blank directive is the fault of its field.
-/

namespace RecordRules

inductive Check where
  | standard (directive : Directive)
  | custom (predicate : Predicate)

namespace Check

def directive? : Check → Option Directive
  | standard d => some d
  | custom _ => none

/-- The name as written; a predicate has the empty name. -/
def name : Check → String
  | standard d => d.name
  | custom _ => ""

def param? : Check → Option String
  | standard d => d.param
  | custom _ => none

def isCustom : Check → Bool
  | standard _ => false
  | custom _ => true

def describe : Check → String
  | standard d =>
    "Standard(StandardRule \x7b name: " ++ Text.quoted d.name ++ ", param: " ++
      (match d.param with
        | some param => "Some(" ++ Text.quoted param ++ ")"
        | none => "None") ++ " \x7d)"
  | custom _ => "Custom(Predicate(..))"

def ofEntry (field : String) : Entry → Except Fault Check
  | .predicate p => .ok (custom p)
  | .directive raw =>
    match Directive.parse raw with
    | .ok d => .ok (standard d)
    | .error fault => .error (fault.onField field)

/-- Checks the value of a field. Only a rule's own objections are replaced by custom messages. -/
def run (isFile : String → Bool) (messages : CustomMessages) (field : String) (value : Value) :
    Check → Run Unit
  | standard d => do
    match ← Run.rule? d.name with
    | none => Run.fail ((Message.unknownRule d.name).fault.onField field)
    | some rule =>
      Run.failWith? ((rule.fault? isFile field value d.param).map fun fault =>
        match messages.get? field d.name with
        | some text => fault.saying text
        | none => fault)
  | custom predicate =>
    Run.failWith?
      (if predicate value = some false then some (Message.customValidationFailed field).fault
        else none)

def runAll (isFile : String → Bool) (messages : CustomMessages) (field : String) (value : Value) :
    List Check → Run Unit
  | [] => pure ()
  | check :: checks => do
    check.run isFile messages field value
    runAll isFile messages field value checks

end Check

def compileEntries (field : String) : List Entry → Except Fault (List Check)
  | [] => .ok []
  | entry :: entries => do
    let check ← Check.ofEntry field entry
    let checks ← compileEntries field entries
    return check :: checks

def compileFields : List (String × List Entry) → Except Fault (List (String × List Check))
  | [] => .ok []
  | (field, entries) :: fields => do
    let checks ← compileEntries field entries
    let compiled ← compileFields fields
    return (field, checks) :: compiled

def Specs.compile (specs : Specs) : Except Fault (List (String × List Check)) :=
  compileFields specs.fields

end RecordRules
