import RecordRules.Builtin.Objection
import RecordRules.Keyed
import RecordRules.Text.Quoted

/-!
Registries make rules and keep them. A registry gives out one shared rule for each name, whatever
its letter case, and all its rules share one set of predicates, which is made when it is first
needed. What is shared carries a serial number; no two things that are made have the same one.
-/

namespace RecordRules

/-- A rule that a registry has made, with the serial number of the predicates it shares. -/
structure Rule where
  serial : Nat
  kind : Builtin
  predicates : Nat
  localizer : Localizer
  deriving Inhabited

namespace Rule

def fault? (isFile : String → Bool) (rule : Rule) (field : String) (value : Value)
    (param : Option String) : Option Fault :=
  (rule.kind.objection? isFile field value param).map fun m => m.localizedFault rule.localizer

def describe (rule : Rule) : String :=
  "Rule \x7b kind: " ++ rule.kind.title ++ ", language: " ++
    Text.quoted rule.localizer.language ++ " \x7d"

end Rule

/-- A registry, with the rules it has made under their names in small letters. -/
structure Registry where
  localizer : Localizer
  predicates : Option Nat
  rules : List (String × Rule)
  deriving Inhabited

namespace Registry

def new (localizer : Localizer) : Registry :=
  ⟨localizer, none, []⟩

def describe (registry : Registry) : String :=
  "RuleRegistry \x7b language: " ++ Text.quoted registry.localizer.language ++
    ", cached_rules: " ++ Text.decimal registry.rules.length ++ " \x7d"

end Registry

end RecordRules
