import RecordRules.Config
import RecordRules.Text.Blank
import RecordRules.Yaml.Document

/-!
Configurations written as YAML documents.
-/

namespace RecordRules.Config

/-- Reads a configuration document. The fields keep the order in which they are written. -/
def ofYaml (text : String) : Except Fault Config :=
  if Text.allBlank text.toList then .error (Fault.configuration "empty configuration")
  else
    match Yaml.read? text with
    | some v => ofValue v
    | none => .error (Fault.configuration "invalid configuration: the document cannot be read")

end RecordRules.Config
