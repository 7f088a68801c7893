import RecordRules.Text.Letters

/-!
The rules that come with the library, under the names by which directives call them.
-/

namespace RecordRules

inductive Builtin where
  | array
  | datetime
  | email
  | file
  | integer
  | maxLength
  | max
  | minLength
  | min
  | numeric
  | regex
  | string
  deriving DecidableEq, Inhabited

namespace Builtin

def name : Builtin → String
  | array => "array"
  | datetime => "datetime"
  | email => "email"
  | file => "file"
  | integer => "integer"
  | maxLength => "maxLength"
  | max => "max"
  | minLength => "minLength"
  | min => "min"
  | numeric => "numeric"
  | regex => "regex"
  | string => "string"

/-- The name in descriptions of a rule. -/
def title : Builtin → String
  | array => "Array"
  | datetime => "Datetime"
  | email => "Email"
  | file => "File"
  | integer => "Integer"
  | maxLength => "MaxLength"
  | max => "Max"
  | minLength => "MinLength"
  | min => "Min"
  | numeric => "Numeric"
  | regex => "Regex"
  | string => "String"

/-- All rules, in the order of their names but for the two pairs of bounds. -/
def all : List Builtin :=
  [array, datetime, email, file, integer, maxLength, max, minLength, min, numeric, regex, string]

def catalog : List (String × Builtin) :=
  all.map fun rule => (rule.name, rule)

/-- The rule of that name, up to letter case. -/
def lookup? (name : String) : Option Builtin :=
  (catalog.find? fun e => Text.sameLetters e.1 name).map Prod.snd

theorem mem_all (rule : Builtin) : rule ∈ all := by
  cases rule <;> decide

end Builtin

end RecordRules
