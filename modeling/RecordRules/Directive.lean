import RecordRules.Message
import RecordRules.Text.Blank
import RecordRules.Text.Letters
import RecordRules.Text.Split

/-!
Directives: `name` or `name:param`. The first colon ends the name, blanks around either part do
not count, and a directive of nothing but blanks is refused.
-/

namespace RecordRules

/-- A rule's name as written, and its parameter; `name:` has the empty parameter. -/
structure Directive where
  name : String
  param : Option String
  deriving DecidableEq, Inhabited

namespace Directive

/-- Whether the directive has this name, up to the case of ASCII letters. -/
def isNamed (d : Directive) (name : String) : Bool :=
  Text.sameLetters d.name name

/-- Splits a text that is not blank at its first colon. -/
def ofChars (cs : List Char) : Directive :=
  match Text.cutFirst? ':' cs with
  | some (name, param) =>
    ⟨String.ofList (Text.trim name), some (String.ofList (Text.trim param))⟩
  | none => ⟨String.ofList cs, none⟩

/-- Reads a directive; there is none in a text of blanks. -/
def parse? (s : String) : Option Directive :=
  let trimmed := Text.trim s.toList
  if trimmed.isEmpty then none else some (ofChars trimmed)

def parse (s : String) : Except Fault Directive :=
  match parse? s with
  | some d => .ok d
  | none => .error Message.emptyDirective.fault

def print (d : Directive) : String :=
  match d.param with
  | some param => d.name ++ ":" ++ param
  | none => d.name

end Directive

end RecordRules
