import RecordRules.CustomMessages
import RecordRules.Fault
import RecordRules.Specs

/-!
Configurations: the specification and the custom messages as one document, an object with the members
`rules` and `messages`. Rules are a directive or a list of directives for each field, messages a text
for each key. Of several things that are wrong with a document, the first is reported: the document
as a whole, its keys, its rules, its messages.
-/

namespace RecordRules

structure Config where
  specs : Specs
  messages : CustomMessages
  deriving Inhabited

namespace Config

def isKey (key : String) : Bool :=
  key == "rules" || key == "messages"

def invalidRules (field : String) : Fault :=
  (Fault.configuration
    ("rules for field '" ++ field ++ "' must be a string or a list of strings")).onField field

def directives? : List Value → Option (List Entry)
  | [] => some []
  | .string raw :: items => (directives? items).map (.directive raw :: ·)
  | _ => none

def entries (field : String) : Value → Except Fault (List Entry)
  | .string raw => .ok [.directive raw]
  | .array items =>
    match directives? items with
    | some found => .ok found
    | none => .error (invalidRules field)
  | _ => .error (invalidRules field)

def readRules (specs : Specs) : List (String × Value) → Except Fault Specs
  | [] => .ok specs
  | (field, v) :: members =>
    match entries field v with
    | .ok found => readRules (specs.insert field found) members
    | .error fault => .error fault

def readMessages (messages : CustomMessages) : List (String × Value) → Except Fault CustomMessages
  | [] => .ok messages
  | (key, .string text) :: members => readMessages (messages.insert key text) members
  | (key, _) :: _ =>
    .error (Fault.configuration ("message '" ++ key ++ "' must be a string"))

/-- The members of an object that may be missing. -/
def memberObject (key : String) (members : List (String × Value)) :
    Except Fault (List (String × Value)) :=
  match Keyed.find? key members with
  | none => .ok []
  | some (.object found) => .ok found
  | some _ => .error (Fault.configuration ("'" ++ key ++ "' must be a mapping"))

def ofValue : Value → Except Fault Config
  | .object members =>
    match (Keyed.keys members).find? fun key => !isKey key with
    | some key => .error (Fault.configuration ("unknown configuration key: " ++ key))
    | none => do
      let rules ← memberObject "rules" members
      let specs ← readRules .empty rules
      let texts ← memberObject "messages" members
      let messages ← readMessages .empty texts
      return ⟨specs, messages⟩
  | _ => .error (Fault.configuration "configuration root must be a mapping")

end Config

end RecordRules
