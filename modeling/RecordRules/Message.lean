import RecordRules.Fault

/-!
The messages of the library: every failure it reports is first a `Message`, which knows its kind,
the field it is about, and its English text. A `Localizer` may put it into another language.
-/

namespace RecordRules

inductive Message where
  | emptyDirective
  | patternRequired (rule : String)
  | datetimeFormatRequired (rule : String)
  | numericParamRequired (rule : String)
  | requiredWithoutNeedsField
  | requiredWithoutSelfReference
  | unknownRule (name : String)
  | fieldDoesNotExist (path : String)
  | requiredFieldMissing (field : String)
  | eitherFieldRequired (field alternatives : String)
  | onlyOneFieldAllowed (field alternatives : String)
  | notString (field : String)
  | notInteger (field : String)
  | notNumeric (field : String)
  | notEmail (field : String)
  | notArray (field : String)
  | notUploadedFile (field : String)
  | patternMismatch (field pattern : String)
  | datetimeMismatch (field format : String)
  | belowMinimum (field min : String)
  | aboveMaximum (field max : String)
  | tooShort (field min : String)
  | tooLong (field max : String)
  | uploadFailed (field : String) (code : Int)
  | customValidationFailed (field : String)
  deriving DecidableEq, Inhabited

def uploadErrorText (code : Int) : String :=
  if code = 1 ∨ code = 2 then "the uploaded file exceeds the maximum allowed size."
  else if code = 3 then "the file was only partially uploaded."
  else if code = 4 then "no file was uploaded."
  else if code = 6 then "missing a temporary folder for the upload."
  else if code = 7 then "failed to write the uploaded file to disk."
  else if code = 8 then "a server extension stopped the file upload."
  else "unknown upload error: " ++ Text.decimalInt code

namespace Message

def kind : Message → FaultKind
  | emptyDirective | patternRequired _ | datetimeFormatRequired _ | numericParamRequired _
  | requiredWithoutNeedsField => .configuration
  | requiredWithoutSelfReference | requiredFieldMissing _ | eitherFieldRequired ..
  | onlyOneFieldAllowed .. => .requirement
  | unknownRule _ => .unknownRule
  | fieldDoesNotExist _ => .missingField
  | _ => .ruleViolation

def field : Message → Option String
  | emptyDirective | patternRequired _ | datetimeFormatRequired _ | numericParamRequired _
  | requiredWithoutNeedsField | requiredWithoutSelfReference | unknownRule _ => none
  | fieldDoesNotExist path => some path
  | requiredFieldMissing f | eitherFieldRequired f _ | onlyOneFieldAllowed f _ | notString f
  | notInteger f | notNumeric f | notEmail f | notArray f | notUploadedFile f
  | patternMismatch f _ | datetimeMismatch f _ | belowMinimum f _ | aboveMaximum f _
  | tooShort f _ | tooLong f _ | uploadFailed f _ | customValidationFailed f => some f

def english : Message → String
  | emptyDirective => "Rule must be a non-empty string."
  | patternRequired rule => "Rule '" ++ rule ++ "' must be used with a valid pattern."
  | datetimeFormatRequired rule =>
    "Rule '" ++ rule ++ "' must be used with a valid datetime format."
  | numericParamRequired rule => "Rule '" ++ rule ++ "' must be used with a numeric parameter."
  | requiredWithoutNeedsField => "Rule 'requiredWithout' must be used with a field name."
  | requiredWithoutSelfReference =>
    "Rule 'requiredWithout' must not reference the field itself."
  | unknownRule name => "Unknown rule '" ++ name ++ "'."
  | fieldDoesNotExist path => "Field '" ++ path ++ "' does not exist."
  | requiredFieldMissing f => "Required field '" ++ f ++ "' is missing."
  | eitherFieldRequired f alternatives =>
    "Either field '" ++ f ++ "' or " ++ alternatives ++ " must be present."
  | onlyOneFieldAllowed f alternatives =>
    "Only one of fields '" ++ f ++ "' or " ++ alternatives ++ " can be present."
  | notString f => "Field '" ++ f ++ "' must be a string."
  | notInteger f => "Field '" ++ f ++ "' must be an integer."
  | notNumeric f => "Field '" ++ f ++ "' must be numeric."
  | notEmail f => "Field '" ++ f ++ "' must be a valid email address."
  | notArray f => "Field '" ++ f ++ "' must be an array."
  | notUploadedFile f => "Field '" ++ f ++ "' must be a valid uploaded file."
  | patternMismatch f pattern => "Field '" ++ f ++ "' must match the pattern " ++ pattern ++ "."
  | datetimeMismatch f format =>
    "Field '" ++ f ++ "' must be a datetime in the format '" ++ format ++ "'."
  | belowMinimum f min => "Field '" ++ f ++ "' must have a minimum value of " ++ min ++ "."
  | aboveMaximum f max => "Field '" ++ f ++ "' must have a maximum value of " ++ max ++ "."
  | tooShort f min => "Field '" ++ f ++ "' must be at least " ++ min ++ " characters long."
  | tooLong f max => "Field '" ++ f ++ "' must not be longer than " ++ max ++ " characters."
  | uploadFailed f code => "Field '" ++ f ++ "': " ++ uploadErrorText code
  | customValidationFailed f => "Field '" ++ f ++ "' failed custom validation."

end Message

/-- Texts in another language. A message that has no text there keeps its English one. -/
structure Localizer where
  language : String
  translate : Message → Option String

namespace Localizer

def english : Localizer :=
  ⟨"en", fun _ => none⟩

instance : Inhabited Localizer := ⟨english⟩

end Localizer

namespace Message

/-- The text of the message in the localizer's language, in English where it has none. -/
def render (m : Message) (localizer : Localizer) : String :=
  (localizer.translate m).getD m.english

def localizedFault (m : Message) (localizer : Localizer) : Fault :=
  ⟨m.kind, m.field, m.render localizer⟩

/-- The fault that reports the message in English. -/
def fault (m : Message) : Fault :=
  m.localizedFault .english

@[simp] theorem fault_kind (m : Message) : m.fault.kind = m.kind := rfl

@[simp] theorem fault_field (m : Message) : m.fault.field = m.field := rfl

@[simp] theorem fault_message (m : Message) : m.fault.message = m.english := rfl

end Message

end RecordRules
