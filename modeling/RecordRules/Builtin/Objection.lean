import RecordRules.Builtin
import RecordRules.Calendar.Format
import RecordRules.Email
import RecordRules.Message
import RecordRules.Pattern.Delimited
import RecordRules.Upload
import RecordRules.Value.Numeric

/-!
What the rules have against a value. Each rule looks at the value first, at its own parameter next,
and then at the two together; the first thing that is wrong is its objection.
-/

namespace RecordRules

def Message.ifNot (m : Message) (passed : Bool) : Option Message :=
  if passed then none else some m

namespace Builtin

/-- A parameter that is there and not empty. -/
def usable? (param : Option String) : Option String :=
  param.filter fun p => !p.isEmpty

def bound? (param : Option String) : Option (Double × String) :=
  param.bind fun raw => (numberOfText? raw).map fun bound => (bound, raw)

def boundObjection? (rule : Builtin) (field : String) (value : Value) (param : Option String)
    (within : Double → Double → Bool) (complaint : String → Message) : Option Message :=
  match value.number? with
  | none => some (.notNumeric field)
  | some number =>
    match bound? param with
    | none => some (.numericParamRequired rule.name)
    | some (bound, raw) => (complaint raw).ifNot (within number bound)

/-- What a rule on lengths with a bound objects to. A length counts characters. -/
def lengthObjection? (rule : Builtin) (field : String) (value : Value) (param : Option String)
    (within : Double → Double → Bool) (complaint : String → Message) : Option Message :=
  match value with
  | .string s =>
    match bound? param with
    | none => some (.numericParamRequired rule.name)
    | some (bound, raw) => (complaint raw).ifNot (within (Double.ofInt s.toList.length) bound)
  | _ => some (.notString field)

/-- What a rule that compares a text with its parameter objects to; `judge` has no answer if the
parameter is unusable. -/
def textObjection? (field : String) (value : Value) (param : Option String)
    (unusable : Message) (judge : String → String → Option Bool) (complaint : String → Message) :
    Option Message :=
  match value with
  | .string s =>
    match usable? param with
    | none => some unusable
    | some p =>
      match judge s p with
      | none => some unusable
      | some passed => (complaint p).ifNot passed
  | _ => some (.notString field)

/-- What the rule on uploads objects to. An error code is reported even if the rest is no
description of an upload. -/
def fileObjection? (isFile : String → Bool) (field : String) (value : Value) : Option Message :=
  match value.uploadError? with
  | some code =>
    if code ≠ 0 then some (.uploadFailed field code)
    else (Message.notUploadedFile field).ifNot (value.isUpload isFile)
  | none => (Message.notUploadedFile field).ifNot (value.isUpload isFile)

def objection? (isFile : String → Bool) (field : String) (value : Value) (param : Option String) :
    Builtin → Option Message
  | string => (Message.notString field).ifNot value.isString
  | integer => (Message.notInteger field).ifNot value.isInteger
  | numeric => (Message.notNumeric field).ifNot value.isNumeric
  | email => (Message.notEmail field).ifNot value.isEmail
  | array => (Message.notArray field).ifNot value.isContainer
  | regex => textObjection? field value param (.patternRequired regex.name)
      Pattern.matches? (.patternMismatch field)
  | datetime => textObjection? field value param (.datetimeFormatRequired datetime.name)
      Calendar.matches? (.datetimeMismatch field)
  | min => boundObjection? min field value param (fun number bound => bound.le number)
      (.belowMinimum field)
  | max => boundObjection? max field value param (fun number bound => number.le bound)
      (.aboveMaximum field)
  | minLength => lengthObjection? minLength field value param
      (fun length bound => bound.le length) (.tooShort field)
  | maxLength => lengthObjection? maxLength field value param
      (fun length bound => length.le bound) (.tooLong field)
  | file => fileObjection? isFile field value

end Builtin

end RecordRules
