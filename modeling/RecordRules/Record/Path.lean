import RecordRules.Message
import RecordRules.Text.Digits
import RecordRules.Text.Split

/-!
Paths into a record. The dots of a path separate its steps; a step takes the member of that name
in an object and the item at that position in a list, where positions are written in ASCII digits.
The whole path leads to a value, or nowhere as soon as one step does.
-/

namespace RecordRules

def pathSteps (path : String) : List (List Char) :=
  Text.splitAll '.' path.toList

/-- The position a step writes: a natural number in ASCII digits. -/
def position? (step : List Char) : Option Nat :=
  if !step.isEmpty && step.all Char.isDigit then some (Text.natOfDigits step) else none

namespace Value

def step? (step : List Char) : Value → Option Value
  | object members => Keyed.find? (String.ofList step) members
  | array items => (position? step).bind fun i => items[i]?
  | _ => none

def walk? : List (List Char) → Value → Option Value
  | [], v => some v
  | step :: steps, v => (v.step? step).bind (walk? steps)

def resolve? (path : String) (record : Value) : Option Value :=
  walk? (pathSteps path) record

/-- Whether a path leads anywhere. A null counts as a value. -/
def has (record : Value) (path : String) : Bool :=
  (record.resolve? path).isSome

def get (record : Value) (path : String) : Except Fault Value :=
  match record.resolve? path with
  | some v => .ok v
  | none => .error (Message.fieldDoesNotExist path).fault

end Value

end RecordRules
