import RecordRules.Value
import RecordRules.Number.Decimal

/-!
Numbers in records. A number stands for itself and a string for the number it writes; nothing else
is numeric, booleans included. A number is read as a double, so large integers are rounded.
-/

namespace RecordRules.Value

def number? : Value → Option Double
  | integer n => some (Double.ofInt n.value)
  | double d => some d
  | string s => numberOfText? s
  | _ => none

def isNumeric (v : Value) : Bool :=
  v.number?.isSome

def isInteger : Value → Bool
  | integer _ => true
  | v =>
    match v.number? with
    | some d => d.isWhole
    | none => false

end RecordRules.Value
