import RecordRules.Number.Shortest
import RecordRules.Validator

/-!
Typed data, and the records they become. Data tell apart what records do not: characters, bytes,
options, and the variants of a choice. An integer may be too large for a record, a key may be no
key, and a datum may refuse altogether; the first problem, a key before its value, is reported.
-/

namespace RecordRules

inductive Datum where
  | unit
  | none
  | some (datum : Datum)
  | bool (b : Bool)
  | char (c : Char)
  | string (s : String)
  | int (i : Int)
  /-- A number with a fractional part, which may also be no number at all. -/
  | float (d : Option Double)
  | bytes (bytes : List UInt8)
  | list (items : List Datum)
  | map (entries : List (Datum × Datum))
  /-- A choice that carries nothing. -/
  | variant (name : String)
  /-- A choice that carries one datum. -/
  | variantOf (name : String) (datum : Datum)
  /-- A choice that carries a list of data. -/
  | variantOfList (name : String) (items : List Datum)
  /-- A choice that carries named data. -/
  | variantOfFields (name : String) (fields : List (String × Datum))
  /-- A datum that refuses to become a record. -/
  | failure (reason : String)
  deriving Inhabited

namespace Datum

def key : Datum → Except String String
  | string s | variant s => .ok s
  | char c => .ok (String.singleton c)
  | int i => .ok (Text.decimalInt i)
  | bool b => .ok (if b then "true" else "false")
  | float (.some d) =>
    if d.isFinite then .ok d.text
    else .error "float key must be finite (got NaN or +/-inf)"
  | float .none => .error "float key must be finite (got NaN or +/-inf)"
  | failure reason => .error reason
  | _ => .error "key must be a string"

def ofInt (i : Int) : Except String Value :=
  match WholeNumber.ofInt? i with
  | .some n => .ok (.integer n)
  | .none => .error "number out of range"

/-- A number in a record, where infinities and what is no number are null. -/
def ofFloat : Option Double → Value
  | .some d => if d.isFinite then .double d else .null
  | .none => .null

def ofByte (b : UInt8) : Value :=
  Value.ofInt b.toNat

def tagged (name : String) (v : Value) : Value :=
  .object [(name, v)]

mutual

def toValue : Datum → Except String Value
  | unit | none => .ok .null
  | some datum => datum.toValue
  | bool b => .ok (.bool b)
  | char c => .ok (.string (String.singleton c))
  | string s | variant s => .ok (.string s)
  | int i => ofInt i
  | float d => .ok (ofFloat d)
  | bytes bs => .ok (.array (bs.map ofByte))
  | list items => (toValues items).map .array
  | map entries => (toMembers [] entries).map .object
  | variantOf name datum => datum.toValue.map (tagged name)
  | variantOfList name items => (toValues items).map fun vs => tagged name (.array vs)
  | variantOfFields name fields => (ofFields [] fields).map fun ms => tagged name (.object ms)
  | failure reason => .error reason

def toValues : List Datum → Except String (List Value)
  | [] => .ok []
  | datum :: data => do
    let v ← datum.toValue
    let vs ← toValues data
    return v :: vs

/-- The members of a map. A key that comes again keeps its place and takes the later value. -/
def toMembers (members : List (String × Value)) :
    List (Datum × Datum) → Except String (List (String × Value))
  | [] => .ok members
  | (k, datum) :: entries => do
    let name ← k.key
    let v ← datum.toValue
    toMembers (Keyed.put name v members) entries

def ofFields (members : List (String × Value)) :
    List (String × Datum) → Except String (List (String × Value))
  | [] => .ok members
  | (name, datum) :: fields => do
    let v ← datum.toValue
    ofFields (Keyed.put name v members) fields

end

def toRecord (datum : Datum) : Except Fault Value :=
  match datum.toValue with
  | .ok v => .ok v
  | .error reason => .error (Fault.configuration ("unserializable record: " ++ reason))

end Datum

def Validator.validateDatum (isFile : String → Bool) (validator : Validator) (datum : Datum) :
    Run Value := do
  let record ← Run.ofExcept datum.toRecord
  validator.validate isFile record

end RecordRules
