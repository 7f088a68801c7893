import RecordRules.Record.Path
import RecordRules.Number.Shortest
import RecordRules.Text.Quoted

/-!
Typed look-ups. A `Shape` is what a caller expects to find at a path; `Shape.read` converts without
coercion between strings, booleans and numbers, or says what it found and what it expected.
-/

namespace RecordRules

inductive Shape where
  | string
  | bool
  /-- An integer within bounds, under the name of its type. -/
  | integer (name : String) (lower upper : Int)
  | double
  | optional (shape : Shape)
  | list (shape : Shape)
  | map (shape : Shape)

namespace Shape

def unsigned8 : Shape := integer "u8" 0 0xff
def signed64 : Shape := integer "i64" (-0x8000000000000000) 0x7fffffffffffffff
def unsigned64 : Shape := integer "u64" 0 0xffffffffffffffff

def expectation : Shape → String
  | string => "a string"
  | bool => "a boolean"
  | integer name _ _ => name
  | double => "f64"
  | optional shape => shape.expectation
  | list _ => "a sequence"
  | map _ => "a map"

def description : Value → String
  | .null => "null"
  | .bool b => "boolean `" ++ (if b then "true" else "false") ++ "`"
  | .integer n => "integer `" ++ Text.decimalInt n.value ++ "`"
  | .double d => "floating point `" ++ d.text ++ "`"
  | .string s => "string " ++ Text.quoted s
  | .array _ => "sequence"
  | .object _ => "map"

def mismatch (shape : Shape) (v : Value) : String :=
  "invalid type: " ++ description v ++ ", expected " ++ shape.expectation

def read : Shape → Value → Except String Value
  | string, .string s => .ok (.string s)
  | bool, .bool b => .ok (.bool b)
  | integer name lower upper, .integer n =>
    if lower ≤ n.value ∧ n.value ≤ upper then .ok (.integer n)
    else .error ("invalid value: " ++ description (.integer n) ++ ", expected " ++ name)
  | double, .double d => .ok (.double d)
  | double, .integer n => .ok (.double (Double.ofInt n.value))
  | optional _, .null => .ok .null
  | optional shape, v => shape.read v
  | list shape, .array items => (items.mapM shape.read).map .array
  | map shape, .object members =>
    (members.mapM fun m => (shape.read m.2).map fun found => (m.1, found)).map .object
  | shape, v => .error (shape.mismatch v)

end Shape

def Value.getAs (record : Value) (path : String) (shape : Shape) : Except Fault Value :=
  match record.get path with
  | .error fault => .error fault
  | .ok v =>
    match shape.read v with
    | .ok found => .ok found
    | .error reason =>
      .error ((Fault.configuration
        ("Field '" ++ path ++ "' has an unexpected shape: " ++ reason)).onField path)

end RecordRules
