import RecordRules.Keyed
import RecordRules.Number.Double

/-!
The values of records: the JSON values, with integers and doubles kept apart and the members of
an object in the order of the document.
-/

namespace RecordRules

/-- The integers a value can hold: those of sixty-four bits, signed or unsigned, from -2^63 to
2^64 - 1. -/
structure WholeNumber where
  value : Int
  lower : -0x8000000000000000 ≤ value
  upper : value < 0x10000000000000000
  deriving DecidableEq

namespace WholeNumber

instance : Inhabited WholeNumber := ⟨⟨0, by decide, by decide⟩⟩

def ofInt? (i : Int) : Option WholeNumber :=
  if h : -0x8000000000000000 ≤ i ∧ i < 0x10000000000000000 then some ⟨i, h.1, h.2⟩ else none

/-- Whether the integer fits sixty-four bits with a sign. -/
def isSigned (n : WholeNumber) : Bool :=
  n.value < 0x8000000000000000

theorem ofInt?_value (n : WholeNumber) : ofInt? n.value = some n := by
  have h : -0x8000000000000000 ≤ n.value ∧ n.value < 0x10000000000000000 := ⟨n.lower, n.upper⟩
  rw [ofInt?, dif_pos h]

theorem ofInt?_eq_some_iff {i : Int} {n : WholeNumber} : ofInt? i = some n ↔ n.value = i := by
  constructor
  · intro h
    unfold ofInt? at h
    split at h
    · rw [← Option.some.inj h]
    · cases h
  · intro h
    rw [← h, ofInt?_value]

end WholeNumber

inductive Value where
  | null
  | bool (b : Bool)
  | integer (n : WholeNumber)
  | double (d : Double)
  | string (s : String)
  | array (items : List Value)
  | object (members : List (String × Value))
  deriving Inhabited

namespace Value

def member? (key : String) : Value → Option Value
  | object members => Keyed.find? key members
  | _ => none

def string? : Value → Option String
  | string s => some s
  | _ => none

def integer? : Value → Option WholeNumber
  | integer n => some n
  | _ => none

def signed? : Value → Option Int
  | integer n => if n.isSigned then some n.value else none
  | _ => none

def isString (v : Value) : Bool :=
  v.string?.isSome

def isContainer : Value → Bool
  | array _ | object _ => true
  | _ => false

/-- An integer value, or null for an integer out of range. -/
def ofInt (i : Int) : Value :=
  match WholeNumber.ofInt? i with
  | some n => integer n
  | none => null

end Value

end RecordRules
