import RecordRules.Keyed
import RecordRules.Value

/-!
Specifications: the fields of a record that are declared, in the order of their declaration, each
with the entries of its rules. To declare a field again changes its entries and not its place.
-/

namespace RecordRules

/-- A check that is given as a function of the value. It rejects a value only by answering false;
having no answer accepts it. -/
abbrev Predicate := Value → Option Bool

/-- One entry of a field: a directive as written, or a predicate. -/
inductive Entry where
  | directive (raw : String)
  | predicate (p : Predicate)

structure Specs where
  fields : List (String × List Entry)
  nodup : (Keyed.keys fields).Nodup

namespace Specs

def empty : Specs :=
  ⟨[], List.nodup_nil⟩

instance : Inhabited Specs := ⟨empty⟩

def insert (specs : Specs) (field : String) (entries : List Entry) : Specs :=
  ⟨Keyed.put field entries specs.fields, Keyed.nodup_keys_put field entries specs.nodup⟩

def get? (specs : Specs) (field : String) : Option (List Entry) :=
  Keyed.find? field specs.fields

def size (specs : Specs) : Nat :=
  specs.fields.length

@[simp] theorem get?_insert_self (specs : Specs) (field : String) (entries : List Entry) :
    (specs.insert field entries).get? field = some entries :=
  Keyed.find?_put_self field entries specs.fields

theorem get?_insert_of_ne {field other : String} (h : field ≠ other) (specs : Specs)
    (entries : List Entry) : (specs.insert field entries).get? other = specs.get? other :=
  Keyed.find?_put_of_ne h entries specs.fields

def ofList (fields : List (String × List Entry)) : Specs :=
  fields.foldl (fun specs e => specs.insert e.1 e.2) empty

end Specs

end RecordRules
