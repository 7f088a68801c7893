import RecordRules.Value

/-!
Descriptions of uploaded files: objects with a name, a type, a size, an error code, and the path of
the temporary file that holds the upload. `isFile` says which paths name regular files.
-/

namespace RecordRules.Value

/-- The error code of an upload, where 0 reports success. -/
def uploadError? (v : Value) : Option Int :=
  (v.member? "error").bind signed?

def hasMember (v : Value) (key : String) (test : Value → Bool) : Bool :=
  match v.member? key with
  | some found => test found
  | none => false

/-- Whether the value describes a successful upload whose file is there. -/
def isUpload (isFile : String → Bool) (v : Value) : Bool :=
  v.hasMember "name" isString && v.hasMember "type" isString &&
    v.hasMember "size" (fun size => size.integer?.isSome) && v.uploadError? == some 0 &&
    v.hasMember "tmp_name" fun path =>
      match path with
      | string s => isFile s
      | _ => false

end RecordRules.Value
