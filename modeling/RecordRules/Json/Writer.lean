import RecordRules.Value
import RecordRules.Number.Shortest

/-!
Writing JSON: on one line, without spaces, members in their order. Control characters, the three
line-breaking characters and DEL are escaped.
-/

namespace RecordRules.Json

def escape (c : Char) : List Char :=
  if c = '"' then ['\\', '"']
  else if c = '\\' then ['\\', '\\']
  else if c.toNat < 0x20 || c.toNat == 0x7F || c.toNat == 0x85 || c.toNat == 0x2028
      || c.toNat == 0x2029 then
    '\\' :: 'u' :: (Text.hex 4 c.toNat).toList
  else [c]

def writeString (s : String) : String :=
  "\"" ++ String.ofList (s.toList.flatMap escape) ++ "\""

mutual

def write : Value → String
  | .null => "null"
  | .bool b => if b then "true" else "false"
  | .integer n => Text.decimalInt n.value
  | .double d => d.text
  | .string s => writeString s
  | .array items => "[" ++ String.intercalate "," (writeItems items) ++ "]"
  | .object members => "\x7b" ++ String.intercalate "," (writeMembers members) ++ "\x7d"

def writeItems : List Value → List String
  | [] => []
  | v :: vs => write v :: writeItems vs

def writeMembers : List (String × Value) → List String
  | [] => []
  | (key, v) :: ms => (writeString key ++ ":" ++ write v) :: writeMembers ms

end

end RecordRules.Json
