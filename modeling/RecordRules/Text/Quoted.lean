import RecordRules.Unicode.Lookup

/-!
Text in double quotes, in which a quote, a backslash and every character that would not show as
itself is escaped.
-/

namespace RecordRules.Text

/-- The characters that do not show: controls, formats, private and unassigned ones, and all
separators but the space. -/
def unprintable : Unicode.CharSet :=
  (Unicode.CharSet.ofRanges
    (["Cc", "Cf", "Cn", "Co", "Zl", "Zp", "Zs"].flatMap fun part =>
      (Unicode.categoryByShortName part).ranges)).diff (.singleton ' ')

/-- The characters that only modify the one before them. -/
def extending : Unicode.CharSet :=
  (Unicode.row? Unicode.propertyRows [] "graphemeextend").getD .empty

def quotedChar (c : Char) : List Char :=
  if c = '\x00' then ['\\', '0']
  else if c = '\t' then ['\\', 't']
  else if c = '\n' then ['\\', 'n']
  else if c = '\r' then ['\\', 'r']
  else if c = '"' then ['\\', '"']
  else if c = '\\' then ['\\', '\\']
  else if 0x20 ≤ c.toNat && c.toNat < 0x7F then [c]
  else if unprintable.contains c || extending.contains c then
    ['\\', 'u', '\x7b'] ++ Nat.toDigits 16 c.toNat ++ ['\x7d']
  else [c]

def quoted (s : String) : String :=
  String.ofList ('"' :: s.toList.flatMap quotedChar ++ ['"'])

end RecordRules.Text
