/-!
Formats of token letters, as in `Y-m-d H:i:s`. A backslash takes the next character for itself, and
so stands every character that is no token. `specifiers?` writes such a format with percent
specifiers; some tokens have none, and a format that uses one is refused.
-/

namespace RecordRules.Calendar

/-- The percent specifiers of a token, or none for a token that cannot be read. A character that is
no token stands for itself. -/
def tokenSpecifiers? (c : Char) : Option (List Char) :=
  match c with
  | 'd' | 'j' => some ['%', 'd']
  | 'D' => some ['%', 'a']
  | 'l' => some ['%', 'A']
  | 'N' => some ['%', 'u']
  | 'w' => some ['%', 'w']
  | 'W' => some ['%', 'V']
  | 'F' => some ['%', 'B']
  | 'M' => some ['%', 'b']
  | 'm' | 'n' => some ['%', 'm']
  | 'Y' => some ['%', 'Y']
  | 'o' => some ['%', 'G']
  | 'y' => some ['%', 'y']
  | 'a' | 'A' => some ['%', 'p']
  | 'g' | 'h' => some ['%', 'I']
  | 'G' | 'H' => some ['%', 'H']
  | 'i' => some ['%', 'M']
  | 's' => some ['%', 'S']
  | 'u' => some ['%', '6', 'f']
  | 'v' => some ['%', '3', 'f']
  | 'e' | 'T' => some ['%', 'Z']
  | 'O' => some ['%', 'z']
  | 'P' | 'p' => some ['%', ':', 'z']
  | 'U' => some ['%', 's']
  | 'c' => some "%Y-%m-%dT%H:%M:%S%:z".toList
  | 'r' => some "%a, %d %b %Y %H:%M:%S %z".toList
  | '%' => some ['%', '%']
  | 'z' | 'S' | 't' | 'L' | 'B' | 'I' => none
  | c => some [c]

def escapedSpecifiers (c : Char) : List Char :=
  if c = '%' then ['%', '%'] else [c]

/-- The format with percent specifiers. A backslash at the end is dropped. -/
def specifiers? : List Char → Option (List Char)
  | [] => some []
  | ['\\'] => some []
  | '\\' :: c :: cs => (specifiers? cs).map (escapedSpecifiers c ++ ·)
  | c :: cs => do return (← tokenSpecifiers? c) ++ (← specifiers? cs)

def translate? (format : String) : Option String :=
  (specifiers? format.toList).map String.ofList

end RecordRules.Calendar
