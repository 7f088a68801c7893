import RecordRules.Pattern.Reader

/-!
Patterns between delimiters. A pattern that starts with a delimiter and contains its closing
partner again is a body, up to the last closing delimiter, and option letters behind it. Behind
any delimiter but the slash the letters have to be option letters, or the text is a plain pattern.
-/

namespace RecordRules.Pattern

def delimiters : List (Char × Char) :=
  [('/', '/'), ('#', '#'), ('~', '~'), ('!', '!'), ('@', '@'), ('%', '%'), ('|', '|'), ('+', '+'),
    ('\x7b', '\x7d')]

def closing? (c : Char) : Option Char :=
  (delimiters.find? fun d => d.1 == c).map Prod.snd

def optionLetters : List Char := ['i', 'm', 's', 'x', 'U', 'u']

def split? : List Char → Option (List Char × List Char)
  | [] => none
  | c :: cs => do
    let close ← closing? c
    let (body, letters) ← Text.cutLast? close cs
    if c ≠ '/' ∧ ¬ letters.all optionLetters.contains then none else some (body, letters)

/-- One option letter more. Preferring fewer copies and matching by characters change nothing. -/
def Flags.addLetter? (flags : Flags) : Char → Option Flags
  | 'i' => some { flags with ignoreCase := true }
  | 'm' => some { flags with multiLine := true }
  | 's' => some { flags with dotAll := true }
  | 'x' => some { flags with extended := true }
  | 'U' | 'u' => some flags
  | _ => none

def flagsOfLetters? (letters : List Char) : Option Flags :=
  letters.foldlM Flags.addLetter? {}

def compile? (pattern : String) : Option Regex := do
  let (body, letters) := (split? pattern.toList).getD (pattern.toList, [])
  read? (← flagsOfLetters? letters) body

/-- Whether a subject matches a pattern somewhere; nothing can be said of an unusable pattern. -/
def matches? (subject pattern : String) : Option Bool :=
  (compile? pattern).map fun r => r.isMatch subject.toList

end RecordRules.Pattern
