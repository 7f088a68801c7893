import RecordRules.Value

/-!
Email addresses. Before the one `@` stand atoms, behind it at least two labels, each joined by
single points. An address is read in one pass; the place says what may come next.
-/

namespace RecordRules.Email

def isAlphanumeric (c : Char) : Bool :=
  c.isAlpha || c.isDigit

def isAtomChar (c : Char) : Bool :=
  isAlphanumeric c || "!#$%&'*+/=?^_\x60\x7b|\x7d~-".toList.contains c

/-- Where a reader stands within an address. `dotted` says that a label has come before. -/
inductive Place where
  /-- Before the first character of an atom. -/
  | atomStart
  /-- Within or at the end of an atom. -/
  | atom
  /-- Before the first character of a label. -/
  | labelStart (dotted : Bool)
  /-- Behind a letter or digit of a label. -/
  | label (dotted : Bool)
  /-- Behind a hyphen of a label, which may not be its last character. -/
  | hyphen (dotted : Bool)
  deriving DecidableEq

namespace Place

def step? (c : Char) : Place → Option Place
  | atomStart => if isAtomChar c then some atom else none
  | atom =>
    if isAtomChar c then some atom
    else if c = '.' then some atomStart
    else if c = '@' then some (labelStart false)
    else none
  | labelStart dotted => if isAlphanumeric c then some (label dotted) else none
  | label dotted =>
    if isAlphanumeric c then some (label dotted)
    else if c = '-' then some (hyphen dotted)
    else if c = '.' then some (labelStart true)
    else none
  | hyphen dotted =>
    if isAlphanumeric c then some (label dotted)
    else if c = '-' then some (hyphen dotted)
    else none

def run? (cs : List Char) (place : Place) : Option Place :=
  cs.foldlM (fun place c => place.step? c) place

end Place

def isAddress (cs : List Char) : Bool :=
  Place.run? cs .atomStart == some (.label true)

end RecordRules.Email

namespace RecordRules.Value

def isEmail : Value → Bool
  | string s => Email.isAddress s.toList
  | _ => false

end RecordRules.Value
