/-!
Positions in a document. A cursor is what is left of the text with the line and the column it stands
at. `skip` passes over blanks, comments and line breaks and says whether the cursor then stands at
the first thing on its line.
-/

namespace RecordRules.Yaml

structure Cursor where
  rest : List Char
  line : Nat
  column : Nat
  deriving Inhabited

def isSpace (c : Char) : Bool :=
  c == ' ' || c == '\t'

/-- The characters that end a plain text in a flow collection. -/
def isFlowMark (c : Char) : Bool :=
  [',', '[', ']', '\x7b', '\x7d'].contains c

/-- Whether a text is at its end, or goes on with a space or a line break. -/
def atGap : List Char → Bool
  | [] => true
  | c :: _ => isSpace c || c == '\n'

namespace Cursor

def start (text : List Char) : Cursor :=
  ⟨text, 0, 0⟩

def next (c : Cursor) : Cursor :=
  match c.rest with
  | [] => c
  | '\n' :: rest => ⟨rest, c.line + 1, 0⟩
  | _ :: rest => ⟨rest, c.line, c.column + 1⟩

def drop (c : Cursor) (count : Nat) : Cursor :=
  ⟨c.rest.drop count, c.line, c.column + count⟩

/-- Whether the text goes on with these characters and then a gap. -/
def atWord (c : Cursor) (word : List Char) : Bool :=
  word.isPrefixOf c.rest && atGap (c.rest.drop word.length)

def atDocumentStart (c : Cursor) : Bool :=
  c.column == 0 && c.atWord ['-', '-', '-']

def atDocumentEnd (c : Cursor) : Bool :=
  c.column == 0 && c.atWord ['.', '.', '.']

def atEnd (c : Cursor) : Bool :=
  c.rest.isEmpty || c.atDocumentStart || c.atDocumentEnd

end Cursor

/-- Where `skip` comes to a halt: whether it has passed a line break, and the column of the first
tab before anything else on the line. -/
structure Landing where
  cursor : Cursor
  fresh : Bool
  tab : Option Nat
  deriving Inhabited

/-- Passes over blanks, comments and line breaks. A comment starts with a hash that is `separated`
from what comes before, and lasts to the end of its line. -/
def skipFrom : List Char → (line column : Nat) → (fresh : Bool) → (tab : Option Nat) →
    (comment separated : Bool) → Landing
  | [], line, column, fresh, tab, _, _ => ⟨⟨[], line, column⟩, fresh, tab⟩
  | c :: cs, line, column, fresh, tab, comment, separated =>
    if c = '\n' then skipFrom cs (line + 1) 0 true none false true
    else if comment then skipFrom cs line (column + 1) fresh tab true true
    else if c = ' ' then skipFrom cs line (column + 1) fresh tab false true
    else if c = '\t' then skipFrom cs line (column + 1) fresh (tab.or (some column)) false true
    else if c = '#' ∧ separated then skipFrom cs line (column + 1) fresh tab true true
    else ⟨⟨c :: cs, line, column⟩, fresh, tab⟩

namespace Cursor

def skip (c : Cursor) : Landing :=
  skipFrom c.rest c.line c.column (c.column == 0) none false (c.column == 0)

def skipSpaces (c : Cursor) : Cursor :=
  c.drop (c.rest.takeWhile isSpace).length

end Cursor

/-- Passes over blanks and line breaks. The line breaks are counted, and the blanks before the first
of them, or before the next character if there is none, are returned. -/
def takeGap : List Char → (line column breaks : Nat) → List Char × Nat × Cursor
  | [], line, column, breaks => ([], breaks, ⟨[], line, column⟩)
  | c :: cs, line, column, breaks =>
    if c = '\n' then
      let (_, breaks, cursor) := takeGap cs (line + 1) 0 (breaks + 1)
      ([], breaks, cursor)
    else if isSpace c then
      let (blanks, breaks, cursor) := takeGap cs line (column + 1) breaks
      (c :: blanks, breaks, cursor)
    else ([], breaks, ⟨c :: cs, line, column⟩)

/-- What is left of some line breaks between texts: one is a space, and of more all but one. -/
def foldBreaks : Nat → List Char
  | 0 => []
  | 1 => [' ']
  | count + 2 => List.replicate (count + 1) '\n'

end RecordRules.Yaml
