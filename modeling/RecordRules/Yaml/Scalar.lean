import RecordRules.Text.Digits
import RecordRules.Text.Split
import RecordRules.Yaml.Cursor

/-!
Texts in a document: plain ones, quoted ones, and blocks of lines. A text that goes on over several
lines has to stay to the right of `indent`, the column of the collection it stands in, and its line
breaks are folded; only a literal block keeps them.
-/

namespace RecordRules.Yaml

/-! Plain texts. -/

/-- Whether a plain text ends before this character of a line; `rest` is what follows it, and
`spaced` says that a blank comes before it. -/
def endsPlain (inFlow spaced : Bool) (c : Char) (rest : List Char) : Bool :=
  c == '\n' || (c == '#' && spaced) || (inFlow && isFlowMark c) ||
    (c == ':' && (atGap rest || (inFlow && (rest.head?.map isFlowMark).getD false)))

/-- The plain text at the front of a line, without the blanks at its end. -/
def plainLine (inFlow : Bool) : List Char → (blanks text : List Char) → List Char
  | [], _, text => text.reverse
  | c :: cs, blanks, text =>
    if endsPlain inFlow (!blanks.isEmpty) c cs then text.reverse
    else if isSpace c then plainLine inFlow cs (c :: blanks) text
    else plainLine inFlow cs [] (c :: blanks ++ text)

def startsPlain (inFlow : Bool) : List Char → Bool
  | [] => false
  | c :: rest =>
    if c = '-' ∨ c = '?' ∨ c = ':' then
      !atGap rest && !(inFlow && (rest.head?.map isFlowMark).getD false)
    else !(isSpace c || c == '\n' || isFlowMark c ||
      ['#', '&', '*', '!', '\'', '"', '%', '@', '\x60'].contains c ||
      (!inFlow && (c == '|' || c == '>')))

def plainLines (inFlow : Bool) (indent : Int) : Nat → Cursor → Option (List Char × Cursor)
  | 0, _ => none
  | fuel + 1, cursor =>
    let text := plainLine inFlow cursor.rest [] []
    let cursor := cursor.drop text.length
    let (_, breaks, following) := takeGap cursor.rest cursor.line cursor.column 0
    match following.rest with
    | [] => some (text, cursor)
    | c :: rest =>
      if breaks = 0 || following.atEnd || c == '#' || endsPlain inFlow true c rest ||
          (!inFlow && following.column ≤ indent) then some (text, cursor)
      else
        (plainLines inFlow indent fuel following).map fun (more, cursor) =>
          (text ++ foldBreaks breaks ++ more, cursor)

def plainText? (inFlow : Bool) (indent : Int) (cursor : Cursor) : Option (List Char × Cursor) :=
  if startsPlain inFlow cursor.rest then
    plainLines inFlow indent (cursor.rest.length + 1) cursor
  else none

/-! Quoted texts. -/

def escapedChar? : Char → Option Char
  | '0' => some '\x00'
  | 'a' => some '\x07'
  | 'b' => some '\x08'
  | 't' | '\t' => some '\t'
  | 'n' => some '\n'
  | 'v' => some '\x0b'
  | 'f' => some '\x0c'
  | 'r' => some '\x0d'
  | 'e' => some '\x1b'
  | ' ' => some ' '
  | '"' => some '"'
  | '/' => some '/'
  | '\\' => some '\\'
  | 'N' => some '\u0085'
  | '_' => some '\u00a0'
  | 'L' => some '\u2028'
  | 'P' => some '\u2029'
  | _ => none

def escapeWidth? : Char → Option Nat
  | 'x' => some 2
  | 'u' => some 4
  | 'U' => some 8
  | _ => none

/-- Reads an escape behind its backslash, and the number of characters it takes. -/
def escape? : List Char → Option (Char × Nat)
  | [] => none
  | c :: rest =>
    match escapeWidth? c with
    | some width => do
      let digits := rest.take width
      if digits.length < width then none
      else
        let code ← Text.natOfChars? 16 digits
        if code.isValidChar then some (Char.ofNat code, width + 1) else none
    | none => (escapedChar? c).map fun found => (found, 1)

/-- The rest of a quoted text, behind `text`, which is reversed. -/
def quotedRest (quote : Char) (indent : Int) : Nat → (text : List Char) → Cursor →
    Option (List Char × Cursor)
  | 0, _, _ => none
  | fuel + 1, text, cursor =>
    let strays (c : Cursor) : Bool := c.atEnd || c.column ≤ indent
    match cursor.rest with
    | [] => none
    | c :: rest =>
      if c = quote then
        if quote = '\'' ∧ rest.head? = some '\'' then
          quotedRest quote indent fuel ('\'' :: text) (cursor.drop 2)
        else some (text.reverse, cursor.next)
      else if c = '\\' ∧ quote = '"' then
        if rest.head? = some '\n' then
          let broken := cursor.next.next
          let (_, breaks, following) := takeGap broken.rest broken.line broken.column 0
          if strays following then none
          else quotedRest quote indent fuel (List.replicate breaks '\n' ++ text) following
        else
          match escape? rest with
          | some (found, width) =>
            quotedRest quote indent fuel (found :: text) (cursor.drop (width + 1))
          | none => none
      else if isSpace c || c == '\n' then
        let (blanks, breaks, following) := takeGap cursor.rest cursor.line cursor.column 0
        if breaks = 0 then quotedRest quote indent fuel (blanks.reverse ++ text) following
        else if strays following then none
        else quotedRest quote indent fuel (foldBreaks breaks ++ text) following
      else quotedRest quote indent fuel (c :: text) cursor.next

def quotedText? (indent : Int) (cursor : Cursor) : Option (List Char × Cursor) :=
  match cursor.rest with
  | c :: rest =>
    if c = '\'' ∨ c = '"' then quotedRest c indent (rest.length + 1) [] cursor.next else none
  | [] => none

/-! Blocks of lines. -/

/-- What becomes of the line breaks at the end of a block. -/
inductive Tail where
  | strip
  | clip
  | keep
  deriving DecidableEq

/-- What the header of a block says: whether line breaks are folded, what becomes of the last ones,
and by how much the lines are indented, if that is not left to the first of them. -/
structure BlockHeader where
  folded : Bool
  tail : Tail
  indentation : Option Nat

/-- Reads the marks of a header and a comment behind them, up to the end of the line. -/
def blockHeader? (header : BlockHeader) : List Char → Option BlockHeader
  | [] => some header
  | c :: cs =>
    if c = '+' ∨ c = '-' then
      if header.tail = .clip then
        blockHeader? { header with tail := if c = '+' then .keep else .strip } cs
      else none
    else if c.isDigit && c != '0' && header.indentation.isNone then
      blockHeader? { header with indentation := some (Text.natOfDigits [c]) } cs
    else if isSpace c then
      let rest := cs.dropWhile isSpace
      if rest.isEmpty || rest.head? == some '#' then some header else none
    else none

def leadingSpaces (line : List Char) : Nat :=
  (line.takeWhile (· == ' ')).length

/-- The greatest indentation up to the first line that is not empty. -/
def firstIndentation : List (List Char) → Nat
  | [] => 0
  | line :: lines =>
    let spaces := leadingSpaces line
    if spaces = line.length then max spaces (firstIndentation lines) else spaces

/-- What is known of a block while its lines are read: its text, how many lines it has, whether the
break behind its last text line is still to come, how many empty lines have followed that, whether
that line begins with a blank, and whether the document ends in the block. -/
structure BlockState where
  text : List Char
  lines : Nat
  broken : Bool
  emptyLines : Nat
  blankFirst : Bool
  ended : Bool

/-- The breaks between the text so far and a new text line. -/
def BlockState.gap (state : BlockState) (folded : Bool) (line : List Char) : List Char :=
  let blankFirst := (line.head?.map isSpace).getD false
  if folded && state.broken && !state.blankFirst && !blankFirst then
    foldBreaks (state.emptyLines + 1)
  else List.replicate (state.emptyLines + if state.broken then 1 else 0) '\n'

/-- Reads the lines of a block. The last piece of a document has no line break behind it. -/
def blockLines (folded : Bool) (indentation : Nat) (state : BlockState) :
    List (List Char) → BlockState
  | [] => state
  | line :: lines =>
    let spaces := min (leadingSpaces line) indentation
    let content := line.drop spaces
    let last := lines.isEmpty
    if content.isEmpty then
      if last then { state with lines := state.lines + 1, ended := spaces == max indentation 1 }
      else
        blockLines folded indentation
          { state with lines := state.lines + 1, emptyLines := state.emptyLines + 1 } lines
    else if spaces < indentation ||
        (indentation == 0 && (Cursor.start line).atEnd) then state
    else
      blockLines folded indentation
        { text := state.text ++ state.gap folded content ++ content
          lines := state.lines + 1
          broken := !last
          emptyLines := 0
          blankFirst := (content.head?.map isSpace).getD false
          ended := last && 0 < line.length } lines

/-- The text of a block with its last line breaks. A block at the very end of a document gets the
line break that is missing there. -/
def BlockState.finish (state : BlockState) (tail : Tail) : List Char :=
  let last := (if state.broken then ['\n'] else []) ++ (if state.ended then ['\n'] else [])
  match tail with
  | .strip => state.text
  | .clip => state.text ++ last
  | .keep => state.text ++ last ++ List.replicate state.emptyLines '\n'

def blockText? (indent : Int) (cursor : Cursor) : Option (List Char × Cursor) := do
  let folded := cursor.rest.head? == some '>'
  match Text.splitAll '\n' (cursor.rest.drop 1) with
  | [] => none
  | first :: lines =>
    let header ← blockHeader? ⟨folded, .clip, none⟩ first
    if (lines.head?.bind List.head?) == some '\t' then none
    else
      let indentation :=
        match header.indentation with
        | some more => (max indent 0).toNat + more
        | none => max (firstIndentation lines) (indent + 1).toNat
      let state := blockLines folded indentation ⟨[], 0, false, 0, false, false⟩ lines
      let left := lines.drop state.lines
      return (state.finish header.tail,
        ⟨Text.joinWith ['\n'] left, cursor.line + 1 + state.lines, 0⟩)

end RecordRules.Yaml
