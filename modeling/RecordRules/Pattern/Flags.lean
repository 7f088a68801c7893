import RecordRules.Pattern.Regex
import RecordRules.Text.Blank

/-!
The options of a pattern, and how they turn characters and sets into expressions.
-/

namespace RecordRules.Pattern

open Unicode (CharSet)

/-- The options that are on. Only without `unicode` are classes ASCII; matching always goes by
characters. -/
structure Flags where
  ignoreCase : Bool := false
  multiLine : Bool := false
  dotAll : Bool := false
  extended : Bool := false
  unicode : Bool := true
  crlf : Bool := false
  deriving DecidableEq, Inhabited

/-- One letter of a list of options. `greed` changes which match is preferred, never whether there
is one. -/
inductive Flag where
  | ignoreCase
  | multiLine
  | dotAll
  | greed
  | unicode
  | crlf
  | extended
  deriving DecidableEq

namespace Flag

def ofChar? : Char → Option Flag
  | 'i' => some ignoreCase
  | 'm' => some multiLine
  | 's' => some dotAll
  | 'U' => some greed
  | 'u' => some unicode
  | 'R' => some crlf
  | 'x' => some extended
  | _ => none

end Flag

namespace Flags

def set (flags : Flags) (flag : Flag) (on : Bool) : Flags :=
  match flag with
  | .ignoreCase => { flags with ignoreCase := on }
  | .multiLine => { flags with multiLine := on }
  | .dotAll => { flags with dotAll := on }
  | .greed => flags
  | .unicode => { flags with unicode := on }
  | .crlf => { flags with crlf := on }
  | .extended => { flags with extended := on }

/-- The set with everything that differs from it in letter case, if case does not matter. -/
def foldSet (flags : Flags) (s : CharSet) : CharSet :=
  if !flags.ignoreCase then s
  else if flags.unicode then s.foldCase
  else s.foldAsciiCase

/-- The set that is left when case and negation have been attended to. Without Unicode a negated
set would hold parts of characters, which no pattern may. -/
def finishSet? (flags : Flags) (negated : Bool) (s : CharSet) : Option CharSet :=
  let folded := flags.foldSet s
  if !negated then some folded
  else if flags.unicode then some folded.complement
  else none

def literal (flags : Flags) (c : Char) : Regex :=
  .chars (flags.foldSet (.singleton c))

def dot? (flags : Flags) : Option Regex :=
  if !flags.unicode then none
  else if flags.dotAll then some (.chars .full)
  else if flags.crlf then some (.chars (CharSet.ofChars ['\n', '\r']).complement)
  else some (.chars (CharSet.singleton '\n').complement)

def lineStart (flags : Flags) : Look :=
  if !flags.multiLine then .textStart else if flags.crlf then .lineStartCRLF else .lineStart

def lineEnd (flags : Flags) : Look :=
  if !flags.multiLine then .textEnd else if flags.crlf then .lineEndCRLF else .lineEnd

/-- Skips blanks and comments, a comment lasting to the end of its line. -/
def skipBlanks : List Char → Bool → List Char
  | [], _ => []
  | c :: cs, true => skipBlanks cs (c != '\n')
  | c :: cs, false =>
    if Text.isBlank c then skipBlanks cs false
    else if c = '#' then skipBlanks cs true
    else c :: cs

def skip (flags : Flags) (cs : List Char) : List Char :=
  if flags.extended then skipBlanks cs false else cs

end Flags

end RecordRules.Pattern
