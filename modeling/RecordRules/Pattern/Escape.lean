import RecordRules.Pattern.Flags

/-!
Backslash sequences: escaped characters, code points in hexadecimal, class abbreviations, named
classes, and assertions.
-/

namespace RecordRules.Pattern

open Unicode (CharSet)

/-- What a single element of a pattern stands for. A byte escape is a code point in two
hexadecimal digits. -/
inductive Atom where
  | char (c : Char) (byteEscape : Bool)
  | set (s : CharSet)
  | look (l : Look)

def isMeta (c : Char) : Bool :=
  "\\.+*?()|[]\x7b\x7d^$#&-~".toList.contains c

/-- Whether a backslash before the character gives the character itself. -/
def isEscapable (c : Char) : Bool :=
  isMeta c || (c.toNat < 0x80 && !c.isAlphanum && c != '<' && c != '>')

def hexDigits? (cs : List Char) : Option Nat :=
  Text.natOfChars? 16 cs

/-- The character with a code point; there is none for a surrogate or beyond the last. -/
def charOfCode? (n : Nat) : Option Char :=
  if n < 0xD800 ∨ (0xDFFF < n ∧ n ≤ 0x10FFFF) then some (Char.ofNat n) else none

def takeHex (flags : Flags) : Nat → List Char → List Char → Option (List Char × List Char)
  | 0, taken, cs => some (taken.reverse, cs)
  | count + 1, taken, c :: cs =>
    if (Text.digit? 16 c).isNone then none
    else
      let rest := flags.skip cs
      if count ≠ 0 ∧ rest.isEmpty then none else takeHex flags count (c :: taken) rest
  | _ + 1, _, [] => none

def takeBraced (flags : Flags) : Nat → List Char → List Char → Option (List Char × List Char)
  | 0, _, _ => none
  | fuel + 1, taken, cs =>
    match flags.skip cs with
    | [] => none
    | c :: rest =>
      if c = '\x7d' then some (taken.reverse, rest) else takeBraced flags fuel (c :: taken) rest

/-- A code point in hexadecimal, after the letter that announces it: in braces, or in as many
digits as the letter says. -/
def hexEscape? (flags : Flags) (kind : Char) (cs : List Char) : Option (Atom × List Char) :=
  match flags.skip cs with
  | [] => none
  | '\x7b' :: rest => do
    let (digits, rest) ← takeBraced flags (rest.length + 1) [] rest
    let c ← charOfCode? (← hexDigits? digits)
    return (.char c false, flags.skip rest)
  | rest => do
    let width := if kind = 'x' then 2 else if kind = 'u' then 4 else 8
    let (digits, rest) ← takeHex flags width [] rest
    let c ← charOfCode? (← hexDigits? digits)
    return (.char c (kind == 'x'), rest)

def cutAt? (sep : List Char) : List Char → Option (List Char × List Char)
  | [] => none
  | c :: cs =>
    if sep.isPrefixOf (c :: cs) then some ([], (c :: cs).drop sep.length)
    else (cutAt? sep cs).map fun (before, after) => (c :: before, after)

/-- The set a property name in braces stands for: a name, or a name and a value. The sign between
them does not matter. -/
def namedSet? (name : List Char) : Option CharSet :=
  match (cutAt? ['!', '='] name).orElse fun _ =>
      (cutAt? [':'] name).orElse fun _ => cutAt? ['='] name with
  | some (property, value) => Unicode.byValue? property value
  | none => Unicode.byName? name

def namedClass? (flags : Flags) (negated : Bool) (cs : List Char) : Option (Atom × List Char) :=
  match flags.skip cs with
  | [] => none
  | '\x7b' :: rest => do
    let (name, rest) ← takeBraced flags (rest.length + 1) [] rest
    if !flags.unicode then none
    else return (.set (← flags.finishSet? negated (← namedSet? name)), rest)
  | c :: rest =>
    if c = '\\' || !flags.unicode then none
    else do return (.set (← flags.finishSet? negated (← Unicode.byName? [c])), flags.skip rest)

def asciiDigits : CharSet := ⟨[(48, 57)]⟩
def asciiSpace : CharSet := ⟨[(9, 13), (32, 32)]⟩
def asciiWord : CharSet := ⟨[(48, 57), (65, 90), (95, 95), (97, 122)]⟩

/-- The set of a class abbreviation: digits, space or word characters, or all others if the letter
is a capital. -/
def abbreviation? (flags : Flags) (letter : Char) : Option CharSet :=
  let set? := match letter.toLower with
    | 'd' => some (if flags.unicode then Unicode.digits else asciiDigits)
    | 's' => some (if flags.unicode then Unicode.space else asciiSpace)
    | 'w' => some (if flags.unicode then Unicode.wordChars else asciiWord)
    | _ => none
  set?.bind fun s =>
    if !letter.isUpper then some s
    else if flags.unicode then some s.complement
    else none

def isBoundaryNameChar (c : Char) : Bool :=
  c.isAlpha || c == '-'

def takeBoundaryName (flags : Flags) : Nat → List Char → List Char → List Char × List Char
  | fuel + 1, taken, c :: cs =>
    if isBoundaryNameChar c then takeBoundaryName flags fuel (c :: taken) (flags.skip cs)
    else (taken.reverse, c :: cs)
  | _, taken, cs => (taken.reverse, cs)

/-- A word boundary, after its letter: a plain one, or one with a name in braces. Braces that hold
no name are left for a repetition. -/
def boundary? (flags : Flags) (cs : List Char) : Option (Look × List Char) :=
  let ascii := !flags.unicode
  match cs with
  | '\x7b' :: rest =>
    match flags.skip rest with
    | [] => none
    | c :: more =>
      if !isBoundaryNameChar c then some (.wordBoundary ascii, cs)
      else
        let (name, after) := takeBoundaryName flags (c :: more).length [] (c :: more)
        match after with
        | '\x7d' :: after =>
          match String.ofList name with
          | "start" => some (.wordStart ascii, after)
          | "end" => some (.wordEnd ascii, after)
          | "start-half" => some (.wordStartHalf ascii, after)
          | "end-half" => some (.wordEndHalf ascii, after)
          | _ => none
        | _ => none
  | _ => some (.wordBoundary ascii, cs)

def controlChar? : Char → Option Char
  | 'a' => some '\x07'
  | 'f' => some '\x0C'
  | 't' => some '\t'
  | 'n' => some '\n'
  | 'r' => some '\r'
  | 'v' => some '\x0B'
  | _ => none

def escape? (flags : Flags) : List Char → Option (Atom × List Char)
  | [] => none
  | c :: cs =>
    if c = 'x' ∨ c = 'u' ∨ c = 'U' then hexEscape? flags c cs
    else if c = 'p' ∨ c = 'P' then namedClass? flags (c == 'P') cs
    else if isEscapable c then some (.char c false, cs)
    else if let some s := abbreviation? flags c then some (.set s, cs)
    else if let some control := controlChar? c then some (.char control false, cs)
    else match c with
      | 'A' => some (.look .textStart, cs)
      | 'z' => some (.look .textEnd, cs)
      | 'b' => (boundary? flags cs).map fun (l, rest) => (.look l, rest)
      | 'B' => some (.look (.notWordBoundary !flags.unicode), cs)
      | '<' => some (.look (.wordStart !flags.unicode), cs)
      | '>' => some (.look (.wordEnd !flags.unicode), cs)
      | _ => none

end RecordRules.Pattern
