import RecordRules.Pattern.Bracket
import RecordRules.Pattern.Footprint

/-!
Reading a pattern. One pass over its text keeps the groups that are open on a stack; the options
that are on belong to the innermost group and end with it. A pattern is refused where it is
malformed, nested too deep, or too large.
-/

namespace RecordRules.Pattern

/-- A part of a pattern: its expression, how deep it is nested, and whether it can be repeated. -/
structure Piece where
  regex : Regex
  depth : Nat := 0
  repeatable : Bool := true

def sequence : List Regex → Regex
  | [] => .empty
  | [r] => r
  | r :: rs => .seq r (sequence rs)

/-- The expression of alternatives; alternatives that are single characters make one set. -/
def alternatives (rs : List Regex) : Regex :=
  let set? := rs.mapM fun
    | .chars s => some s
    | _ => none
  match set? with
  | some sets => .chars (Unicode.CharSet.ofRanges (sets.flatMap (·.ranges)))
  | none => nest rs
where
  nest : List Regex → Regex
    | [] => .empty
    | [r] => r
    | r :: rs => .alt r (nest rs)

/-- Puts parts together; two or more of them make a level of nesting. -/
def combine (join : List Regex → Regex) (pieces : List Piece) : Piece :=
  match pieces with
  | [piece] => piece
  | _ =>
    let depth := pieces.foldl (fun d piece => Nat.max d piece.depth) 0
    ⟨join (pieces.map (·.regex)), if pieces.isEmpty then 0 else depth + 1, true⟩

/-- What has been read of a group, last first: finished alternatives and the parts of the one
being read. -/
structure Group where
  alternatives : List Piece := []
  parts : List Piece := []
  flags : Flags

namespace Group

def push (g : Group) (piece : Piece) : Group :=
  { g with parts := piece :: g.parts }

def nextAlternative (g : Group) : Group :=
  { g with alternatives := combine sequence g.parts.reverse :: g.alternatives, parts := [] }

def finish (g : Group) : Piece :=
  combine Pattern.alternatives g.nextAlternative.alternatives.reverse

def repeatLast? (g : Group) (min : Nat) (max : Option Nat) : Option Group :=
  match g.parts with
  | piece :: parts =>
    if !piece.repeatable then none
    else
      let regex := if min = 1 ∧ max = some 1 then piece.regex else .rep piece.regex min max
      some { g with parts := ⟨regex, piece.depth + 1, true⟩ :: parts }
  | [] => none

end Group

/-- The letters of a list of options, up to the character that ends it. A letter may occur once,
and a minus sign once and not last. -/
def flagLetters? : List Char → List (Option Flag) → Option (List (Option Flag) × Char × List Char)
  | [], _ => none
  | c :: cs, items =>
    if c = ':' ∨ c = ')' then
      if items.head? = some none then none else some (items.reverse, c, cs)
    else do
      let item ← if c = '-' then some none else (Flag.ofChar? c).map some
      if items.contains item then none else flagLetters? cs (item :: items)

/-- The options after a list of letters: those behind the minus sign are turned off. -/
def applyFlags (flags : Flags) (items : List (Option Flag)) : Flags :=
  (items.foldl (fun (flags, on) item =>
    match item with
    | none => (flags, false)
    | some flag => (flags.set flag on, on)) (flags, true)).1

def isNameStart (c : Char) : Bool :=
  c == '_' || ((Unicode.row? Unicode.propertyRows [] "alphabetic").getD .empty).contains c

def isNameChar (c : Char) : Bool :=
  isNameStart c || c == '.' || c == '[' || c == ']' ||
    ["Nd", "Nl", "No"].any fun part => (Unicode.categoryByShortName part).contains c

def groupName? (cs : List Char) : Option (List Char × List Char) := do
  let (name, rest) ← Text.cutFirst? '>' cs
  match name with
  | [] => none
  | c :: more => if isNameStart c && more.all isNameChar then some (name, rest) else none

/-- What an opening parenthesis begins: a group, with the options inside it and a name if it has
one, or a change of options for the rest of the group around it. -/
inductive Opening where
  | group (flags : Flags) (captures : Bool) (name : Option (List Char))
  | options (flags : Flags)

/-- Reads what follows an opening parenthesis. Conditions on the text around a match are not
supported. -/
def opening? (flags : Flags) (cs : List Char) : Option (Opening × List Char) :=
  match flags.skip cs with
  | '?' :: '=' :: _ | '?' :: '!' :: _ | '?' :: '<' :: '=' :: _ | '?' :: '<' :: '!' :: _ => none
  | '?' :: 'P' :: '<' :: rest | '?' :: '<' :: rest =>
    (groupName? rest).map fun (name, rest) => (.group flags true (some name), rest)
  | '?' :: rest =>
    match flagLetters? rest [] with
    | some (items, ':', rest) => some (.group (applyFlags flags items) false none, rest)
    | some (items, _, rest) =>
      if items.isEmpty then none else some (.options (applyFlags flags items), rest)
    | none => none
  | rest => some (.group flags true none, rest)

def takeDecimal (flags : Flags) (cs : List Char) : Option Nat × List Char :=
  let cs := cs.dropWhile Text.isBlank
  let (digits, rest) := digitsOf (cs.length + 1) [] cs
  (if digits.isEmpty then none else some (Text.natOfDigits digits), rest.dropWhile Text.isBlank)
where
  digitsOf : Nat → List Char → List Char → List Char × List Char
    | fuel + 1, taken, c :: cs =>
      if c.isDigit then digitsOf fuel (c :: taken) (flags.skip cs) else (taken.reverse, c :: cs)
    | _, taken, cs => (taken.reverse, cs)

def countLimit : Nat := 0xffffffff

def counts? (flags : Flags) (cs : List Char) : Option (Nat × Option Nat × List Char) := do
  let cs := flags.skip cs
  if cs.isEmpty then none else pure ()
  let (min?, rest) := takeDecimal flags cs
  let min ← min?
  if countLimit < min then none else pure ()
  match flags.skip rest with
  | '\x7d' :: rest => return (min, some min, rest)
  | ',' :: rest =>
    match flags.skip rest with
    | '\x7d' :: rest => return (min, none, rest)
    | rest =>
      let (max?, rest) := takeDecimal flags rest
      let max ← max?
      match flags.skip rest with
      | '\x7d' :: rest =>
        if max ≤ countLimit ∧ min ≤ max then return (min, some max, rest) else none
      | _ => none
  | _ => none

/-- Drops the question mark that makes a repetition prefer fewer copies. -/
def skipLazy : List Char → List Char
  | '?' :: cs => cs
  | cs => cs

def Atom.regex? (flags : Flags) : Atom → Option Regex
  | .char c byteEscape =>
    if byteEscape && !flags.unicode && 0x80 ≤ c.toNat then none else some (flags.literal c)
  | .set s => some (.chars s)
  | .look l => some (.look l)

/-- What is open while a pattern is read: the groups around the innermost one, with whether that
one captures, and the names given so far. -/
structure Open where
  current : Group
  outer : List (Group × Bool) := []
  names : List (List Char) := []

def readRest? : Nat → Open → List Char → Option Piece
  | 0, _, _ => none
  | fuel + 1, o, cs =>
    let flags := o.current.flags
    let onto (piece : Piece) (rest : List Char) :=
      readRest? fuel { o with current := o.current.push piece } rest
    let repeated (min : Nat) (max : Option Nat) (rest : List Char) := do
      readRest? fuel { o with current := ← o.current.repeatLast? min max } rest
    match flags.skip cs with
    | [] => if o.outer.isEmpty then some o.current.finish else none
    | '(' :: rest => do
      match ← opening? flags rest with
      | (.options flags, rest) =>
        let current := o.current.push ⟨.empty, 0, false⟩
        readRest? fuel { o with current := { current with flags := flags } } rest
      | (.group flags captures name, rest) =>
        let names := match name with
          | some name => name :: o.names
          | none => o.names
        if name.any o.names.contains then none
        else readRest? fuel ⟨{ flags := flags }, (o.current, captures) :: o.outer, names⟩ rest
    | ')' :: rest =>
      match o.outer with
      | (group, captures) :: outer =>
        let inner := o.current.finish
        let regex := if captures then .capture inner.regex else inner.regex
        readRest? fuel ⟨group.push ⟨regex, inner.depth + 1, true⟩, outer, o.names⟩ rest
      | [] => none
    | '|' :: rest => readRest? fuel { o with current := o.current.nextAlternative } rest
    | '[' :: rest => do
      let (s, depth, rest) ← class? flags rest
      onto ⟨.chars s, depth, true⟩ rest
    | '?' :: rest => repeated 0 (some 1) (skipLazy rest)
    | '*' :: rest => repeated 0 none (skipLazy rest)
    | '+' :: rest => repeated 1 none (skipLazy rest)
    | '\x7b' :: rest => do
      let (min, max, rest) ← counts? flags rest
      repeated min max (skipLazy (flags.skip rest))
    | '\\' :: rest => do
      let (atom, rest) ← escape? flags rest
      onto ⟨← atom.regex? flags, 0, true⟩ rest
    | '.' :: rest => do onto ⟨← flags.dot?, 0, true⟩ rest
    | '^' :: rest => onto ⟨.look flags.lineStart, 0, true⟩ rest
    | '$' :: rest => onto ⟨.look flags.lineEnd, 0, true⟩ rest
    | c :: rest => onto ⟨flags.literal c, 0, true⟩ rest

def depthLimit : Nat := 250

def read? (flags : Flags) (pattern : List Char) : Option Regex := do
  let piece ← readRest? (pattern.length + 1) { current := { flags := flags } } pattern
  if piece.depth ≤ depthLimit && piece.regex.fits then some piece.regex else none

end RecordRules.Pattern
