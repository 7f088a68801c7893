import RecordRules.Pattern.Escape

/-!
Bracketed classes: characters, ranges, named sets, nested classes, and the set operations between
them. The operations have equal rank, group to the left, and bind less tightly than juxtaposition.
-/

namespace RecordRules.Pattern

open Unicode (CharSet)

/-- A set under construction: the items read so far, how many they are, and how deep the deepest
of them is nested. -/
structure Union where
  set : CharSet := .empty
  count : Nat := 0
  depth : Nat := 0

namespace Union

def add (u : Union) (s : CharSet) (depth : Nat) : Union :=
  ⟨u.set.union s, u.count + 1, Nat.max u.depth depth⟩

/-- The nesting of the items taken together: two or more of them make a level of their own. -/
def level (u : Union) : Nat :=
  if 2 ≤ u.count then u.depth + 1 else u.depth

end Union

inductive SetOperator where
  | intersection
  | difference
  | symmetricDifference

def SetOperator.apply : SetOperator → CharSet → CharSet → CharSet
  | intersection, a, b => a.inter b
  | difference, a, b => a.diff b
  | symmetricDifference, a, b => a.symmDiff b

/-- What is open around the items being read: a bracket with the items before it, or an operator
with its finished left side. -/
inductive ClassFrame where
  | bracket (outer : Union) (negated : Bool)
  | operator (op : SetOperator) (left : CharSet) (level : Nat)

/-- Takes the operator on top of the stack, if there is one, with the items as its right side. -/
def closeOperator (flags : Flags) (right : CharSet) (level : Nat) :
    List ClassFrame → CharSet × Nat × List ClassFrame
  | .operator op left leftLevel :: rest =>
    (op.apply (flags.foldSet left) (flags.foldSet right), Nat.max leftLevel level + 1, rest)
  | stack => (right, level, stack)

def asciiSet? (name : List Char) : Option CharSet :=
  match String.ofList name with
  | "alnum" => some ⟨[(48, 57), (65, 90), (97, 122)]⟩
  | "alpha" => some ⟨[(65, 90), (97, 122)]⟩
  | "ascii" => some ⟨[(0, 127)]⟩
  | "blank" => some ⟨[(9, 9), (32, 32)]⟩
  | "cntrl" => some ⟨[(0, 31), (127, 127)]⟩
  | "digit" => some ⟨[(48, 57)]⟩
  | "graph" => some ⟨[(33, 126)]⟩
  | "lower" => some ⟨[(97, 122)]⟩
  | "print" => some ⟨[(32, 126)]⟩
  | "punct" => some ⟨[(33, 47), (58, 64), (91, 96), (123, 126)]⟩
  | "space" => some asciiSpace
  | "upper" => some ⟨[(65, 90)]⟩
  | "word" => some asciiWord
  | "xdigit" => some ⟨[(48, 57), (65, 70), (97, 102)]⟩
  | _ => none

/-- An ASCII set by its name, after the opening bracket. What does not have the form of one is no
fault: the bracket then opens a nested class. -/
def namedAscii? : List Char → Option (Bool × CharSet × List Char)
  | ':' :: cs =>
    let (negated, cs) := match cs with
      | '^' :: rest => (true, rest)
      | _ => (false, cs)
    match cutAt? [':'] cs with
    | some (name, ']' :: rest) => (asciiSet? name).map fun s => (negated, s, rest)
    | _ => none
  | _ => none

/-- Takes leading hyphens, which stand for themselves. -/
def takeHyphens (flags : Flags) : Nat → Union → List Char → Option (Union × List Char)
  | fuel + 1, u, '-' :: cs =>
    match flags.skip cs with
    | [] => none
    | rest => takeHyphens flags fuel (u.add (.singleton '-') 0) rest
  | _, u, cs => some (u, cs)

/-- What may stand first in a class, after its bracket: a caret that negates, then hyphens, or a
closing bracket that stands for itself. -/
def openClass? (flags : Flags) (cs : List Char) : Option (Bool × Union × List Char) := do
  let cs := flags.skip cs
  let (negated, cs) := match cs with
    | '^' :: rest => (true, flags.skip rest)
    | _ => (false, cs)
  let (u, cs) ← takeHyphens flags (cs.length + 1) {} cs
  match cs with
  | [] => none
  | ']' :: rest =>
    if u.count ≠ 0 then return (negated, u, cs)
    else
      match flags.skip rest with
      | [] => none
      | rest => return (negated, u.add (.singleton ']') 0, rest)
  | _ => return (negated, u, cs)

def classAtom? (flags : Flags) : List Char → Option (Atom × List Char)
  | [] => none
  | '\\' :: cs => escape? flags cs
  | c :: cs => some (.char c false, cs)

/-- The character of an element, if it is one that the options allow in a class. -/
def Atom.classChar? (flags : Flags) : Atom → Option Char
  | .char c _ => if flags.unicode || c.toNat < 0x80 then some c else none
  | _ => none

/-- An element, or a range from one character to another. A hyphen before a bracket or another
hyphen is none of a range. -/
def classItem? (flags : Flags) (cs : List Char) : Option (CharSet × List Char) := do
  let (first, cs) ← classAtom? flags cs
  let single : Option CharSet := match first with
    | .set s => some s
    | atom => (atom.classChar? flags).map CharSet.singleton
  match flags.skip cs with
  | [] => none
  | '-' :: after =>
    match flags.skip after with
    | [] => none
    | c :: more =>
      if c = ']' ∨ c = '-' then return (← single, '-' :: after)
      else
        let (last, rest) ← classAtom? flags (c :: more)
        let low ← first.classChar? flags
        let high ← last.classChar? flags
        if low.toNat ≤ high.toNat then return (⟨[(low.toNat, high.toNat)]⟩, rest) else none
  | rest => return (← single, rest)

/-- The rest of a class whose bracket is open: its set, its nesting, and what follows it. -/
def classRest? (flags : Flags) : Nat → List ClassFrame → Union → List Char →
    Option (CharSet × Nat × List Char)
  | 0, _, _, _ => none
  | fuel + 1, stack, u, cs =>
    let operator (op : SetOperator) (rest : List Char) :=
      let (left, level, stack) := closeOperator flags u.set u.level stack
      classRest? flags fuel (.operator op left level :: stack) {} rest
    match flags.skip cs with
    | [] => none
    | '[' :: rest =>
      match namedAscii? rest with
      | some (negated, s, rest) => do
        classRest? flags fuel stack (u.add (← flags.finishSet? negated s) 0) rest
      | none => do
        let (negated, inner, rest) ← openClass? flags rest
        classRest? flags fuel (.bracket u negated :: stack) inner rest
    | ']' :: rest => do
      let (s, level, stack) := closeOperator flags u.set u.level stack
      match stack with
      | .bracket outer negated :: stack =>
        let s ← flags.finishSet? negated s
        if stack.isEmpty then return (s, level + 1, rest)
        else classRest? flags fuel stack (outer.add s (level + 1)) rest
      | _ => none
    | '&' :: '&' :: rest => operator .intersection rest
    | '-' :: '-' :: rest => operator .difference rest
    | '~' :: '~' :: rest => operator .symmetricDifference rest
    | cs => do
      let (s, rest) ← classItem? flags cs
      classRest? flags fuel stack (u.add s 0) rest

def class? (flags : Flags) (cs : List Char) : Option (CharSet × Nat × List Char) := do
  let (negated, u, rest) ← openClass? flags cs
  classRest? flags (rest.length + 1) [.bracket {} negated] u rest

end RecordRules.Pattern
