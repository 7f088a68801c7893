import RecordRules.Unicode.Lookup

/-!
Regular expressions over characters, and what they match. An expression takes a set of positions
of a subject, the bits of a natural number, to the set of the positions where a match begun at one
of them can end. It is searched for by starting at all positions at once.
-/

namespace RecordRules.Pattern

open Unicode (CharSet)

/-- What can be asked of a place between two characters. The word assertions are about Unicode
words or about ASCII words. -/
inductive Look where
  | textStart
  | textEnd
  | lineStart
  | lineEnd
  /-- Line starts and ends where carriage returns end lines too. -/
  | lineStartCRLF
  | lineEndCRLF
  | wordBoundary (ascii : Bool)
  | notWordBoundary (ascii : Bool)
  | wordStart (ascii : Bool)
  | wordEnd (ascii : Bool)
  | wordStartHalf (ascii : Bool)
  | wordEndHalf (ascii : Bool)
  deriving DecidableEq

inductive Regex where
  | empty
  | chars (set : CharSet)
  | look (assertion : Look)
  | seq (first second : Regex)
  | alt (first second : Regex)
  /-- At least `min` copies, and at most `max` if there is a bound. -/
  | rep (body : Regex) (min : Nat) (max : Option Nat)
  /-- A part whose match is remembered; it matches what its body does. -/
  | capture (body : Regex)
  deriving DecidableEq, Inhabited

def isWord (ascii : Bool) (c : Char) : Bool :=
  if ascii || c.toNat < 0x80 then c.isAlphanum || c == '_' else Unicode.wordChars.contains c

namespace Look

/-- Whether the assertion holds between two characters; there is none before the first and after
the last. -/
def holds (before after : Option Char) : Look → Bool
  | textStart => before.isNone
  | textEnd => after.isNone
  | lineStart => before.isNone || before == some '\n'
  | lineEnd => after.isNone || after == some '\n'
  | lineStartCRLF =>
    before.isNone || before == some '\n' || (before == some '\r' && after != some '\n')
  | lineEndCRLF =>
    after.isNone || after == some '\r' || (after == some '\n' && before != some '\r')
  | wordBoundary ascii => before.any (isWord ascii) != after.any (isWord ascii)
  | notWordBoundary ascii => before.any (isWord ascii) == after.any (isWord ascii)
  | wordStart ascii => !before.any (isWord ascii) && after.any (isWord ascii)
  | wordEnd ascii => before.any (isWord ascii) && !after.any (isWord ascii)
  | wordStartHalf ascii => !before.any (isWord ascii)
  | wordEndHalf ascii => !after.any (isWord ascii)

end Look

/-- A set of positions: position `i` belongs to it when bit `i` is set. -/
abbrev Positions := Nat

/-- An expression read against one subject: where a character may be passed, and where nothing is
passed but something holds. -/
inductive Motion where
  | advance (allowed : Positions)
  | stay (allowed : Positions)
  | seq (first second : Motion)
  | alt (first second : Motion)
  | rep (body : Motion) (min : Nat) (max : Option Nat)

def positionsOf (p : Char → Bool) : List Char → Positions
  | [] => 0
  | c :: cs => 2 * positionsOf p cs + (if p c then 1 else 0)

def placesOf (p : Option Char → Option Char → Bool) (before : Option Char) : List Char → Positions
  | [] => if p before none then 1 else 0
  | c :: cs => 2 * placesOf p (some c) cs + (if p before (some c) then 1 else 0)

/-- All positions of a subject, its end included. -/
def allPositions (subject : List Char) : Positions :=
  1 <<< (subject.length + 1) - 1

def Regex.locate (subject : List Char) : Regex → Motion
  | .empty => .stay (allPositions subject)
  | .chars set => .advance (positionsOf set.contains subject)
  | .look l => .stay (placesOf (fun before after => l.holds before after) none subject)
  | .seq a b => .seq (a.locate subject) (b.locate subject)
  | .alt a b => .alt (a.locate subject) (b.locate subject)
  | .rep a min max => .rep (a.locate subject) min max
  | .capture a => a.locate subject

/-- Applies a step a number of times, or fewer if it has come to rest. -/
def power (step : Positions → Positions) : Nat → Positions → Positions
  | 0, s => s
  | n + 1, s =>
    let next := step s
    if next = s then s else power step n next

/-- What is reached from `start` in up to so many steps, given what is reached already; it is not
carried further once nothing is added. -/
def reach (step : Positions → Positions) (start : Positions) : Nat → Positions → Positions
  | 0, s => s
  | n + 1, s =>
    let next := start ||| step s
    if next = s then s else reach step start n next

/-- The positions where a match begun at one of the given positions can end. The bound `size` is
the number of positions: so many steps reach everything that can be reached. -/
def Motion.ends (size : Nat) : Motion → Positions → Positions
  | .advance allowed, s => (s &&& allowed) * 2
  | .stay allowed, s => s &&& allowed
  | .seq a b, s => b.ends size (a.ends size s)
  | .alt a b, s => a.ends size s ||| b.ends size s
  | .rep a min max, s =>
    let start := power (a.ends size) min s
    let steps := match max with
      | some n => n - min
      | none => size
    reach (a.ends size) start steps start

/-- Whether the expression matches some stretch of the subject. -/
def Regex.isMatch (r : Regex) (subject : List Char) : Bool :=
  (r.locate subject).ends (subject.length + 1) (allPositions subject) != 0

end RecordRules.Pattern
