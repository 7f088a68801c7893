import RecordRules.Text.Digits
import RecordRules.Text.Split
import RecordRules.Unicode.CaseFolding

/-!
Sets of characters as ascending lists of code point ranges that neither overlap nor touch.
`ofRanges` brings any ranges into this form; complement and union are computed on it, and the
other operations from these two.
-/

namespace RecordRules.Unicode

/-- A set of characters: ascending ranges with a gap between any two. -/
structure CharSet where
  ranges : List (Nat × Nat)
  deriving DecidableEq, Inhabited

def lastCode : Nat := 0x10FFFF

namespace CharSet

def empty : CharSet := ⟨[]⟩

def full : CharSet := ⟨[(0, lastCode)]⟩

/-- Merges ranges that overlap or touch, in a list sorted by their starts. -/
def coalesce (low high : Nat) : List (Nat × Nat) → List (Nat × Nat)
  | [] => [(low, high)]
  | (a, b) :: rest =>
    if a ≤ high + 1 then coalesce low (max high b) rest
    else (low, high) :: coalesce a b rest

def ofRanges (ranges : List (Nat × Nat)) : CharSet :=
  match ranges.mergeSort fun a b => a.1 ≤ b.1 with
  | [] => empty
  | (low, high) :: rest => ⟨coalesce low high rest⟩

def singleton (c : Char) : CharSet :=
  ⟨[(c.toNat, c.toNat)]⟩

def ofChars (cs : List Char) : CharSet :=
  ofRanges (cs.map fun c => (c.toNat, c.toNat))

def union (a b : CharSet) : CharSet :=
  if a.ranges.isEmpty then b
  else if b.ranges.isEmpty then a
  else ofRanges (a.ranges ++ b.ranges)

/-- The gaps between ranges, from a given code point on. -/
def gaps (start : Nat) : List (Nat × Nat) → List (Nat × Nat)
  | [] => if start ≤ lastCode then [(start, lastCode)] else []
  | (low, high) :: rest =>
    if start < low then (start, low - 1) :: gaps (high + 1) rest else gaps (high + 1) rest

def complement (s : CharSet) : CharSet :=
  ⟨gaps 0 s.ranges⟩

def inter (a b : CharSet) : CharSet :=
  (a.complement.union b.complement).complement

def diff (a b : CharSet) : CharSet :=
  a.inter b.complement

def symmDiff (a b : CharSet) : CharSet :=
  (a.union b).diff (a.inter b)

def containsCode (s : CharSet) (n : Nat) : Bool :=
  s.ranges.any fun (low, high) => low ≤ n && n ≤ high

def contains (s : CharSet) (c : Char) : Bool :=
  s.containsCode c.toNat

def isEmpty (s : CharSet) : Bool :=
  s.ranges.isEmpty

def isBelow (s : CharSet) (n : Nat) : Bool :=
  s.ranges.all fun (_, high) => high < n

def isAscii (s : CharSet) : Bool :=
  s.isBelow 0x80

/-- Reads ranges written as hexadecimal code points: `41-5A AA`. -/
def rangesOfChars : List Char → Option Nat → Nat → List (Nat × Nat)
  | [], low, value => [(low.getD value, value)]
  | c :: cs, low, value =>
    if c = ' ' then (low.getD value, value) :: rangesOfChars cs none 0
    else if c = '-' then rangesOfChars cs (some value) 0
    else rangesOfChars cs low (16 * value + (Text.digit? 16 c).getD 0)

def ofRow (row : List String) : CharSet :=
  ofRanges (row.flatMap fun line => rangesOfChars line.toList none 0)

end CharSet

def foldings : List (List Nat) :=
  foldingRows.flatMap fun line => (Text.splitAll ' ' line.toList).map fun group =>
    (Text.splitAll '+' group).map fun code => (Text.natOfChars? 16 code).getD 0

namespace CharSet

def foldCase (s : CharSet) : CharSet :=
  let alike := foldings.filter fun group => group.any s.containsCode
  s.union (ofRanges (alike.flatten.map fun n => (n, n)))

/-- Adds to a set the ASCII letters that differ from one of its own in case alone. -/
def foldAsciiCase (s : CharSet) : CharSet :=
  let shifted (low high : Nat) (shift : Nat → Nat) : List (Nat × Nat) :=
    (s.inter ⟨[(low, high)]⟩).ranges.map fun (a, b) => (shift a, shift b)
  s.union (ofRanges (shifted 65 90 (· + 32) ++ shifted 97 122 (· - 32)))

end CharSet

end RecordRules.Unicode
