import RecordRules.Pattern.Regex

/-!
The memory that the automaton of an expression takes. Automata are built over the bytes of UTF-8,
one that reads forwards and one that reads backwards; an expression is too large when either needs
more than ten mebibytes. A state takes thirty-two bytes, a transition on a range of bytes eight
more, and each way out of a branching state four more.
-/

namespace RecordRules.Pattern

open Unicode (CharSet)

abbrev ByteRange := Nat × Nat

def utf8Bytes (n : Nat) : List Nat :=
  if n < 0x80 then [n]
  else if n < 0x800 then [0xC0 + n / 0x40, 0x80 + n % 0x40]
  else if n < 0x10000 then [0xE0 + n / 0x1000, 0x80 + n / 0x40 % 0x40, 0x80 + n % 0x40]
  else [0xF0 + n / 0x40000, 0x80 + n / 0x1000 % 0x40, 0x80 + n / 0x40 % 0x40, 0x80 + n % 0x40]

/-- Splits a range of code points of one encoded length into pieces whose encodings are sequences
of byte ranges, each range independent of the others. `width` is the weight of the bytes that
have to agree already. -/
def splitAligned : List Nat → Nat → Nat → List (Nat × Nat)
  | [], low, high => [(low, high)]
  | width :: finer, low, high =>
    if low / width = high / width then splitAligned finer low high
    else
      let firstFull := (low + width - 1) / width * width
      let endFull := (high + 1) / width * width
      (if low < firstFull then splitAligned finer low (firstFull - 1) else []) ++
      (if firstFull < endFull then [(firstFull, endFull - 1)] else []) ++
      (if endFull ≤ high then splitAligned finer endFull high else [])

/-- The ranges of code points with encodings of one length; the surrogates have none. -/
def encodedLengths : List (Nat × Nat) :=
  [(0, 0x7F), (0x80, 0x7FF), (0x800, 0xD7FF), (0xE000, 0xFFFF), (0x10000, 0x10FFFF)]

def byteSequences (range : Nat × Nat) : List (List ByteRange) :=
  encodedLengths.flatMap fun (first, last) =>
    let low := max range.1 first
    let high := min range.2 last
    if low ≤ high then
      let pieces :=
        if last < 0x80 then [(low, high)] else splitAligned [0x40000, 0x1000, 0x40] low high
      pieces.map fun (a, b) => (utf8Bytes a).zip (utf8Bytes b)
    else []

/-- A state of the forward automaton of a set: byte ranges with the numbers of the states they
lead to. State zero is the end. -/
abbrev ByteState := List (ByteRange × Nat)

/-- Groups sequences by their first byte range; sequences that share it are neighbours. -/
def groupByHead : List (List ByteRange) → List (ByteRange × List (List ByteRange))
  | [] => []
  | [] :: rest => groupByHead rest
  | (head :: tail) :: rest =>
    match groupByHead rest with
    | (other, tails) :: groups =>
      if head = other then (head, tail :: tails) :: groups
      else (head, [tail]) :: (other, tails) :: groups
    | [] => [(head, [tail])]

/-- The number of a state, which is added to the known states if it is new. -/
def stateNumber (state : ByteState) (known : List ByteState) : Nat × List ByteState :=
  match known.findIdx? (· == state) with
  | some i => (known.length - i, known)
  | none => (known.length + 1, state :: known)

/-- The number of the state from which the given sequences lead to the end. Equal states are
shared. -/
def shareStates : Nat → List (List ByteRange) → List ByteState → Nat × List ByteState
  | 0, _, known => (0, known)
  | depth + 1, sequences, known =>
    let groups := groupByHead sequences
    if groups.isEmpty then (0, known)
    else
      let (state, known) := groups.foldl (fun (state, known) (head, tails) =>
        let (target, known) := shareStates depth tails known
        (state ++ [(head, target)], known)) (([] : ByteState), known)
      stateNumber state known

def countBeginnings : Nat → List (List ByteRange) → Nat
  | 0, _ => 0
  | depth + 1, sequences =>
    (groupByHead sequences).foldl (fun n (_, tails) => n + 1 + countBeginnings depth tails) 0

def setMemory (backward : Bool) (set : CharSet) : Nat :=
  match set.ranges with
  | [] => 32
  | [(low, high)] =>
    if low = high then 32 * (utf8Bytes low).length
    else general
  | _ => general
where
  general : Nat :=
    if set.isAscii then 64 + 8 * set.ranges.length
    else
      let sequences := set.ranges.flatMap byteSequences
      if backward then 64 + 4 * sequences.length + 32 * countBeginnings 4 sequences
      else
        let (_, states) := shareStates 5 sequences []
        32 + states.foldl (fun n state => n + 32 + 8 * state.length) 0

namespace Regex

def minLength : Regex → Nat
  | empty | look _ => 0
  | chars _ => 1
  | seq a b => a.minLength + b.minLength
  | alt a b => Nat.min a.minLength b.minLength
  | rep a min _ => min * a.minLength
  | capture a => a.minLength

def matchesNothing : Regex → Bool
  | empty | look _ => true
  | chars _ => false
  | seq a b | alt a b => a.matchesNothing && b.matchesNothing
  | rep a _ max => a.matchesNothing || max == some 0
  | capture a => a.matchesNothing

/-- The memory of copies of a part that takes `body` bytes. -/
def copiesMemory (body : Nat) (canBeEmpty : Bool) (min : Nat) (max : Option Nat) : Nat :=
  match min, max with
  | _, some 0 => 32
  | 1, some 1 => body
  | 0, some 1 => body + 72
  | 0, none => if canBeEmpty then body + 112 else body + 40
  | n, none => n * body + 40
  | n, some m =>
    if n = m then n * body else Nat.max 32 (n * body) + 32 + (m - n) * (body + 40)

/-- The memory of an expression, by itself and as a part of a larger one. In a sequence empty
parts take none, and among alternatives the ways out are counted once for all of them. -/
structure Memory where
  whole : Nat
  asPart : Nat
  asBranch : Nat
  branches : Nat

namespace Memory

def plain (n : Nat) : Memory :=
  ⟨n, n, n, 1⟩

def seq (a b : Memory) : Memory :=
  let parts := a.asPart + b.asPart
  let whole := Nat.max 32 parts
  ⟨whole, parts, whole, 1⟩

def alt (a b : Memory) : Memory :=
  let branches := a.branches + b.branches
  let inner := a.asBranch + b.asBranch
  let whole := 64 + 4 * branches + inner
  ⟨whole, whole, inner, branches⟩

end Memory

def memory (backward : Bool) : Regex → Memory
  | empty => ⟨32, 0, 32, 1⟩
  | chars set => .plain (setMemory backward set)
  | look _ => .plain 32
  | seq a b => .seq (a.memory backward) (b.memory backward)
  | alt a b => .alt (a.memory backward) (b.memory backward)
  | rep a min max =>
    let body := (a.memory backward).whole
    if a.matchesNothing then
      .plain (copiesMemory body true (Nat.min min 1) (some (Nat.min (max.getD 1) 1)))
    else .plain (copiesMemory body (a.minLength == 0) min max)
  | capture a =>
    let body := (a.memory backward).whole
    .plain (if backward then body else body + 64)

def automatonMemory (backward : Bool) (r : Regex) : Nat :=
  (r.memory backward).whole + if backward then 144 else 208

def memoryLimit : Nat := 10 * 1024 * 1024

def fits (r : Regex) : Bool :=
  r.automatonMemory false ≤ memoryLimit && r.automatonMemory true ≤ memoryLimit

end Regex

end RecordRules.Pattern
