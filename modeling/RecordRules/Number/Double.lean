import RecordRules.Text.Digits

/-!
IEEE doubles without NaN, as a sign and a rank. The rank is the low 63 bits of the encoding; it
numbers the magnitudes 0, 2^-1074, … up to infinity in increasing order, so doubles compare as
their signed ranks do. `scaled` is the magnitude of a rank as a whole multiple of 2^-1074, and
`rankOfQuotient` is the rank nearest to a quotient of natural numbers, with ties to the even rank.
-/

namespace RecordRules

namespace Double

/-- How many magnitudes share one exponent. -/
def fractionCount : Nat := 1 <<< 52

def infinityRank : Nat := 2047 * fractionCount

end Double

/-- A double: a zero, a finite number or an infinity, with its sign. -/
structure Double where
  negative : Bool
  rank : Nat
  rank_le : rank ≤ Double.infinityRank
  deriving DecidableEq

namespace Double

instance : Inhabited Double := ⟨⟨false, 0, by decide⟩⟩

/-- The number one in units of 2^-1074. -/
def unit : Nat := 1 <<< 1074

/-- The magnitude of a rank in units of 2^-1074. Infinity counts as 2^1024. -/
def scaled (rank : Nat) : Nat :=
  if rank < fractionCount then rank
  else (fractionCount + rank % fractionCount) <<< (rank / fractionCount - 1)

/-- The greatest rank whose magnitude in units of 2^-1074 is at most `n`; infinity is no bound. -/
def floorRank (n : Nat) : Nat :=
  let shift := Nat.log2 n - 52
  n >>> shift + shift * fractionCount

/-- The rank nearest to `num / den`, ties to the even rank; nothing is above infinity. -/
def rankOfQuotient (num den : Nat) : Nat :=
  let n := num * unit
  let below := floorRank (n / den)
  let twice := 2 * n
  let middle := (scaled below + scaled (below + 1)) * den
  let nearest :=
    if twice < middle then below
    else if middle < twice then below + 1
    else below + below % 2
  min nearest infinityRank

def ofQuotient (negative : Bool) (num den : Nat) : Double :=
  ⟨negative, rankOfQuotient num den, Nat.min_le_right _ _⟩

def zero (negative : Bool) : Double :=
  ⟨negative, 0, Nat.zero_le _⟩

def infinity (negative : Bool) : Double :=
  ⟨negative, infinityRank, Nat.le_refl _⟩

def ofInt (i : Int) : Double :=
  ofQuotient (i < 0) i.natAbs 1

def isFinite (d : Double) : Bool :=
  d.rank < infinityRank

def isWhole (d : Double) : Bool :=
  d.isFinite && scaled d.rank % unit == 0

/-- Where the double stands in the order of all doubles; the two zeros stand together. -/
def place (d : Double) : Int :=
  if d.negative then -(d.rank : Int) else d.rank

def le (a b : Double) : Bool :=
  a.place ≤ b.place

def bits (d : Double) : Nat :=
  (if d.negative then 1 <<< 63 else 0) + d.rank

def hexBits (d : Double) : String :=
  Text.hex 16 d.bits

end Double

end RecordRules
