import RecordRules.Number.Double

/-!
The shortest decimal text of a finite double. Of all decimals that read back as the double, the
ones with the fewest digits are taken, and of those the nearest; `shortest?` tries one digit, two
digits, and so on, each time the two neighbours of the value on that decimal grid.
-/

namespace RecordRules.Double

structure Decimal where
  coefficient : Nat
  exponent : Int
  deriving DecidableEq, Inhabited

namespace Decimal

def quotient (d : Decimal) : Nat × Nat :=
  (d.coefficient * Nat.pow 10 d.exponent.toNat, Nat.pow 10 (-d.exponent).toNat)

def stripZeros (d : Decimal) : Nat → Decimal
  | 0 => d
  | fuel + 1 =>
    if d.coefficient ≠ 0 ∧ d.coefficient % 10 = 0 then
      stripZeros ⟨d.coefficient / 10, d.exponent + 1⟩ fuel
    else d

end Decimal

/-- Whether a decimal is nearest to the magnitude of this rank. -/
def readsBack (rank : Nat) (d : Decimal) : Bool :=
  rankOfQuotient d.quotient.1 d.quotient.2 == rank

/-- The exponent of the first decimal digit of a positive magnitude. -/
def leadingExponent (rank : Nat) : Int :=
  ((Nat.toDigits 10 (scaled rank * Nat.pow 10 340 / unit)).length : Int) - 341

/-- How far a decimal is from the magnitude of a rank, as a quotient with a fixed denominator for
each exponent. -/
def distance (rank : Nat) (d : Decimal) : Nat :=
  let (num, den) := d.quotient
  let value := scaled rank * den
  let decimal := num * unit
  (value - decimal) + (decimal - value)

/-- The better of the two neighbours of a magnitude among the decimals of `count` digits, if one
of them reads back. -/
def withDigits? (rank count : Nat) : Option Decimal :=
  let exponent := leadingExponent rank - (count - 1 : Nat)
  let below := scaled rank * Nat.pow 10 (-exponent).toNat / (unit * Nat.pow 10 exponent.toNat)
  let low : Decimal := ⟨below, exponent⟩
  let high : Decimal := ⟨below + 1, exponent⟩
  match readsBack rank low, readsBack rank high with
  | true, true =>
    let toLow := distance rank low
    let toHigh := distance rank high
    if toLow < toHigh || (toLow == toHigh && below % 2 == 0) then some low else some high
  | true, false => some low
  | false, true => some high
  | false, false => none

/-- The shortest decimal of a positive finite magnitude; seventeen digits always suffice. -/
def shortest (rank : Nat) : Decimal :=
  match (List.range 17).findSome? fun k => withDigits? rank (k + 1) with
  | some d => d.stripZeros 17
  | none => ⟨0, 0⟩

/-- Where positional notation ends: a number is written positionally when its point stands after
at most `before` digits and before at most `zeros` leading zeros. -/
structure Layout where
  before : Nat
  zeros : Nat

/-- A number is written out up to sixteen digits before the point and five zeros after it. -/
def plain : Layout := ⟨16, 5⟩

/-- Digits with a point among them, or scientific notation, as the layout says. There is always
a point or an exponent. -/
def Decimal.text (layout : Layout) (d : Decimal) : String :=
  let digits := Nat.toDigits 10 d.coefficient
  let point : Int := digits.length + d.exponent
  if 0 ≤ d.exponent ∧ point ≤ layout.before then
    String.ofList (digits ++ List.replicate d.exponent.toNat '0' ++ ['.', '0'])
  else if 0 < point ∧ point ≤ layout.before then
    String.ofList (digits.take point.toNat ++ '.' :: digits.drop point.toNat)
  else if -(layout.zeros : Int) < point ∧ point ≤ 0 then
    String.ofList ('0' :: '.' :: List.replicate (-point).toNat '0' ++ digits)
  else
    let mantissa := match digits with
      | [c] => [c]
      | c :: rest => c :: '.' :: rest
      | [] => []
    String.ofList mantissa ++ "e" ++ Text.decimalInt (point - 1)

def text (d : Double) : String :=
  let magnitude :=
    if d.rank = 0 then "0.0"
    else if d.isFinite then (shortest d.rank).text plain
    else "inf"
  if d.negative then "-" ++ magnitude else magnitude

end RecordRules.Double
