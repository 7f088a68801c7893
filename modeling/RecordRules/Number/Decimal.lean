import RecordRules.Text.Blank
import RecordRules.Number.Double

/-!
Decimal numerals. A numeral is an optional sign, digits with an optional point (at least one digit
in all), and optionally `e` or `E` with an integer. `Numeral.ofChars?` reads exactly these texts,
and `Numeral.toDouble` is the double nearest to the number written.
-/

namespace RecordRules

/-- A decimal number as written: its digits, and the power of ten that scales them. -/
structure Numeral where
  negative : Bool
  digits : List Char
  scale : Int
  deriving DecidableEq, Inhabited

namespace Numeral

/-- Takes an optional sign; `true` is the minus sign. -/
def takeSign : List Char → Bool × List Char
  | '-' :: cs => (true, cs)
  | '+' :: cs => (false, cs)
  | cs => (false, cs)

def takeFraction : List Char → List Char × List Char
  | '.' :: cs => Text.spanDigits cs
  | cs => ([], cs)

/-- Reads a whole text as an exponent; the empty text is the exponent zero. -/
def exponent? : List Char → Option Int
  | [] => some 0
  | c :: cs =>
    if c = 'e' ∨ c = 'E' then
      let (negative, body) := takeSign cs
      let (digits, rest) := Text.spanDigits body
      if digits.isEmpty || !rest.isEmpty then none
      else
        let value : Int := Text.natOfDigits digits
        some (if negative then -value else value)
    else none

def ofChars? (cs : List Char) : Option Numeral :=
  let (negative, body) := takeSign cs
  let (whole, afterWhole) := Text.spanDigits body
  let (fraction, afterFraction) := takeFraction afterWhole
  if whole.isEmpty && fraction.isEmpty then none
  else (exponent? afterFraction).map fun exponent =>
    ⟨negative, whole ++ fraction, exponent - fraction.length⟩

def coefficient (n : Numeral) : Nat :=
  Text.natOfDigits n.digits

/-- A bound on the size of the number: unless zero it lies between the powers of ten with the
exponents `order - 1` and `order`. -/
def order (n : Numeral) : Int :=
  (n.digits.dropWhile (· == '0')).length + n.scale

/-- The double nearest to the number. Far outside the range of doubles the answer is known from
the order alone, so that no huge power of ten is computed. -/
def toDouble (n : Numeral) : Double :=
  if n.coefficient = 0 then .zero n.negative
  else if 400 < n.order then .infinity n.negative
  else if n.order < -400 then .zero n.negative
  else
    .ofQuotient n.negative (n.coefficient * Nat.pow 10 n.scale.toNat)
      (Nat.pow 10 (-n.scale).toNat)

end Numeral

/-- Reads a text as a number: a numeral, with blanks around it allowed. -/
def numberOfText? (s : String) : Option Double :=
  (Numeral.ofChars? (Text.trim s.toList)).map Numeral.toDouble

end RecordRules
