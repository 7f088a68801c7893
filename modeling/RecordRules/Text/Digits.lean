/-!
Digits and the numbers they write.
-/

namespace RecordRules.Text

/-- The value of an ASCII digit or letter as a digit of the given base. -/
def digit? (base : Nat) (c : Char) : Option Nat :=
  let n := c.toNat
  let value :=
    if 48 ≤ n ∧ n ≤ 57 then n - 48
    else if 65 ≤ n ∧ n ≤ 90 then n - 55
    else if 97 ≤ n ∧ n ≤ 122 then n - 87
    else base
  if value < base then some value else none

/-- The number written by a list of digits, most significant first. -/
def ofDigits (base : Nat) (digits : List Nat) : Nat :=
  digits.foldl (fun n d => base * n + d) 0

/-- The number a non-empty text of digits writes in the given base. -/
def natOfChars? (base : Nat) (cs : List Char) : Option Nat :=
  if cs.isEmpty then none else (cs.mapM (digit? base)).map (ofDigits base)

/-- The value of a character that is known to be an ASCII digit. -/
def digitValue (c : Char) : Nat :=
  c.toNat - 48

def natOfDigits (cs : List Char) : Nat :=
  ofDigits 10 (cs.map digitValue)

def spanDigits (cs : List Char) : List Char × List Char :=
  (cs.takeWhile Char.isDigit, cs.dropWhile Char.isDigit)

def decimal (n : Nat) : String :=
  String.ofList (Nat.toDigits 10 n)

def decimalInt (i : Int) : String :=
  if i < 0 then "-" ++ decimal i.natAbs else decimal i.natAbs

/-- The number in lower-case hexadecimal digits, with zeros in front up to the given width. -/
def hex (width n : Nat) : String :=
  let digits := Nat.toDigits 16 n
  String.ofList (List.replicate (width - digits.length) '0' ++ digits)

end RecordRules.Text
