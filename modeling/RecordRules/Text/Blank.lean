/-!
White space and trimming. A character is blank when it has the Unicode property White_Space;
`trim` removes the blanks at both ends of a text and nothing else.
-/

namespace RecordRules.Text

/-- The characters with the Unicode property White_Space. -/
def isBlank (c : Char) : Bool :=
  let n := c.toNat
  (0x09 ≤ n && n ≤ 0x0D) || n == 0x20 || n == 0x85 || n == 0xA0 || n == 0x1680 ||
    (0x2000 ≤ n && n ≤ 0x200A) || n == 0x2028 || n == 0x2029 || n == 0x202F ||
    n == 0x205F || n == 0x3000

def trimRight (cs : List Char) : List Char :=
  (cs.reverse.dropWhile isBlank).reverse

def trim (cs : List Char) : List Char :=
  trimRight (cs.dropWhile isBlank)

/-- Whether nothing but blanks occurs, the empty text included. -/
def allBlank (cs : List Char) : Bool :=
  cs.all isBlank

end RecordRules.Text
