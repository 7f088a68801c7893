/-!
Letter case in names. Names are compared up to the case of the ASCII letters; every other
character, accented letters included, has to be the same.
-/

namespace RecordRules.Text

/-- The text with its ASCII capitals made small. -/
def lowerCase (s : String) : String :=
  String.ofList (s.toList.map Char.toLower)

/-- Equality up to the case of the ASCII letters. -/
def sameLetters (a b : String) : Bool :=
  lowerCase a == lowerCase b

@[simp] theorem toList_lowerCase (s : String) :
    (lowerCase s).toList = s.toList.map Char.toLower := by
  simp [lowerCase]

theorem sameLetters_iff {a b : String} : sameLetters a b = true ↔ lowerCase a = lowerCase b := by
  simp [sameLetters]

theorem sameLetters_refl (a : String) : sameLetters a a = true := by
  simp [sameLetters]

end RecordRules.Text
