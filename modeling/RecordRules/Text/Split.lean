/-!
Cutting a text at a separator character: at every occurrence, at the first, or at the last.
The pieces hold no separator, and joining them with it gives the text back.
-/

namespace RecordRules.Text

/-- The pieces between the separators; there is always one more piece than separators. -/
def splitAll (sep : Char) : List Char → List (List Char)
  | [] => [[]]
  | c :: cs =>
    if c = sep then [] :: splitAll sep cs
    else match splitAll sep cs with
      | [] => [[c]]
      | piece :: pieces => (c :: piece) :: pieces

def cutFirst? (sep : Char) : List Char → Option (List Char × List Char)
  | [] => none
  | c :: cs =>
    if c = sep then some ([], cs)
    else (cutFirst? sep cs).map fun (before, after) => (c :: before, after)

def cutLast? (sep : Char) : List Char → Option (List Char × List Char)
  | [] => none
  | c :: cs =>
    match cutLast? sep cs with
    | some (before, after) => some (c :: before, after)
    | none => if c = sep then some ([], cs) else none

def joinWith (sep : List Char) : List (List Char) → List Char
  | [] => []
  | [piece] => piece
  | piece :: pieces => piece ++ sep ++ joinWith sep pieces

theorem splitAll_ne_nil (sep : Char) (cs : List Char) : splitAll sep cs ≠ [] := by
  cases cs with
  | nil => simp [splitAll]
  | cons c cs =>
      simp only [splitAll]
      split
      · simp
      · split <;> simp

theorem notMem_of_mem_splitAll {sep : Char} {cs piece : List Char}
    (h : piece ∈ splitAll sep cs) : sep ∉ piece := by
  induction cs generalizing piece with
  | nil => simp_all [splitAll]
  | cons c cs ih =>
      simp only [splitAll] at h
      split at h
      next =>
        rcases List.mem_cons.1 h with rfl | h
        · simp
        · exact ih h
      next hc =>
        split at h
        next =>
          rw [List.mem_singleton.1 h, List.mem_singleton]
          exact Ne.symm hc
        next p ps hs =>
          rcases List.mem_cons.1 h with rfl | h
          · have hp := ih (hs ▸ List.mem_cons_self)
            simp [hp, Ne.symm hc]
          · exact ih (hs ▸ List.mem_cons_of_mem p h)

theorem splitAll_append_sep (sep : Char) (before after : List Char) :
    splitAll sep (before ++ sep :: after) = splitAll sep before ++ splitAll sep after := by
  induction before with
  | nil => simp [splitAll]
  | cons c cs ih =>
      simp only [List.cons_append, splitAll, ih]
      split
      · rfl
      · cases hs : splitAll sep cs with
        | nil => exact absurd hs (splitAll_ne_nil sep cs)
        | cons p ps => rfl

theorem joinWith_splitAll (sep : Char) (cs : List Char) :
    joinWith [sep] (splitAll sep cs) = cs := by
  induction cs with
  | nil => rfl
  | cons c cs ih =>
      simp only [splitAll]
      have hne := splitAll_ne_nil sep cs
      split
      next h =>
        cases hs : splitAll sep cs with
        | nil => exact absurd hs hne
        | cons p ps => rw [joinWith, ← hs, ih]; simp [h]; simp
      next h =>
        cases hs : splitAll sep cs with
        | nil => exact absurd hs hne
        | cons p ps =>
            rw [hs] at ih
            cases ps with
            | nil => simp_all [joinWith]
            | cons q qs => simp_all [joinWith]

end RecordRules.Text
