import RecordRules.Pattern.Delimited
import RecordRules.Proofs.Text.Cut
import Mathlib.Data.List.Induction

/-!
What patterns mean. A pattern is read in exactly one of five ways, told by its first character, by
the last closing delimiter behind it, and by the letters behind that. Of option letters only what
occurs matters, so they may come in any order and be repeated, and two of them change nothing.
-/

namespace RecordRules.Pattern

/-! ### Delimiters and letters

They are written out once more for the meaning of a pattern, which is not to depend on its reader. -/

def delimiterPairs : List (Char × Char) :=
  [('/', '/'), ('#', '#'), ('~', '~'), ('!', '!'), ('@', '@'), ('%', '%'), ('|', '|'), ('+', '+'),
    ('\x7b', '\x7d')]

def flagLetters : List Char := ['i', 'm', 's', 'x', 'U', 'u']

theorem delimiters_eq : delimiters = delimiterPairs := rfl

theorem optionLetters_eq : optionLetters = flagLetters := rfl

/-! ### Option letters -/

/-- The options whose letters occur. -/
def Flags.ofLetters (letters : List Char) : Flags where
  ignoreCase := letters.contains 'i'
  multiLine := letters.contains 'm'
  dotAll := letters.contains 's'
  extended := letters.contains 'x'

section Letters

variable {c : Char} {letters others : List Char}

theorem addLetter?_ofLetters (letters : List Char) (c : Char) :
    (Flags.ofLetters letters).addLetter? c =
      if c ∈ flagLetters then some (.ofLetters (letters ++ [c])) else none := by
  unfold Flags.addLetter?
  split <;> simp_all [Flags.ofLetters, flagLetters]

theorem flagsOfLetters?_concat (letters : List Char) (c : Char) :
    flagsOfLetters? (letters ++ [c]) = (flagsOfLetters? letters).bind fun flags =>
      flags.addLetter? c := by
  rw [flagsOfLetters?, flagsOfLetters?, List.foldlM_append]
  simp

theorem all_flagLetters_iff :
    letters.all flagLetters.contains = true ↔ ∀ c ∈ letters, c ∈ flagLetters := by
  simp only [List.all_eq_true, List.contains_iff_mem]

theorem not_all_flagLetters_iff :
    ¬ letters.all flagLetters.contains = true ↔ ∃ c ∈ letters, c ∉ flagLetters := by
  simp only [all_flagLetters_iff, not_forall, exists_prop]

/-- Letters turn on the options that occur among them, if they are option letters. -/
theorem flagsOfLetters?_eq (letters : List Char) :
    flagsOfLetters? letters =
      if letters.all flagLetters.contains then some (.ofLetters letters) else none := by
  induction letters using List.reverseRecOn with
  | nil => rfl
  | append_singleton letters c ih =>
      rw [flagsOfLetters?_concat, ih, List.all_append]
      by_cases hletters : letters.all flagLetters.contains = true
      · rw [if_pos hletters, Option.bind_some, addLetter?_ofLetters, hletters]
        simp
      · rw [if_neg hletters, if_neg (by simp [hletters]), Option.bind_none]

theorem Flags.ofLetters_congr (h : ∀ x ∈ ['i', 'm', 's', 'x'], x ∈ letters ↔ x ∈ others) :
    ofLetters letters = ofLetters others := by
  have hcontains {x : Char} (hx : x ∈ ['i', 'm', 's', 'x']) :
      letters.contains x = others.contains x := by
    rw [Bool.eq_iff_iff, List.contains_iff_mem, List.contains_iff_mem]
    exact h x hx
  rw [ofLetters, ofLetters, hcontains (x := 'i') (by decide), hcontains (x := 'm') (by decide),
    hcontains (x := 's') (by decide), hcontains (x := 'x') (by decide)]

end Letters

/-! ### The readings of a pattern -/

/-- What a pattern is read as: options and a body, or nothing because of a letter that is no option. -/
inductive Means : List Char → Option (Flags × List Char) → Prop
  | delimited {opening closing : Char} {body letters : List Char}
      (pair : (opening, closing) ∈ delimiterPairs) (options : ∀ x ∈ letters, x ∈ flagLetters) :
      Means (opening :: (body ++ closing :: letters)) (some (.ofLetters letters, body))
  /-- Behind a slash every letter has to be an option. -/
  | refused {body letters : List Char} (last : '/' ∉ letters)
      (other : ∃ x ∈ letters, x ∉ flagLetters) : Means ('/' :: (body ++ '/' :: letters)) none
  /-- Behind the other delimiters it has not; then the pattern is its own body. -/
  | unlettered {opening closing : Char} {body letters : List Char}
      (pair : (opening, closing) ∈ delimiterPairs) (notSlash : opening ≠ '/')
      (last : closing ∉ letters) (other : ∃ x ∈ letters, x ∉ flagLetters) :
      Means (opening :: (body ++ closing :: letters))
        (some ({}, opening :: (body ++ closing :: letters)))
  | unclosed {opening closing : Char} {rest : List Char}
      (pair : (opening, closing) ∈ delimiterPairs) (absent : closing ∉ rest) :
      Means (opening :: rest) (some ({}, opening :: rest))
  | undelimited {pattern : List Char}
      (bare : ∀ opening ∈ pattern.head?, ∀ closing, (opening, closing) ∉ delimiterPairs) :
      Means pattern (some ({}, pattern))

def reading? (pattern : List Char) : Option (Flags × List Char) :=
  let (body, letters) := (split? pattern).getD (pattern, [])
  (flagsOfLetters? letters).map fun flags => (flags, body)

/-- What an expression under some options gives on a subject, if it compiles. -/
def search? (subject : String) (reading : Flags × List Char) : Option Bool :=
  (read? reading.1 reading.2).map fun r => r.isMatch subject.toList

section Readings

variable {opening closing : Char} {body letters pattern : List Char}
variable {reading : Option (Flags × List Char)}

theorem matches?_eq (subject pattern : String) :
    matches? subject pattern = (reading? pattern.toList).bind (search? subject) := by
  rw [matches?, compile?, reading?]
  generalize (split? pattern.toList).getD (pattern.toList, []) = parts
  obtain ⟨body, letters⟩ := parts
  cases h : flagsOfLetters? letters <;> simp [h, search?]

theorem closing?_eq_some_iff :
    closing? opening = some closing ↔ (opening, closing) ∈ delimiterPairs := by
  constructor
  · intro h
    obtain ⟨d, hfind, rfl⟩ := Option.map_eq_some_iff.1 h
    have hopening := List.find?_some hfind
    rw [← eq_of_beq hopening]
    exact delimiters_eq ▸ List.mem_of_find?_eq_some hfind
  · intro h
    have hall : ∀ d ∈ delimiterPairs, closing? d.1 = some d.2 := by decide
    exact hall _ h

theorem closing_notMem_flagLetters (pair : (opening, closing) ∈ delimiterPairs) :
    closing ∉ flagLetters := by
  have hall : ∀ d ∈ delimiterPairs, d.2 ∉ flagLetters := by decide
  exact hall _ pair

/-- The last closing delimiter divides the body from the letters. -/
theorem split?_cons_append (pair : (opening, closing) ∈ delimiterPairs) (last : closing ∉ letters)
    (body : List Char) :
    split? (opening :: (body ++ closing :: letters)) =
      if opening ≠ '/' ∧ ¬ letters.all flagLetters.contains then none
      else some (body, letters) := by
  rw [split?, closing?_eq_some_iff.2 pair, optionLetters_eq]
  simp [Text.cutLast?_append_cons last]

theorem split?_eq_none_of_unclosed (pair : (opening, closing) ∈ delimiterPairs)
    (absent : closing ∉ pattern) : split? (opening :: pattern) = none := by
  rw [split?, closing?_eq_some_iff.2 pair]
  simp [Text.cutLast?_eq_none absent]

theorem split?_eq_none_of_undelimited
    (bare : ∀ opening ∈ pattern.head?, ∀ closing, (opening, closing) ∉ delimiterPairs) :
    split? pattern = none := by
  cases pattern with
  | nil => rfl
  | cons opening rest =>
      have hclosing : closing? opening = none := by
        rw [Option.eq_none_iff_forall_ne_some]
        exact fun closing h => bare opening rfl closing (closing?_eq_some_iff.1 h)
      rw [split?, hclosing]
      rfl

theorem reading?_of_split? (h : split? pattern = some (body, letters)) :
    reading? pattern = (flagsOfLetters? letters).map fun flags => (flags, body) := by
  rw [reading?, h]
  rfl

theorem reading?_of_split?_eq_none (h : split? pattern = none) :
    reading? pattern = some ({}, pattern) := by
  rw [reading?, h]
  rfl

theorem Means.reading?_eq (h : Means pattern reading) : reading? pattern = reading := by
  cases h with
  | @delimited _ _ body _ pair options =>
      -- no closing delimiter is an option letter, so the one before the letters is the last
      have last := mt (options _) (closing_notMem_flagLetters pair)
      have hsplit := split?_cons_append pair last body
      have hall := all_flagLetters_iff.2 options
      rw [if_neg (fun h => h.2 hall)] at hsplit
      rw [reading?_of_split? hsplit, flagsOfLetters?_eq, if_pos hall, Option.map_some]
  | @refused body _ last other =>
      have pair : ('/', '/') ∈ delimiterPairs := by decide
      have hsplit := split?_cons_append pair last body
      rw [if_neg (fun h => h.1 rfl)] at hsplit
      rw [reading?_of_split? hsplit, flagsOfLetters?_eq,
        if_neg (not_all_flagLetters_iff.2 other), Option.map_none]
  | unlettered pair notSlash last other =>
      refine reading?_of_split?_eq_none ?_
      rw [split?_cons_append pair last _, if_pos ⟨notSlash, not_all_flagLetters_iff.2 other⟩]
  | unclosed pair absent => exact reading?_of_split?_eq_none (split?_eq_none_of_unclosed pair absent)
  | undelimited bare => exact reading?_of_split?_eq_none (split?_eq_none_of_undelimited bare)

/-- Every pattern is read in one of the ways. -/
theorem exists_means (pattern : List Char) : ∃ reading, Means pattern reading := by
  cases pattern with
  | nil => exact ⟨_, .undelimited (by simp)⟩
  | cons opening rest =>
      by_cases hpair : ∃ closing, (opening, closing) ∈ delimiterPairs
      · obtain ⟨closing, pair⟩ := hpair
        by_cases hclosing : closing ∈ rest
        · obtain ⟨body, letters, rfl, last⟩ := Text.exists_eq_append_cons_of_mem hclosing
          by_cases options : ∀ x ∈ letters, x ∈ flagLetters
          · exact ⟨_, .delimited pair options⟩
          have other := not_all_flagLetters_iff.1 (mt all_flagLetters_iff.1 options)
          by_cases hslash : opening = '/'
          · have hsame : closing = '/' := by
              rw [hslash, ← closing?_eq_some_iff] at pair
              exact (Option.some.inj pair).symm
            subst hslash hsame
            exact ⟨_, .refused last other⟩
          · exact ⟨_, .unlettered pair hslash last other⟩
        · exact ⟨_, .unclosed pair hclosing⟩
      · refine ⟨_, .undelimited fun o ho closing pair => hpair ⟨closing, ?_⟩⟩
        rwa [Option.some.inj ho]

theorem means_iff : Means pattern reading ↔ reading = reading? pattern := by
  refine ⟨fun h => h.reading?_eq.symm, ?_⟩
  rintro rfl
  obtain ⟨other, h⟩ := exists_means pattern
  rwa [h.reading?_eq]

end Readings

/-- A pattern means one reading, and what it matches is what the body of the reading matches under
the options of the reading. Of the letters behind a closing delimiter it matters only which of the
four options occur. -/
theorem matches?_means (subject : String) :
    (∀ pattern : String, ∃ reading, (∀ other, Means pattern.toList other ↔ other = reading) ∧
      matches? subject pattern = reading.bind (search? subject)) ∧
    ∀ (opening closing : Char) (body letters others : List Char),
      (opening, closing) ∈ delimiterPairs → (∀ x ∈ letters ++ others, x ∈ flagLetters) →
      (∀ x ∈ ['i', 'm', 's', 'x'], x ∈ letters ↔ x ∈ others) →
      matches? subject (.ofList (opening :: (body ++ closing :: letters))) =
        matches? subject (.ofList (opening :: (body ++ closing :: others))) := by
  refine ⟨fun pattern => ⟨_, fun other => means_iff, matches?_eq subject pattern⟩, ?_⟩
  intro opening closing body letters others pair options hsame
  obtain ⟨hletters, hothers⟩ := List.forall_mem_append.1 options
  simp only [matches?_eq, String.toList_ofList]
  rw [(Means.delimited pair hletters).reading?_eq, (Means.delimited pair hothers).reading?_eq,
    Flags.ofLetters_congr hsame]

/-- The number sign in the body is part of it, and the letters behind it ask for the same options. -/
theorem matches?_means_of_number_signs :
    matches? "\na#b" "#^a#b#mu" = some true ∧ matches? "\na#b" "#^a#b#uUmm" = some true := by
  have hsame := (matches?_means "\na#b").2 '#' '#' ['^', 'a', '#', 'b'] ['m', 'u']
    ['u', 'U', 'm', 'm'] (by decide) (all_flagLetters_iff.1 (by decide)) (by simp)
  have hletters : String.ofList ['#', '^', 'a', '#', 'b', '#', 'm', 'u'] = "#^a#b#mu" := rfl
  have hothers : String.ofList ['#', '^', 'a', '#', 'b', '#', 'u', 'U', 'm', 'm'] = "#^a#b#uUmm" :=
    rfl
  have hread : matches? "\na#b" "#^a#b#mu" = some true := by decide +kernel
  simp only [List.cons_append, List.nil_append, hletters, hothers] at hsame
  exact ⟨hread, hsame ▸ hread⟩

end RecordRules.Pattern
