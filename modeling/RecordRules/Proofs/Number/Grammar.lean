import RecordRules.Proofs.Number.Numeral
import RecordRules.Proofs.Text.Words

/-!
The pattern of numerals as a regular expression. Its words are exactly the written numerals, so
reading lets through what the pattern lets through, and what is read is the number rounded.
-/

namespace RecordRules

namespace Numeral.Grammar

open Words

/-! ### The pattern -/

def digit : RegularExpression Char :=
  oneOf ['0', '1', '2', '3', '4', '5', '6', '7', '8', '9']

def digits : RegularExpression Char :=
  digit * digit.star

def sign : RegularExpression Char :=
  maybe (oneOf ['+', '-'])

/-- Digits with an optional point among them, `[0-9]+(\.[0-9]*)?|\.[0-9]+`. -/
def mantissa : RegularExpression Char :=
  digits * maybe (.char '.' * digit.star) + .char '.' * digits

/-- An optional exponent, `([eE][+-]?[0-9]+)?`. -/
def exponent : RegularExpression Char :=
  maybe (oneOf ['e', 'E'] * (sign * digits))

def numeral : RegularExpression Char :=
  sign * (mantissa * exponent)

/-! ### Its words -/

section Words

variable {c : Char} {cs : List Char}

theorem isDigit_iff_mem :
    c.isDigit = true ↔ c ∈ ['0', '1', '2', '3', '4', '5', '6', '7', '8', '9'] := by
  constructor
  · intro h
    obtain ⟨hlower, hupper⟩ : 48 ≤ c.toNat ∧ c.toNat ≤ 57 := Char.isDigit_iff_toNat.1 h
    rw [← Char.ofNat_toNat c]
    interval_cases c.toNat <;> decide
  · have hdigits : Text.IsDigits ['0', '1', '2', '3', '4', '5', '6', '7', '8', '9'] := by decide
    exact hdigits c

theorem mem_digit : cs ∈ digit.matches' ↔ ∃ c : Char, c.isDigit = true ∧ cs = [c] := by
  simp only [digit, mem_oneOf, isDigit_iff_mem]

theorem mem_star_digit : cs ∈ digit.star.matches' ↔ Text.IsDigits cs :=
  mem_star_of_char fun _ => mem_digit

theorem mem_digits : cs ∈ digits.matches' ↔ Text.IsDigits cs ∧ cs ≠ [] :=
  (mem_mul_star_of_char fun _ => mem_digit).trans and_comm

theorem mem_sign : cs ∈ sign.matches' ↔ ∃ s : Sign, s.text = cs := by
  rw [sign, mem_maybe, mem_oneOf]
  constructor
  · rintro (rfl | ⟨c, hc, rfl⟩)
    · exact ⟨.absent, rfl⟩
    · rcases List.mem_pair.1 hc with rfl | rfl
      · exact ⟨.plus, rfl⟩
      · exact ⟨.minus, rfl⟩
  · rintro ⟨_ | _ | _, rfl⟩ <;> simp [Sign.text]

theorem mem_exponent :
    cs ∈ exponent.matches' ↔ ∃ x : Option Exponent, Writing.exponentText x = cs := by
  simp only [exponent, mem_maybe, mem_mul, mem_oneOf, mem_sign, mem_digits]
  constructor
  · rintro (rfl | ⟨_, ⟨c, hc, rfl⟩, _, ⟨_, ⟨s, rfl⟩, ds, ⟨hds, hne⟩, rfl⟩, rfl⟩)
    · exact ⟨none, rfl⟩
    · exact ⟨some ⟨c, s, ds, List.mem_pair.1 hc, hds, hne⟩, rfl⟩
  · rintro ⟨_ | x, rfl⟩
    · exact .inl rfl
    · exact .inr ⟨[x.letter], ⟨_, List.mem_pair.2 x.letter_eq, rfl⟩, _,
        ⟨_, ⟨x.sign, rfl⟩, x.digits, ⟨x.isDigits, x.digits_ne_nil⟩, rfl⟩, rfl⟩

theorem mem_mantissa : cs ∈ mantissa.matches' ↔ ∃ whole : List Char,
    ∃ fraction : Option (List Char), Text.IsDigits whole ∧ (∀ ds ∈ fraction, Text.IsDigits ds) ∧
      whole ++ fraction.getD [] ≠ [] ∧ whole ++ Writing.fractionText fraction = cs := by
  simp only [mantissa, mem_add, mem_mul, mem_maybe, mem_char, mem_digits, mem_star_digit]
  constructor
  · rintro (⟨whole, ⟨hwhole, hne⟩, _, rfl | ⟨_, rfl, ds, hds, rfl⟩, rfl⟩ |
      ⟨_, rfl, ds, ⟨hds, hne⟩, rfl⟩)
    · exact ⟨whole, none, hwhole, by simp, by simpa using hne, rfl⟩
    · exact ⟨whole, some ds, hwhole, by simpa using hds, by simp [hne], rfl⟩
    · exact ⟨[], some ds, by simp [Text.IsDigits], by simpa using hds, by simpa using hne, rfl⟩
  · rintro ⟨whole, fraction, hwhole, hfraction, hne, rfl⟩
    by_cases hempty : whole = []
    · subst hempty
      cases fraction with
      | none => exact absurd rfl hne
      | some ds => exact .inr ⟨_, rfl, ds, ⟨hfraction ds rfl, hne⟩, rfl⟩
    · refine .inl ⟨whole, ⟨hwhole, hempty⟩, _, ?_, rfl⟩
      cases fraction with
      | none => exact .inl rfl
      | some ds => exact .inr ⟨_, rfl, ds, hfraction ds rfl, rfl⟩

/-- The words of the pattern are the written numerals. -/
theorem mem_numeral : cs ∈ numeral.matches' ↔ ∃ w : Writing, w.text = cs := by
  simp only [numeral, mem_mul, mem_sign, mem_mantissa, mem_exponent]
  constructor
  · rintro ⟨_, ⟨s, rfl⟩, _,
      ⟨_, ⟨whole, fraction, hwhole, hfraction, hne, rfl⟩, _, ⟨x, rfl⟩, rfl⟩, rfl⟩
    refine ⟨⟨s, whole, fraction, x, hwhole, hfraction, hne⟩, ?_⟩
    rw [List.append_assoc, Writing.text]
  · rintro ⟨w, rfl⟩
    refine ⟨_, ⟨w.sign, rfl⟩, _, ⟨_, ⟨w.whole, w.fraction, w.whole_isDigits, w.fraction_isDigits,
      w.ne_nil, rfl⟩, _, ⟨w.exponent, rfl⟩, rfl⟩, ?_⟩
    rw [List.append_assoc, Writing.text]

end Words

end Numeral.Grammar

/-- A text is read exactly if without the blanks around it it is a word of the pattern, a written
numeral. What is read is then the double that the number written is rounded to, and it is made of
nothing but digits, signs, points and exponent letters. -/
theorem numberOfText?_reads_pattern (s : String) :
    ((numberOfText? s).isSome = true ↔
      Text.trim s.toList ∈ Numeral.Grammar.numeral.matches') ∧
    ((numberOfText? s).isSome = true ↔ ∃ w : Numeral.Writing, w.text = Text.trim s.toList) ∧
    (∀ w : Numeral.Writing, w.text = Text.trim s.toList → ∀ d : Double,
      numberOfText? s = some d ↔ Double.Rounds w.sign.isMinus w.value d) ∧
    ((numberOfText? s).isSome = true → ∀ c ∈ Text.trim s.toList,
      c.isDigit = true ∨ c ∈ ['+', '-', '.', 'e', 'E']) := by
  refine ⟨isSome_numberOfText?.trans Numeral.Grammar.mem_numeral.symm, isSome_numberOfText?,
    fun w hw d => ?_, fun h c hc => ?_⟩
  · rw [numberOfText?_of_text hw, Option.some.injEq]
    constructor
    · rintro rfl
      exact Double.rounds_ofRat w.fitsSign_value
    · exact fun h => (Double.eq_ofRat_of_rounds h w.fitsSign_value).symm
  · obtain ⟨w, hw⟩ := isSome_numberOfText?.1 h
    exact w.isDigit_or_mem_of_mem_text (hw ▸ hc)

/-- The text `-0.15e-2` with blanks around it is the number `-3 / 2000` rounded. -/
theorem numberOfText?_reads_pattern_fraction : ∃ d : Double,
    numberOfText? " -0.15e-2\n" = some d ∧ Double.Rounds true (-3 / 2000) d := by
  let w : Numeral.Writing :=
    { sign := .minus
      whole := ['0']
      fraction := some ['1', '5']
      exponent := some ⟨'e', .minus, ['2'], by decide, by decide, by decide⟩
      whole_isDigits := by decide
      fraction_isDigits := by simpa using (by decide : Text.IsDigits ['1', '5'])
      ne_nil := by decide }
  have hvalue : w.value = -3 / 2000 := by
    have hwhole : Text.natOfDigits ['0'] = 0 := rfl
    have hdecimals : Text.natOfDigits ['1', '5'] = 15 := rfl
    have hpower : w.power = -2 := rfl
    rw [Numeral.Writing.value, Numeral.Writing.decimals, hpower]
    norm_num [w, hwhole, hdecimals, Numeral.Sign.isMinus, Double.signOf]
  have hread := numberOfText?_reads_pattern " -0.15e-2\n"
  obtain ⟨d, hd⟩ := Option.isSome_iff_exists.1 (hread.2.1.2 ⟨w, by decide⟩)
  exact ⟨d, hd, hvalue ▸ (hread.2.2.1 w (by decide) d).1 hd⟩

end RecordRules
