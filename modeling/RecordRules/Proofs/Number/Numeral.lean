import RecordRules.Number.Decimal
import RecordRules.Proofs.Number.Nearest
import RecordRules.Proofs.Text.Digits
import RecordRules.Proofs.Text.Trimmed
import Mathlib.Algebra.Order.Field.Power

/-!
The grammar of numerals. A numeral is an optional sign, digits with an optional point among them,
and an optional exponent; reading accepts exactly the texts that are written so.
-/

namespace RecordRules

namespace Numeral

/-! ### The grammar -/

inductive Sign where
  | absent
  | plus
  | minus

namespace Sign

def text : Sign → List Char
  | absent => []
  | plus => ['+']
  | minus => ['-']

def isMinus : Sign → Bool
  | minus => true
  | _ => false

end Sign

structure Exponent where
  letter : Char
  sign : Sign
  digits : List Char
  letter_eq : letter = 'e' ∨ letter = 'E'
  isDigits : Text.IsDigits digits
  digits_ne_nil : digits ≠ []

namespace Exponent

def text (x : Exponent) : List Char :=
  x.letter :: (x.sign.text ++ x.digits)

def value (x : Exponent) : Int :=
  if x.sign.isMinus then -(Text.natOfDigits x.digits : Int) else Text.natOfDigits x.digits

end Exponent

/-- A numeral as written: the digits before the point, the point with the digits behind it, and the
exponent. Before or behind the point there is a digit. -/
structure Writing where
  sign : Sign
  whole : List Char
  fraction : Option (List Char)
  exponent : Option Exponent
  whole_isDigits : Text.IsDigits whole
  fraction_isDigits : ∀ ds ∈ fraction, Text.IsDigits ds
  ne_nil : whole ++ fraction.getD [] ≠ []

namespace Writing

def fractionText : Option (List Char) → List Char
  | some ds => '.' :: ds
  | none => []

def exponentText : Option Exponent → List Char
  | some x => x.text
  | none => []

def text (w : Writing) : List Char :=
  w.sign.text ++ (w.whole ++ (fractionText w.fraction ++ exponentText w.exponent))

def decimals (w : Writing) : List Char :=
  w.fraction.getD []

def power (w : Writing) : Int :=
  (w.exponent.map Exponent.value).getD 0

/-- The number that is written, exactly. -/
def value (w : Writing) : ℚ :=
  Double.signOf w.sign.isMinus *
    (Text.natOfDigits w.whole + Text.natOfDigits w.decimals / 10 ^ w.decimals.length) *
    10 ^ w.power

def numeral (w : Writing) : Numeral :=
  ⟨w.sign.isMinus, w.whole ++ w.decimals, w.power - w.decimals.length⟩

end Writing

/-! ### Reading -/

section Reading

variable {cs ds rest : List Char}

theorem takeSign_append (sign : Sign) (hminus : rest.head? ≠ some '-')
    (hplus : rest.head? ≠ some '+') : takeSign (sign.text ++ rest) = (sign.isMinus, rest) := by
  cases sign with
  | plus | minus => rfl
  | absent =>
      rw [Sign.text, List.nil_append]
      cases rest with
      | nil => rfl
      | cons c rest =>
          unfold takeSign
          split
          next h => cases h; exact absurd rfl hminus
          next h => cases h; exact absurd rfl hplus
          next => rfl

theorem exists_takeSign (cs : List Char) : ∃ sign : Sign, sign.isMinus = (takeSign cs).1 ∧
    sign.text ++ (takeSign cs).2 = cs := by
  unfold takeSign
  split
  next => exact ⟨.minus, rfl, rfl⟩
  next => exact ⟨.plus, rfl, rfl⟩
  next => exact ⟨.absent, rfl, rfl⟩

theorem exponent?_text (x : Exponent) : exponent? x.text = some x.value := by
  have hhead (c : Char) (hc : c.isDigit = false) : x.digits.head? ≠ some c := by
    rw [← List.append_nil x.digits]
    exact Text.head?_ne_of_isDigits x.isDigits x.digits_ne_nil hc
  have hspan : Text.spanDigits x.digits = (x.digits, []) := by
    have hend : ∀ c ∈ ([] : List Char).head?, c.isDigit = false := by simp
    simpa using Text.spanDigits_append x.isDigits hend
  rw [Exponent.text, exponent?, if_pos x.letter_eq,
    takeSign_append x.sign (hhead '-' rfl) (hhead '+' rfl)]
  simp [hspan, x.digits_ne_nil, Exponent.value]

theorem exists_of_exponent? {power : Int} (h : exponent? cs = some power) :
    ∃ x : Option Exponent, Writing.exponentText x = cs ∧ (x.map Exponent.value).getD 0 = power := by
  cases cs with
  | nil => exact ⟨none, rfl, Option.some.inj h⟩
  | cons c cs =>
      rw [exponent?] at h
      split at h
      next hletter =>
        obtain ⟨sign, hminus, htext⟩ := exists_takeSign cs
        have hdigits := Text.isDigits_spanDigits (takeSign cs).2
        have hspan := Text.spanDigits_fst_append_snd (takeSign cs).2
        simp only [← hminus] at h
        split at h
        next => cases h
        next hwhole =>
          simp only [Bool.or_eq_true, List.isEmpty_iff, Bool.not_eq_true', not_or,
            Bool.not_eq_false] at hwhole
          rw [hwhole.2, List.append_nil] at hspan
          have hcs : sign.text ++ (Text.spanDigits (takeSign cs).2).1 = cs := by rw [hspan, htext]
          exact ⟨some ⟨c, sign, _, hletter, hdigits, hwhole.1⟩, congrArg (c :: ·) hcs,
            Option.some.inj h⟩
      next => cases h

theorem exponentText_head? {c : Char} (x : Option Exponent)
    (h : (Writing.exponentText x).head? = some c) : c = 'e' ∨ c = 'E' := by
  cases x with
  | none => cases h
  | some x =>
      rw [← Option.some.inj h]
      exact x.letter_eq

theorem takeFraction_append {fraction : Option (List Char)}
    (hfraction : ∀ ds ∈ fraction, Text.IsDigits ds) (x : Option Exponent) :
    takeFraction (Writing.fractionText fraction ++ Writing.exponentText x) =
      (fraction.getD [], Writing.exponentText x) := by
  have hhead {c : Char} (hc : (Writing.exponentText x).head? = some c) :
      c.isDigit = false ∧ c ≠ '.' := by
    rcases exponentText_head? x hc with rfl | rfl <;> decide
  cases fraction with
  | some ds => exact Text.spanDigits_append (hfraction ds rfl) fun c hc => (hhead hc).1
  | none =>
      rw [Writing.fractionText, List.nil_append]
      unfold takeFraction
      split
      next h => exact absurd rfl (hhead (by rw [h]; rfl)).2
      next => rfl

theorem exists_takeFraction (cs : List Char) : ∃ fraction : Option (List Char),
    (∀ ds ∈ fraction, Text.IsDigits ds) ∧ fraction.getD [] = (takeFraction cs).1 ∧
      Writing.fractionText fraction ++ (takeFraction cs).2 = cs := by
  unfold takeFraction
  split
  next cs =>
    refine ⟨some (Text.spanDigits cs).1, ?_, rfl, ?_⟩
    · rintro ds ⟨⟩
      exact Text.isDigits_spanDigits cs
    · exact congrArg ('.' :: ·) (Text.spanDigits_fst_append_snd cs)
  next => exact ⟨none, by simp, rfl, rfl⟩

theorem exponent?_exponentText (x : Option Exponent) :
    exponent? (Writing.exponentText x) = some ((x.map Exponent.value).getD 0) := by
  cases x with
  | none => rfl
  | some x => exact exponent?_text x

/-- What a numeral is made of. -/
theorem Writing.isDigit_or_mem_of_mem_text {c : Char} (w : Writing) (h : c ∈ w.text) :
    c.isDigit = true ∨ c ∈ ['+', '-', '.', 'e', 'E'] := by
  have hsign (s : Sign) (h : c ∈ s.text) : c ∈ ['+', '-', '.', 'e', 'E'] := by
    cases s <;> simp [Sign.text] at h <;> simp [h]
  rw [Writing.text, List.mem_append, List.mem_append, List.mem_append] at h
  rcases h with h | h | h | h
  · exact .inr (hsign _ h)
  · exact .inl (w.whole_isDigits c h)
  · cases hfraction : w.fraction with
    | none => simp [hfraction, Writing.fractionText] at h
    | some ds =>
        rw [hfraction] at h
        rcases List.mem_cons.1 h with rfl | h
        · exact .inr (by simp)
        · exact .inl (w.fraction_isDigits ds hfraction c h)
  · cases hexponent : w.exponent with
    | none => simp [hexponent, Writing.exponentText] at h
    | some x =>
        rw [hexponent] at h
        rcases List.mem_cons.1 h with rfl | h
        · exact .inr (by rcases x.letter_eq with h | h <;> simp [h])
        · rcases List.mem_append.1 h with h | h
          · exact .inr (hsign _ h)
          · exact .inl (x.isDigits c h)

theorem Writing.trim_text (w : Writing) : Text.trim w.text = w.text := by
  have hmarks : ['+', '-', '.', 'e', 'E'].any Text.isBlank = false := by decide
  refine Text.trim_eq_self_of_forall fun c hc => ?_
  rcases w.isDigit_or_mem_of_mem_text hc with h | h
  · exact Text.isBlank_of_isDigit h
  · simpa using List.any_eq_false.1 hmarks c h

/-- After the digits in front of the point no other digit comes. -/
theorem Writing.isDigit_eq_false_of_mem_head? (w : Writing) :
    ∀ c ∈ (fractionText w.fraction ++ exponentText w.exponent).head?, c.isDigit = false := by
  intro c hc
  cases hfraction : w.fraction with
  | some ds =>
      rw [hfraction] at hc
      rw [← Option.some.inj hc]
      rfl
  | none =>
      rw [hfraction] at hc
      rcases exponentText_head? w.exponent hc with rfl | rfl <;> rfl

/-- What follows the sign begins with a digit or with the point. -/
theorem Writing.head?_ne_of_isDigit_eq_false {c : Char} (w : Writing) (hdigit : c.isDigit = false)
    (hpoint : c ≠ '.') :
    (w.whole ++ (fractionText w.fraction ++ exponentText w.exponent)).head? ≠ some c := by
  by_cases hwhole : w.whole = []
  · cases hfraction : w.fraction with
    | some ds =>
        rw [hwhole]
        exact fun h => hpoint (Option.some.inj h).symm
    | none => exact absurd (by rw [hwhole, hfraction]; rfl) w.ne_nil
  · exact Text.head?_ne_of_isDigits w.whole_isDigits hwhole hdigit

/-- A written numeral is read as it is. -/
theorem ofChars?_text (w : Writing) : ofChars? w.text = some w.numeral := by
  have hminus := w.head?_ne_of_isDigit_eq_false (c := '-') rfl (by decide)
  have hplus := w.head?_ne_of_isDigit_eq_false (c := '+') rfl (by decide)
  have hwhole := Text.spanDigits_append w.whole_isDigits w.isDigit_eq_false_of_mem_head?
  rw [Writing.text, ofChars?, takeSign_append w.sign hminus hplus]
  simp only [hwhole, takeFraction_append w.fraction_isDigits, exponent?_exponentText]
  rw [if_neg (by simpa [← List.append_eq_nil_iff] using w.ne_nil)]
  rfl

/-- What is read is a written numeral. -/
theorem exists_writing_of_ofChars? {n : Numeral} (h : ofChars? cs = some n) :
    ∃ w : Writing, w.text = cs ∧ w.numeral = n := by
  obtain ⟨sign, hminus, hsign⟩ := exists_takeSign cs
  have hwhole := Text.isDigits_spanDigits (takeSign cs).2
  have hbody := Text.spanDigits_fst_append_snd (takeSign cs).2
  obtain ⟨fraction, hfraction, hdecimals, htext⟩ :=
    exists_takeFraction (Text.spanDigits (takeSign cs).2).2
  rw [ofChars?] at h
  simp only [← hminus, ← hdecimals] at h
  split at h
  next => cases h
  next hne =>
    obtain ⟨power, hpower, rfl⟩ := Option.map_eq_some_iff.1 h
    obtain ⟨exponent, hexponent, rfl⟩ := exists_of_exponent? hpower
    rw [← hexponent] at htext
    rw [← htext] at hbody
    rw [← hbody] at hsign
    refine ⟨⟨sign, _, fraction, exponent, hwhole, hfraction, ?_⟩, hsign, rfl⟩
    simpa [← List.append_eq_nil_iff] using hne

theorem ofChars?_eq_some_iff {n : Numeral} :
    ofChars? cs = some n ↔ ∃ w : Writing, w.text = cs ∧ w.numeral = n := by
  refine ⟨exists_writing_of_ofChars?, ?_⟩
  rintro ⟨w, rfl, rfl⟩
  exact ofChars?_text w

end Reading

/-! ### The number that is read -/

/-- The number that a numeral is, exactly. -/
def value (n : Numeral) : ℚ :=
  Double.signOf n.negative * (n.coefficient * 10 ^ n.scale)

section Value

variable {n : Numeral}

theorem Writing.isDigits_numeral (w : Writing) : Text.IsDigits w.numeral.digits := by
  refine w.whole_isDigits.append ?_
  rw [decimals]
  cases hfraction : w.fraction with
  | none => simp [Text.IsDigits]
  | some ds => exact w.fraction_isDigits ds hfraction

theorem Writing.value_numeral (w : Writing) : w.numeral.value = w.value := by
  have hten : (10 : ℚ) ^ w.decimals.length ≠ 0 := by positivity
  rw [Numeral.value, Writing.value, coefficient, numeral, Text.natOfDigits_append,
    zpow_sub₀ (by norm_num), zpow_natCast, mul_assoc]
  congr 1
  push_cast
  field_simp

theorem abs_value (n : Numeral) : |n.value| = n.coefficient * 10 ^ n.scale := by
  rw [value, Double.abs_signOf_mul]
  exact abs_of_nonneg (by positivity)

theorem fitsSign_value (n : Numeral) : Double.FitsSign n.value n.negative := by
  rw [value]
  exact Double.fitsSign_signOf_mul _ (by positivity)

/-- A number other than zero lies between two powers of ten that the order says. -/
theorem pow_le_abs_value (h : Text.IsDigits n.digits) (hne : n.coefficient ≠ 0) :
    (10 : ℚ) ^ (n.order - 1) ≤ |n.value| ∧ |n.value| < 10 ^ n.order := by
  have hten : (10 : ℚ) ≠ 0 := by norm_num
  have hscale : (0 : ℚ) < 10 ^ n.scale := by positivity
  have hcoefficient := Text.natOfDigits_dropWhile_zero n.digits
  have hdigits : Text.IsDigits (n.digits.dropWhile (· == '0')) :=
    fun c hc => h c ((List.dropWhile_suffix _).mem hc)
  rw [← coefficient] at hcoefficient
  rw [abs_value, order, ← hcoefficient]
  cases hdrop : n.digits.dropWhile (· == '0') with
  | nil => exact absurd (by rw [← hcoefficient, hdrop]; rfl) hne
  | cons c cs =>
      rw [hdrop] at hdigits
      -- what is left begins with no zero, so its length bounds the number from both sides
      have hc : c ≠ '0' := by
        have hhead := List.head?_dropWhile_not (· == '0') n.digits
        rw [hdrop] at hhead
        exact ne_of_beq_false hhead
      have hlower := Text.pow_le_natOfDigits_cons (hdigits c List.mem_cons_self) hc cs
      have hupper := Text.natOfDigits_lt hdigits
      have hexponent : ((c :: cs).length : ℤ) + n.scale - 1 = cs.length + n.scale := by
        rw [List.length_cons]
        omega
      rw [hexponent, zpow_add₀ hten, zpow_add₀ hten, zpow_natCast, zpow_natCast]
      exact ⟨mul_le_mul_of_nonneg_right (by exact_mod_cast hlower) hscale.le,
        mul_lt_mul_of_pos_right (by exact_mod_cast hupper) hscale⟩

end Value

section Rounding

variable {n : Numeral}

theorem two_pow_le_of_order (h : Text.IsDigits n.digits) (hne : n.coefficient ≠ 0)
    (horder : 400 < n.order) : (2 : ℚ) ^ 1024 ≤ |n.value| := by
  have hlower := (pow_le_abs_value h hne).1
  calc (2 : ℚ) ^ 1024 ≤ 2 ^ (3 * 400) := pow_le_pow_right₀ one_le_two (by omega)
    _ = (2 ^ 3) ^ 400 := pow_mul _ _ _
    _ ≤ 10 ^ 400 := pow_le_pow_left₀ (by positivity) (by norm_num) _
    _ = 10 ^ (400 : ℤ) := (zpow_ofNat _ _).symm
    _ ≤ 10 ^ (n.order - 1) := zpow_le_zpow_right₀ (by norm_num) (by omega)
    _ ≤ |n.value| := hlower

theorem abs_value_lt_of_order (h : Text.IsDigits n.digits) (hne : n.coefficient ≠ 0)
    (horder : n.order < -400) : 2 * |n.value| < 1 / 2 ^ 1074 := by
  have hupper := (pow_le_abs_value h hne).2
  calc 2 * |n.value| < 2 * 10 ^ n.order := mul_lt_mul_of_pos_left hupper two_pos
    _ ≤ 2 * 10 ^ (-400 : ℤ) :=
        mul_le_mul_of_nonneg_left (zpow_le_zpow_right₀ (by norm_num) horder.le) two_pos.le
    _ = 2 * (1 / 10 ^ 400) := by rw [zpow_neg, zpow_ofNat, one_div]
    _ ≤ 2 * (1 / (2 ^ 3) ^ 400) :=
        mul_le_mul_of_nonneg_left (one_div_le_one_div_of_le (by positivity)
          (pow_le_pow_left₀ (by positivity) (by norm_num) _)) two_pos.le
    _ = 1 / 2 ^ 1199 := by
        rw [← pow_mul, show 3 * 400 = 1199 + 1 from rfl, pow_succ (2 : ℚ) 1199]
        field_simp
    _ ≤ 1 / 2 ^ 1074 :=
        one_div_le_one_div_of_le (by positivity) (pow_le_pow_right₀ one_le_two (by omega))

theorem quotient_eq_abs_value (n : Numeral) :
    ((n.coefficient * Nat.pow 10 n.scale.toNat : Nat) : ℚ) / (Nat.pow 10 (-n.scale).toNat : Nat) =
      |n.value| := by
  have hten : (10 : ℚ) ≠ 0 := by norm_num
  have hscale : n.scale = n.scale.toNat - (-n.scale).toNat := by omega
  have hpow : (10 : ℚ) ^ n.scale = 10 ^ n.scale.toNat / 10 ^ (-n.scale).toNat := by
    conv_lhs => rw [hscale, zpow_sub₀ hten, zpow_natCast, zpow_natCast]
  rw [abs_value, hpow, mul_div_assoc', Nat.pow_eq, Nat.pow_eq]
  push_cast
  rfl

/-- What is read is the number rounded, also where its order alone decides. -/
theorem toDouble_eq_ofRat (h : Text.IsDigits n.digits) :
    n.toDouble = .ofRat n.negative n.value := by
  rw [toDouble]
  refine Double.eq_of_rank_eq ?_ ?_
  · split_ifs <;> rfl
  rw [Double.rank_ofRat]
  split_ifs with hzero hlarge hsmall
  · have hvalue : n.value = 0 := by rw [value, hzero, Nat.cast_zero, zero_mul, mul_zero]
    rw [hvalue, Double.rankOf_zero]
    rfl
  · exact (Double.rankOf_of_large (two_pow_le_of_order h hzero hlarge)).symm
  · exact (Double.rankOf_of_small (abs_value_lt_of_order h hzero hsmall)).symm
  · have hden : 0 < Nat.pow 10 (-n.scale).toNat := Nat.pow_pos (by decide)
    rw [Double.ofQuotient_eq_ofRat hden, quotient_eq_abs_value, Double.rank_ofRat,
      Double.rankOf_abs]

theorem Writing.toDouble_numeral (w : Writing) :
    w.numeral.toDouble = .ofRat w.sign.isMinus w.value := by
  rw [toDouble_eq_ofRat w.isDigits_numeral, w.value_numeral]
  rfl

theorem Writing.fitsSign_value (w : Writing) : Double.FitsSign w.value w.sign.isMinus := by
  rw [← w.value_numeral]
  exact Numeral.fitsSign_value w.numeral

end Rounding

end Numeral

section Text

variable {s : String} {w : Numeral.Writing}

theorem numberOfText?_of_text (h : w.text = Text.trim s.toList) :
    numberOfText? s = some (.ofRat w.sign.isMinus w.value) := by
  rw [numberOfText?, ← h, Numeral.ofChars?_text, Option.map_some, w.toDouble_numeral]

theorem isSome_numberOfText? : (numberOfText? s).isSome = true ↔
    ∃ w : Numeral.Writing, w.text = Text.trim s.toList := by
  rw [numberOfText?, Option.isSome_map, Option.isSome_iff_exists]
  simp only [Numeral.ofChars?_eq_some_iff]
  exact ⟨fun ⟨_, w, hw, _⟩ => ⟨w, hw⟩, fun ⟨w, hw⟩ => ⟨_, w, hw, rfl⟩⟩

end Text

end RecordRules
