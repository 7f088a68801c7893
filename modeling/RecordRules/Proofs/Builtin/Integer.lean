import RecordRules.Proofs.Builtin.Bound
import RecordRules.Proofs.Number.Whole

/-!
The rule on integers, in terms of the numbers that texts write. A text is judged by the double that
its number is rounded to. Rounding makes an integer of a number that is next to one, and it makes no
finite double of an integer that is too large. A number with few enough digits is never so near to an
integer without being it.
-/

namespace RecordRules

/-! ### Numbers next to integers -/

namespace Numeral

variable {n : Numeral} {i : ℤ}

/-- The number that is written without a minus sign. -/
theorem Writing.value_of_isMinus_eq_false (w : Writing) (coefficient : ℕ) (scale : ℤ)
    (hsign : w.sign.isMinus = false) (hcoefficient : w.numeral.coefficient = coefficient)
    (hscale : w.numeral.scale = scale) : w.value = coefficient * 10 ^ scale := by
  have hpositive : w.numeral.negative = false := hsign
  rw [← w.value_numeral, Numeral.value, hpositive, hcoefficient, hscale, Double.signOf,
    if_neg Bool.false_ne_true, one_mul]

/-- With at most fifty-three binary digits and three hundred decimal places, a number that rounding
may take to an integer is one. -/
theorem exists_eq_intCast_of_near (hdigits : n.coefficient < 2 ^ 53) (hplaces : -300 ≤ n.scale)
    (h : |n.value - i| ≤ |n.value| / 2 ^ 53 ∨ |n.value - i| ≤ 1 / 2 ^ 1075) :
    ∃ j : ℤ, n.value = j := by
  obtain ⟨a, ha⟩ : ∃ a : ℤ, Double.signOf n.negative * n.coefficient = a := by
    cases n.negative with
    | true => exact ⟨-n.coefficient, by simp [Double.signOf]⟩
    | false => exact ⟨n.coefficient, by simp [Double.signOf]⟩
  have hvalue : n.value = a * 10 ^ n.scale := by rw [value, ← mul_assoc, ha]
  rcases Int.le_total 0 n.scale with hscale | hscale
  · obtain ⟨k, hk⟩ := Int.eq_ofNat_of_zero_le hscale
    refine ⟨a * 10 ^ k, ?_⟩
    rw [hvalue, hk, zpow_natCast]
    push_cast
    rfl
  · obtain ⟨k, hk⟩ : ∃ k : ℕ, n.scale = -k := ⟨(-n.scale).toNat, by omega⟩
    have hten : (0 : ℚ) < 10 ^ k := by positivity
    have hplace : (10 : ℚ) ^ n.scale = 1 / 10 ^ k := by rw [hk, zpow_neg, zpow_natCast, one_div]
    have hnear : |n.value - i| < 1 / 10 ^ k := by
      rcases h with h | h
      · refine h.trans_lt ?_
        rw [abs_value, hplace, mul_div_right_comm]
        have hsmall : (n.coefficient : ℚ) / 2 ^ 53 < 1 := by
          rw [div_lt_one (by positivity)]
          exact_mod_cast hdigits
        exact mul_lt_of_lt_one_left (by positivity) hsmall
      · refine h.trans_lt (one_div_lt_one_div_of_lt hten ?_)
        calc (10 : ℚ) ^ k ≤ 10 ^ (3 * 100) := pow_le_pow_right₀ (by norm_num) (by omega)
          _ = (10 ^ 3) ^ 100 := pow_mul _ _ _
          _ ≤ (2 ^ 10) ^ 100 := pow_le_pow_left₀ (by positivity) (by norm_num) _
          _ = 2 ^ (10 * 100) := (pow_mul _ _ _).symm
          _ < 2 ^ 1075 := pow_lt_pow_right₀ one_lt_two (by omega)
    -- counted in units of the last place both are integers less than one apart
    have hdiff : ((a - i * 10 ^ k : ℤ) : ℚ) = (n.value - i) * 10 ^ k := by
      rw [hvalue, hplace]
      push_cast
      field_simp
    have hzero : a - i * 10 ^ k = 0 := by
      rw [← Int.abs_lt_one_iff, ← Int.cast_lt (R := ℚ), Int.cast_abs, hdiff, abs_mul,
        abs_of_pos hten, Int.cast_one]
      exact (lt_div_iff₀ hten).1 hnear
    refine ⟨i, ?_⟩
    rw [hzero, Int.cast_zero, eq_comm, mul_eq_zero, sub_eq_zero] at hdiff
    exact hdiff.resolve_right hten.ne'

end Numeral

namespace Builtin

section Passing

variable {isFile : String → Bool} {field s : String} {param : Option String} {w : Numeral.Writing}

theorem integer_eq_none_iff (hw : w.text = Text.trim s.toList) :
    integer.objection? isFile field (.string s) param = none ↔
      (Double.ofRat w.sign.isMinus w.value).isWhole = true := by
  rw [objection?, ifNot_eq_none, Value.isInteger, Value.number?, numberOfText?_of_text hw]
  intro n hn
  cases hn

theorem isFinite_ofRat_iff : (Double.ofRat w.sign.isMinus w.value).isFinite = true ↔
    |w.value| < 2 ^ 1024 - 2 ^ 970 :=
  Double.isFinite_iff.trans Double.rankOf_lt_infinityRank_iff

/-- An integer passes unless it is too large. -/
theorem integer_eq_none_iff_of_intCast {n : ℤ} (hw : w.text = Text.trim s.toList)
    (hn : w.value = n) : integer.objection? isFile field (.string s) param = none ↔
      |w.value| < 2 ^ 1024 - 2 ^ 970 := by
  have hwhole : ∃ i : ℤ, (Double.ofRat w.sign.isMinus w.value).toRat = i := by
    rw [Double.exists_toRat_eq_intCast_iff, Double.rank_ofRat, hn]
    exact Double.unit_dvd_scaled_rankOf n
  rw [integer_eq_none_iff hw, Double.isWhole_iff, and_iff_left hwhole, isFinite_ofRat_iff]

/-- What passes is next to an integer. -/
theorem exists_near_of_integer_eq_none (hw : w.text = Text.trim s.toList)
    (h : integer.objection? isFile field (.string s) param = none) :
    |w.value| < 2 ^ 1024 - 2 ^ 970 ∧ ∃ n : ℤ,
      |w.value - n| ≤ |w.value| / 2 ^ 53 ∨ |w.value - n| ≤ 1 / 2 ^ 1075 := by
  obtain ⟨hfinite, n, hn⟩ := Double.isWhole_iff.1 ((integer_eq_none_iff hw).1 h)
  refine ⟨isFinite_ofRat_iff.1 hfinite, n, ?_⟩
  rw [← hn]
  exact Double.abs_sub_toRat_ofRat_le w.fitsSign_value hfinite

end Passing

/-- A written number passes exactly if the double that it is rounded to is finite and an integer.
Integers pass as long as they are not too large for a double, and what passes is at most half a step
of rounding away from an integer. With at most fifty-three binary digits and three hundred decimal
places a number has to be an integer itself. -/
theorem integer_passes_iff_rounded (isFile : String → Bool) (field s : String)
    (param : Option String) (w : Numeral.Writing) (hw : w.text = Text.trim s.toList) :
    (integer.objection? isFile field (.string s) param = none ↔
      ∃ d : Double, Double.Rounds w.sign.isMinus w.value d ∧ d.isFinite = true ∧
        ∃ n : ℤ, d.toRat = n) ∧
    ((∃ n : ℤ, w.value = n) →
      (integer.objection? isFile field (.string s) param = none ↔
        |w.value| < 2 ^ 1024 - 2 ^ 970)) ∧
    (integer.objection? isFile field (.string s) param = none →
      ∃ n : ℤ, |w.value - n| ≤ |w.value| / 2 ^ 53 ∨ |w.value - n| ≤ 1 / 2 ^ 1075) ∧
    (w.numeral.coefficient < 2 ^ 53 → -300 ≤ w.numeral.scale →
      (integer.objection? isFile field (.string s) param = none ↔
        |w.value| < 2 ^ 1024 - 2 ^ 970 ∧ ∃ n : ℤ, w.value = n)) := by
  refine ⟨?_, fun ⟨n, hn⟩ => integer_eq_none_iff_of_intCast hw hn,
    fun h => (exists_near_of_integer_eq_none hw h).2, fun hdigits hplaces => ⟨fun h => ?_, ?_⟩⟩
  · rw [integer_eq_none_iff hw, Double.isWhole_iff]
    constructor
    · exact fun h => ⟨_, Double.rounds_ofRat w.fitsSign_value, h⟩
    · rintro ⟨d, hd, h⟩
      rwa [Double.eq_ofRat_of_rounds hd w.fitsSign_value] at h
  · obtain ⟨hfinite, n, hnear⟩ := exists_near_of_integer_eq_none hw h
    rw [← w.value_numeral] at hnear
    obtain ⟨i, hi⟩ := Numeral.exists_eq_intCast_of_near hdigits hplaces hnear
    exact ⟨hfinite, i, w.value_numeral ▸ hi⟩
  · rintro ⟨hfinite, n, hn⟩
    exact (integer_eq_none_iff_of_intCast hw hn).2 hfinite

/-- A fraction of zero makes no difference, and one of a half does. -/
theorem integer_passes_iff_rounded_of_fraction :
    integer.objection? (fun _ => false) "n" (.string " +20.0") none = none ∧
      integer.objection? (fun _ => false) "n" (.string "4.5") none ≠ none := by
  let twenty : Numeral.Writing :=
    { sign := .plus
      whole := ['2', '0']
      fraction := some ['0']
      exponent := none
      whole_isDigits := by decide
      fraction_isDigits := by simpa using (by decide : Text.IsDigits ['0'])
      ne_nil := by decide }
  let half : Numeral.Writing :=
    { sign := .absent
      whole := ['4']
      fraction := some ['5']
      exponent := none
      whole_isDigits := by decide
      fraction_isDigits := by simpa using (by decide : Text.IsDigits ['5'])
      ne_nil := by decide }
  have htwenty : twenty.value = (20 : ℤ) := by
    rw [twenty.value_of_isMinus_eq_false 200 (-1) rfl rfl rfl]
    norm_num
  have hhalf : half.value * 2 = (9 : ℤ) := by
    rw [half.value_of_isMinus_eq_false 45 (-1) rfl rfl rfl]
    norm_num
  have hfinite : |twenty.value| < 2 ^ 1024 - 2 ^ 970 := by
    rw [← isFinite_ofRat_iff, ← twenty.toDouble_numeral]
    decide +kernel
  obtain ⟨-, -, -, hpasses⟩ := integer_passes_iff_rounded (fun _ => false) "n" " +20.0" none twenty
    (by decide)
  obtain ⟨-, -, -, hfails⟩ := integer_passes_iff_rounded (fun _ => false) "n" "4.5" none half
    (by decide)
  refine ⟨(hpasses (by decide) (by decide)).2 ⟨hfinite, 20, htwenty⟩, fun h => ?_⟩
  obtain ⟨-, n, hn⟩ := (hfails (by decide) (by decide)).1 h
  rw [hn] at hhalf
  have hodd : n * 2 = 9 := by exact_mod_cast hhalf
  omega

/-- A number next to one passes, and the integer 10^400 does not. -/
theorem not_integer_exact :
    (¬ ∀ (isFile : String → Bool) (field s : String) (param : Option String) (w : Numeral.Writing),
      w.text = Text.trim s.toList → integer.objection? isFile field (.string s) param = none →
        ∃ n : ℤ, w.value = n) ∧
    (¬ ∀ (isFile : String → Bool) (field s : String) (param : Option String) (w : Numeral.Writing),
      w.text = Text.trim s.toList → (∃ n : ℤ, w.value = n) →
        integer.objection? isFile field (.string s) param = none) := by
  constructor
  · intro h
    let w : Numeral.Writing :=
      { sign := .absent
        whole := ['1']
        fraction := some (List.replicate 19 '0' ++ ['1'])
        exponent := none
        whole_isDigits := by decide
        fraction_isDigits := by
          simpa using (by decide : Text.IsDigits (List.replicate 19 '0' ++ ['1']))
        ne_nil := by decide }
    have hpasses : integer.objection? (fun _ => false) "n" (.string "1.00000000000000000001") none =
      none := by decide +kernel
    obtain ⟨n, hn⟩ := h _ _ _ _ w (by decide) hpasses
    have hvalue : w.value * 10 ^ 20 = (10 ^ 20 + 1 : ℤ) := by
      rw [w.value_of_isMinus_eq_false (10 ^ 20 + 1) (-20) rfl rfl rfl]
      norm_num
    rw [hn] at hvalue
    have hdigit : n * 10 ^ 20 = 10 ^ 20 + 1 := by exact_mod_cast hvalue
    omega
  · intro h
    let w : Numeral.Writing :=
      { sign := .absent
        whole := ['1']
        fraction := none
        exponent := some ⟨'e', .absent, ['4', '0', '0'], by decide, by decide, by decide⟩
        whole_isDigits := by decide
        fraction_isDigits := by simp
        ne_nil := by decide }
    have hvalue : w.value = ((10 ^ 400 : ℤ) : ℚ) := by
      rw [w.value_of_isMinus_eq_false 1 (400 : ℕ) rfl rfl rfl, zpow_natCast, Nat.cast_one, one_mul,
        Int.cast_pow, Int.cast_ofNat]
    have hfails : integer.objection? (fun _ => false) "n" (.string "1e400") none ≠ none := by
      decide +kernel
    exact hfails (h _ _ _ _ w (by decide) ⟨_, hvalue⟩)

end Builtin

end RecordRules
