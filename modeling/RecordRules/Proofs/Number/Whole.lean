import RecordRules.Proofs.Number.Nearest
import Mathlib.Data.Rat.Floor

/-!
Doubles that are integers. From 2^52 on every double is one, so an integer is rounded to an integer
wherever it is not too large for a double. Rounding goes half a step at most, and the step above a
number is small beside it unless the number itself is among the smallest.
-/

namespace RecordRules.Double

/-! ### Integers among magnitudes -/

section Magnitudes

variable {rank : Nat} {q : ℚ} {d : Double} {negative : Bool}

theorem unit_dvd_scaled_iff : unit ∣ scaled rank ↔ ∃ n : ℕ, magnitude rank = n := by
  constructor
  · rintro ⟨n, hn⟩
    refine ⟨n, ?_⟩
    rw [magnitude, hn, Nat.cast_mul, mul_div_cancel_left₀ _ unit_cast_pos.ne']
  · rintro ⟨n, hn⟩
    rw [magnitude, div_eq_iff unit_cast_pos.ne'] at hn
    exact ⟨n, by rw [mul_comm]; exact_mod_cast hn⟩

/-- A magnitude from 2^52 on is an integer. -/
theorem unit_dvd_scaled (h : 2 ^ 52 ≤ magnitude rank) : unit ∣ scaled rank := by
  rw [magnitude, le_div_iff₀ unit_cast_pos] at h
  have hscaled : fractionCount * unit ≤ scaled rank := by
    rw [fractionCount_eq]
    exact_mod_cast h
  rcases lt_or_eq_add rank with hlt | ⟨exponent, fraction, hfraction, rfl⟩
  · rw [scaled_of_lt hlt] at hscaled
    exact absurd (Nat.le_mul_of_pos_right fractionCount unit_pos) (by omega)
  · rw [scaled_add exponent hfraction] at hscaled ⊢
    -- a smaller exponent does not reach so far
    have hexponent : 1074 ≤ exponent := by
      by_contra hsmall
      have hunit : 2 ^ (exponent + 1) ≤ unit := by
        rw [unit_eq]
        exact pow_le_pow_right₀ one_le_two (by omega)
      have hlt : (fractionCount + fraction) * 2 ^ exponent < fractionCount * 2 ^ (exponent + 1) := by
        rw [Nat.pow_succ', ← Nat.mul_assoc]
        exact Nat.mul_lt_mul_of_pos_right (by omega) (Nat.two_pow_pos exponent)
      exact absurd (hlt.trans_le (Nat.mul_le_mul_left _ hunit)) (Nat.not_lt.2 hscaled)
    rw [unit_eq]
    exact (pow_dvd_pow 2 hexponent).mul_left _

theorem exists_toRat_eq_intCast_iff : (∃ n : ℤ, d.toRat = n) ↔ unit ∣ scaled d.rank := by
  rw [unit_dvd_scaled_iff, toRat_eq]
  constructor
  · rintro ⟨n, hn⟩
    refine ⟨n.natAbs, ?_⟩
    rw [Nat.cast_natAbs, Int.cast_abs, ← hn, abs_signOf_mul, abs_of_nonneg (magnitude_nonneg _)]
  · rintro ⟨n, hn⟩
    rw [hn, signOf]
    cases d.negative with
    | true => exact ⟨-n, by simp⟩
    | false => exact ⟨n, by simp⟩

theorem isWhole_iff : d.isWhole = true ↔ d.isFinite = true ∧ ∃ n : ℤ, d.toRat = n := by
  rw [isWhole, Bool.and_eq_true, beq_iff_eq, exists_toRat_eq_intCast_iff, Nat.dvd_iff_mod_eq_zero]

/-! ### Rounding integers -/

theorem magnitude_rankOf (hd : d.toRat = q) : magnitude (rankOf q) = |q| := by
  rw [rankOf_of_abs_eq (hd ▸ abs_toRat d) d.rank_le, ← abs_toRat, hd]

/-- An integer stays one when it is rounded. -/
theorem unit_dvd_scaled_rankOf (i : ℤ) : unit ∣ scaled (rankOf i) := by
  rcases Nat.le_total i.natAbs (2 ^ 53) with hsmall | hlarge
  · obtain ⟨d, -, hd⟩ := exists_toRat_eq_intCast hsmall
    refine unit_dvd_scaled_iff.2 ⟨i.natAbs, ?_⟩
    rw [magnitude_rankOf hd, Nat.cast_natAbs, Int.cast_abs]
  · obtain ⟨d, -, hd⟩ := exists_toRat_eq_intCast (i := 2 ^ 53) (by decide)
    refine unit_dvd_scaled ?_
    have hle : |((2 ^ 53 : ℤ) : ℚ)| ≤ |(i : ℚ)| := by
      rw [← Int.cast_abs, ← Int.cast_abs, Int.cast_le, Int.abs_eq_natAbs i]
      exact_mod_cast hlarge
    have hrank := strictMono_magnitude.monotone (rankOf_le_rankOf hle)
    rw [magnitude_rankOf hd] at hrank
    exact (by norm_num : (2 : ℚ) ^ 52 ≤ |((2 ^ 53 : ℤ) : ℚ)|).trans hrank

/-! ### Half a step -/

theorem exists_magnitude_le_lt (h : 0 ≤ q) :
    ∃ rank, magnitude rank ≤ q ∧ q < magnitude (rank + 1) := by
  have hfloor : (⌊q * unit⌋₊ : ℚ) ≤ q * unit := Nat.floor_le (mul_nonneg h unit_cast_pos.le)
  have hnext : q * unit < ⌊q * unit⌋₊ + 1 := Nat.lt_floor_add_one _
  refine ⟨floorRank ⌊q * unit⌋₊, ?_, ?_⟩
  · rw [magnitude, div_le_iff₀ unit_cast_pos]
    exact (Nat.cast_le.2 (scaled_floorRank_le _)).trans hfloor
  · rw [magnitude, lt_div_iff₀ unit_cast_pos]
    exact hnext.trans_le (by exact_mod_cast lt_scaled_floorRank_succ ⌊q * unit⌋₊)

/-- The step above a magnitude has fifty-two binary digits less, or it is the smallest. -/
theorem magnitude_succ_le (rank : Nat) :
    magnitude (rank + 1) ≤ magnitude rank + magnitude rank / 2 ^ 52 ∨
      magnitude (rank + 1) = magnitude rank + 1 / 2 ^ 1074 := by
  rw [magnitude, scaled_succ, Nat.cast_add, add_div, ← magnitude, add_le_add_iff_left,
    add_right_inj]
  rcases lt_or_eq_add rank with h | ⟨exponent, fraction, hfraction, rfl⟩
  · right
    rw [Nat.div_eq_of_lt h, unit_cast]
    simp
  · left
    rw [magnitude, scaled_add exponent hfraction, add_div_fractionCount exponent hfraction,
      Nat.add_sub_cancel, div_right_comm, fractionCount_eq]
    refine div_le_div_of_nonneg_right ?_ unit_cast_pos.le
    have hstep : 2 ^ exponent * 2 ^ 52 ≤ (2 ^ 52 + fraction) * 2 ^ exponent := by
      rw [Nat.mul_comm]
      exact Nat.mul_le_mul_right _ (Nat.le_add_right _ _)
    rw [le_div_iff₀ (by positivity)]
    exact_mod_cast hstep

theorem abs_sub_magnitude_rankOf_le (h : rankOf q < infinityRank) :
    |(|q| - magnitude (rankOf q))| ≤ |q| / 2 ^ 53 ∨
      |(|q| - magnitude (rankOf q))| ≤ 1 / 2 ^ 1075 := by
  -- the number lies between two neighbours, and no magnitude is nearer than the one rounded to
  obtain ⟨rank, hlower, hupper⟩ := exists_magnitude_le_lt (abs_nonneg q)
  have hleft := (abs_sub_magnitude_le h rank).1
  have hright := (abs_sub_magnitude_le h (rank + 1)).1
  rw [abs_of_nonneg (sub_nonneg.2 hlower)] at hleft
  rw [abs_of_nonpos (sub_nonpos.2 hupper.le)] at hright
  rcases magnitude_succ_le rank with hstep | hstep
  · left
    linarith
  · right
    have hhalf : (1 : ℚ) / 2 ^ 1075 = 1 / 2 ^ 1074 / 2 := by
      rw [div_div, ← pow_succ]
    rw [hhalf]
    generalize (1 : ℚ) / 2 ^ 1074 = tiny at hstep
    linarith

/-- A number is rounded by half a step at most. -/
theorem abs_sub_toRat_ofRat_le (hsign : FitsSign q negative)
    (h : (ofRat negative q).isFinite = true) :
    |q - (ofRat negative q).toRat| ≤ |q| / 2 ^ 53 ∨
      |q - (ofRat negative q).toRat| ≤ 1 / 2 ^ 1075 := by
  rw [abs_sub_toRat_ofRat hsign]
  exact abs_sub_magnitude_rankOf_le (isFinite_iff.1 h)

end Magnitudes

end RecordRules.Double
