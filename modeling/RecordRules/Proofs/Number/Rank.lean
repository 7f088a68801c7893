import RecordRules.Number.Double
import Mathlib.Algebra.Order.Ring.Nat
import Mathlib.Order.Monotone.Basic
import Mathlib.Tactic.Ring

/-!
Ranks and the magnitudes they number. The step from a magnitude to the next is a power of two, so
magnitudes grow with their ranks, and of all magnitudes up to a number the one with `floorRank` is
the greatest. A quotient is rounded beyond a rank exactly if it lies above the middle between the
rank's magnitude and the next, or in the middle if the rank is odd.
-/

namespace RecordRules.Double

theorem fractionCount_eq : fractionCount = 2 ^ 52 :=
  Nat.one_shiftLeft 52

theorem fractionCount_pos : 0 < fractionCount := by
  rw [fractionCount_eq]
  exact Nat.two_pow_pos 52

theorem unit_eq : unit = 2 ^ 1074 := by
  have hshift : ∀ n, 1 <<< n = 2 ^ n := Nat.one_shiftLeft
  exact hshift 1074

theorem unit_pos : 0 < unit := by
  simp only [unit_eq, Nat.two_pow_pos]

section Ranks

variable {rank r s n num den : Nat}

/-! ### Magnitudes -/

theorem scaled_of_lt (h : rank < fractionCount) : scaled rank = rank :=
  if_pos h

theorem add_div_fractionCount (exponent : Nat) {fraction : Nat} (h : fraction < fractionCount) :
    ((exponent + 1) * fractionCount + fraction) / fractionCount = exponent + 1 := by
  rw [Nat.mul_comm, Nat.mul_add_div fractionCount_pos, Nat.div_eq_of_lt h, Nat.add_zero]

/-- The magnitudes with the same exponent, numbered by their fractions. -/
theorem scaled_add (exponent : Nat) {fraction : Nat} (h : fraction < fractionCount) :
    scaled ((exponent + 1) * fractionCount + fraction) =
      (fractionCount + fraction) * 2 ^ exponent := by
  have hge : ¬ (exponent + 1) * fractionCount + fraction < fractionCount := by
    rw [Nat.add_mul, Nat.one_mul]
    omega
  rw [scaled, if_neg hge, add_div_fractionCount exponent h, Nat.mul_comm, Nat.mul_add_mod,
    Nat.mod_eq_of_lt h, Nat.shiftLeft_eq, Nat.add_sub_cancel]

/-- A rank is small, or it is told by the exponent and the fraction. -/
theorem lt_or_eq_add (rank : Nat) : rank < fractionCount ∨ ∃ exponent fraction,
    fraction < fractionCount ∧ rank = (exponent + 1) * fractionCount + fraction := by
  rcases Nat.lt_or_ge rank fractionCount with h | h
  · exact .inl h
  · have hquotient : 0 < rank / fractionCount := Nat.div_pos h fractionCount_pos
    refine .inr ⟨rank / fractionCount - 1, rank % fractionCount,
      Nat.mod_lt _ fractionCount_pos, ?_⟩
    rw [Nat.sub_add_cancel hquotient, Nat.mul_comm, Nat.div_add_mod]

theorem scaled_zero : scaled 0 = 0 :=
  scaled_of_lt fractionCount_pos

/-- From one magnitude to the next it is the power of two that the exponent says. -/
theorem scaled_succ (rank : Nat) :
    scaled (rank + 1) = scaled rank + 2 ^ (rank / fractionCount - 1) := by
  rcases lt_or_eq_add rank with h | ⟨exponent, fraction, h, rfl⟩
  · rw [scaled_of_lt h, Nat.div_eq_of_lt h]
    rcases Nat.lt_or_ge (rank + 1) fractionCount with hnext | hnext
    · exact scaled_of_lt hnext
    · have hrank : rank + 1 = (0 + 1) * fractionCount + 0 := by omega
      rw [hrank, scaled_add 0 fractionCount_pos]
      omega
  · rw [scaled_add exponent h, add_div_fractionCount exponent h, Nat.add_sub_cancel, Nat.add_assoc]
    rcases Nat.lt_or_ge (fraction + 1) fractionCount with hnext | hnext
    · rw [scaled_add exponent hnext]
      ring
    · have hfraction : fraction + 1 = fractionCount := by omega
      have hcarry : (exponent + 1) * fractionCount + (fraction + 1) =
          (exponent + 1 + 1) * fractionCount + 0 := by
        rw [hfraction]
        ring
      rw [hcarry, scaled_add (exponent + 1) fractionCount_pos, ← hfraction]
      ring

theorem strictMono_scaled : StrictMono scaled := by
  refine strictMono_nat_of_lt_succ fun rank => ?_
  rw [scaled_succ]
  exact Nat.lt_add_of_pos_right (Nat.two_pow_pos _)

/-! ### The greatest magnitude up to a number -/

theorem floorRank_of_lt (h : n < fractionCount) : floorRank n = n := by
  have hshift : Nat.log2 n - 52 = 0 := by
    rcases Nat.eq_zero_or_pos n with rfl | hpos
    · rfl
    · have hlog : n.log2 < 52 := (Nat.log2_lt (Nat.ne_of_gt hpos)).2 (fractionCount_eq ▸ h)
      omega
  rw [floorRank, hshift, Nat.zero_mul, Nat.shiftRight_zero, Nat.add_zero]

/-- A large number is cut to fifty-three binary digits. -/
theorem floorRank_of_le (h : fractionCount ≤ n) : ∃ exponent fraction, fraction < fractionCount ∧
    floorRank n = (exponent + 1) * fractionCount + fraction ∧
    n / 2 ^ exponent = fractionCount + fraction ∧ exponent = n.log2 - 52 := by
  have hne : n ≠ 0 := Nat.ne_of_gt (Nat.lt_of_lt_of_le fractionCount_pos h)
  have hlog : 52 ≤ n.log2 := (Nat.le_log2 hne).2 (fractionCount_eq ▸ h)
  have hlower : fractionCount ≤ n / 2 ^ (n.log2 - 52) := by
    rw [Nat.le_div_iff_mul_le (Nat.two_pow_pos _), fractionCount_eq, ← Nat.pow_add,
      Nat.add_sub_cancel' hlog]
    exact Nat.log2_self_le hne
  have hupper : n / 2 ^ (n.log2 - 52) < 2 * fractionCount := by
    rw [Nat.div_lt_iff_lt_mul (Nat.two_pow_pos _), fractionCount_eq, ← Nat.pow_succ',
      ← Nat.pow_add]
    have hsum : 52 + 1 + (n.log2 - 52) = n.log2 + 1 := by omega
    rw [hsum]
    exact Nat.lt_log2_self
  refine ⟨n.log2 - 52, n / 2 ^ (n.log2 - 52) - fractionCount, by omega, ?_, by omega, rfl⟩
  rw [floorRank, Nat.shiftRight_eq_div_pow, Nat.add_mul, Nat.one_mul]
  omega

theorem scaled_floorRank_le (n : Nat) : scaled (floorRank n) ≤ n := by
  rcases Nat.lt_or_ge n fractionCount with h | h
  · rw [floorRank_of_lt h, scaled_of_lt h]
  · obtain ⟨exponent, fraction, hfraction, hrank, hquotient, -⟩ := floorRank_of_le h
    rw [hrank, scaled_add exponent hfraction, ← hquotient]
    exact Nat.div_mul_le_self n _

theorem lt_scaled_floorRank_succ (n : Nat) : n < scaled (floorRank n + 1) := by
  rcases Nat.lt_or_ge n fractionCount with h | h
  · have hstep := scaled_succ n
    rw [floorRank_of_lt h, hstep, scaled_of_lt h]
    exact Nat.lt_add_of_pos_right (Nat.two_pow_pos _)
  · obtain ⟨exponent, fraction, hfraction, hrank, hquotient, -⟩ := floorRank_of_le h
    rw [scaled_succ, hrank, scaled_add exponent hfraction, add_div_fractionCount exponent hfraction,
      Nat.add_sub_cancel, ← hquotient]
    exact Nat.lt_div_mul_add (Nat.two_pow_pos exponent)

/-- Numbers with no more binary digits than a double has are magnitudes. -/
theorem scaled_floorRank_mul_two_pow {m : Nat} (h : m < 2 ^ 53) (exponent : Nat) :
    scaled (floorRank (m * 2 ^ exponent)) = m * 2 ^ exponent := by
  rcases Nat.lt_or_ge (m * 2 ^ exponent) fractionCount with hlt | hge
  · rw [floorRank_of_lt hlt, scaled_of_lt hlt]
  · obtain ⟨shift, fraction, hfraction, hrank, hquotient, hshift⟩ := floorRank_of_le hge
    have hne : m * 2 ^ exponent ≠ 0 := Nat.ne_of_gt (Nat.lt_of_lt_of_le fractionCount_pos hge)
    have hlog : (m * 2 ^ exponent).log2 < 53 + exponent := by
      rw [Nat.log2_lt hne, Nat.pow_add]
      exact Nat.mul_lt_mul_of_pos_right h (Nat.two_pow_pos exponent)
    have hdvd : 2 ^ shift ∣ m * 2 ^ exponent :=
      Nat.dvd_mul_left_of_dvd (Nat.pow_dvd_pow 2 (by omega)) m
    rw [hrank, scaled_add shift hfraction, ← hquotient, Nat.div_mul_cancel hdvd]

theorem floorRank_mul_two_pow_lt {m : Nat} (h : m < 2 ^ 53) (exponent : Nat) :
    floorRank (m * 2 ^ exponent) < (exponent + 2) * fractionCount := by
  have hnext : scaled ((exponent + 2) * fractionCount) = 2 ^ 53 * 2 ^ exponent := by
    have hscaled := scaled_add (exponent + 1) fractionCount_pos
    have hcount : (fractionCount + 0) * 2 = 2 ^ 53 := by
      rw [fractionCount_eq]
      decide
    rwa [Nat.add_zero ((exponent + 1 + 1) * fractionCount), Nat.pow_succ', ← Nat.mul_assoc,
      hcount] at hscaled
  refine strictMono_scaled.lt_iff_lt.1 ?_
  rw [scaled_floorRank_mul_two_pow h, hnext]
  exact Nat.mul_lt_mul_of_pos_right h (Nat.two_pow_pos exponent)

/-! ### Rounding -/

/-- Twice the middle between the magnitude of a rank and the next. -/
def middle (rank : Nat) : Nat :=
  scaled rank + scaled (rank + 1)

theorem middle_lt (h : r < s) : middle r < 2 * scaled s := by
  have hlower : scaled r < scaled s := strictMono_scaled h
  have hupper : scaled (r + 1) ≤ scaled s := strictMono_scaled.monotone h
  rw [middle]
  omega

theorem lt_middle (h : r ≤ s) : 2 * scaled r < middle s := by
  have hlower : scaled r ≤ scaled s := strictMono_scaled.monotone h
  have hupper : scaled r < scaled (s + 1) := strictMono_scaled (Nat.lt_succ_of_le h)
  rw [middle]
  omega

/-- The middle above the last magnitude with an exponent. -/
theorem middle_last (exponent : Nat) :
    middle ((exponent + 1) * fractionCount + (fractionCount - 1)) = (2 ^ 54 - 1) * 2 ^ exponent := by
  have hlt : fractionCount - 1 < fractionCount := Nat.sub_lt fractionCount_pos Nat.one_pos
  rw [middle, scaled_succ, scaled_add exponent hlt, add_div_fractionCount exponent hlt,
    Nat.add_sub_cancel, fractionCount_eq]
  omega

/-- What is above the middle beyond a rank goes further up, and so does the middle itself if the
rank is odd; but nothing goes beyond infinity. -/
theorem lt_rankOfQuotient_iff (hden : 0 < den) : r < rankOfQuotient num den ↔
    r < infinityRank ∧ (middle r * den < 2 * (num * unit) ∨
      middle r * den = 2 * (num * unit) ∧ r % 2 = 1) := by
  have hbelow : scaled (floorRank (num * unit / den)) * den ≤ num * unit :=
    (Nat.le_div_iff_mul_le hden).1 (scaled_floorRank_le _)
  have habove : num * unit < scaled (floorRank (num * unit / den) + 1) * den :=
    (Nat.div_lt_iff_lt_mul hden).1 (lt_scaled_floorRank_succ _)
  rw [rankOfQuotient, ← middle, Nat.lt_min, and_comm, and_congr_right_iff]
  intro _
  generalize floorRank (num * unit / den) = below at hbelow habove
  rcases Nat.lt_trichotomy r below with h | rfl | h
  · have hmiddle : middle r * den < 2 * scaled below * den :=
      Nat.mul_lt_mul_of_pos_right (middle_lt h) hden
    rw [Nat.mul_assoc] at hmiddle
    split_ifs <;> omega
  · split_ifs <;> omega
  · have hmiddle : 2 * scaled (below + 1) * den < middle r * den :=
      Nat.mul_lt_mul_of_pos_right (lt_middle h) hden
    rw [Nat.mul_assoc] at hmiddle
    split_ifs <;> omega

end Ranks

end RecordRules.Double
