import RecordRules.Proofs.Number.Rank
import Mathlib.Algebra.Order.Field.Rat
import Mathlib.Data.Rat.Cast.Order
import Mathlib.Tactic.FieldSimp
import Mathlib.Tactic.Linarith
import Mathlib.Tactic.NormNum
import Mathlib.Tactic.Positivity

/-!
Rational numbers as doubles. A finite double is the number that its fields say, and a number becomes
the finite double next to it, of two the one with the even fraction, or infinity if it lies beyond
half a step above the last finite double. Everything is told from the middles between magnitudes:
rounding goes beyond a rank exactly if the number lies beyond the middle above it. So rounding is
monotone, and numbers that are doubles stay what they are.
-/

namespace RecordRules.Double

/-! ### The numbers that doubles are -/

def exponent (d : Double) : Nat :=
  d.rank / 2 ^ 52

def fraction (d : Double) : Nat :=
  d.rank % 2 ^ 52

/-- The number that a finite double is. -/
def toRat (d : Double) : ℚ :=
  (if d.negative then -1 else 1) *
    if d.exponent = 0 then d.fraction * (2 : ℚ) ^ (-1074 : ℤ)
    else (2 ^ 52 + d.fraction) * (2 : ℚ) ^ ((d.exponent : ℤ) - 1075)

/-- A number may stand under that sign; zero may stand under both. -/
def FitsSign (q : ℚ) : Bool → Prop
  | true => q ≤ 0
  | false => 0 ≤ q

/-- The double that a number with that sign is rounded to. -/
structure Rounds (negative : Bool) (q : ℚ) (d : Double) : Prop where
  sign : d.negative = negative
  isFinite_iff : d.isFinite = true ↔ |q| < 2 ^ 1024 - 2 ^ 970
  nearest : d.isFinite = true → ∀ e : Double, e.isFinite = true → |q - d.toRat| ≤ |q - e.toRat|
  ties_even : d.isFinite = true → ∀ e : Double, e.isFinite = true →
    |q - e.toRat| = |q - d.toRat| → e.toRat = d.toRat ∨ d.fraction % 2 = 0

/-- The magnitude of a rank as a number. -/
def magnitude (rank : Nat) : ℚ :=
  scaled rank / unit

/-- The rank nearest to the absolute value of a number. -/
def rankOf (q : ℚ) : Nat :=
  rankOfQuotient q.num.natAbs q.den

/-- The double nearest to a number, under that sign. -/
def ofRat (negative : Bool) (q : ℚ) : Double :=
  ofQuotient negative q.num.natAbs q.den

section Magnitudes

variable {r s : Nat} {p q : ℚ}

theorem unit_cast_pos : (0 : ℚ) < unit :=
  Nat.cast_pos.2 unit_pos

theorem unit_cast : (unit : ℚ) = 2 ^ 1074 := by
  rw [unit_eq, Nat.cast_pow, Nat.cast_ofNat]

theorem magnitude_zero : magnitude 0 = 0 := by
  rw [magnitude, scaled_zero, Nat.cast_zero, zero_div]

theorem magnitude_one : magnitude 1 = 1 / 2 ^ 1074 := by
  have hone : 1 < fractionCount := by
    rw [fractionCount_eq]
    omega
  rw [magnitude, scaled_of_lt hone, unit_cast, Nat.cast_one]

theorem strictMono_magnitude : StrictMono magnitude := fun _ _ h =>
  div_lt_div_of_pos_right (Nat.cast_lt.2 (strictMono_scaled h)) unit_cast_pos

theorem magnitude_nonneg (rank : Nat) : 0 ≤ magnitude rank :=
  div_nonneg (Nat.cast_nonneg _) (Nat.cast_nonneg _)

theorem magnitude_add_eq (rank : Nat) :
    magnitude rank + magnitude (rank + 1) = middle rank / unit := by
  rw [magnitude, magnitude, middle, Nat.cast_add, add_div]

/-- Rounding goes beyond a rank exactly if the quotient is beyond the middle above it. -/
theorem lt_rankOfQuotient_iff_magnitude {num den : Nat} (hden : 0 < den) :
    r < rankOfQuotient num den ↔ r < infinityRank ∧
      (magnitude r + magnitude (r + 1) < 2 * (num / den) ∨
        magnitude r + magnitude (r + 1) = 2 * (num / den) ∧ r % 2 = 1) := by
  have hden' : (0 : ℚ) < den := Nat.cast_pos.2 hden
  have hlt : magnitude r + magnitude (r + 1) < 2 * (num / den) ↔
      middle r * den < 2 * (num * unit) := by
    rw [magnitude_add_eq, mul_div_assoc', div_lt_div_iff₀ unit_cast_pos hden', mul_assoc]
    exact_mod_cast Iff.rfl
  have heq : magnitude r + magnitude (r + 1) = 2 * (num / den) ↔
      middle r * den = 2 * (num * unit) := by
    rw [magnitude_add_eq, mul_div_assoc', div_eq_div_iff unit_cast_pos.ne' hden'.ne', mul_assoc]
    exact_mod_cast Iff.rfl
  rw [lt_rankOfQuotient_iff hden, hlt, heq]

theorem natAbs_num_div_den (q : ℚ) : (q.num.natAbs : ℚ) / q.den = |q| := by
  conv_rhs => rw [← Rat.num_div_den q]
  rw [abs_div, Nat.cast_natAbs, Int.cast_abs, Nat.abs_cast]

theorem lt_rankOf_iff : r < rankOf q ↔ r < infinityRank ∧
    (magnitude r + magnitude (r + 1) < 2 * |q| ∨
      magnitude r + magnitude (r + 1) = 2 * |q| ∧ r % 2 = 1) := by
  rw [rankOf, lt_rankOfQuotient_iff_magnitude q.den_pos, natAbs_num_div_den]

theorem rankOfQuotient_eq {num den : Nat} (hden : 0 < den) :
    rankOfQuotient num den = rankOf (num / den) := by
  refine eq_of_forall_lt_iff fun r => ?_
  have hnonneg : (0 : ℚ) ≤ num / den := div_nonneg (Nat.cast_nonneg _) (Nat.cast_nonneg _)
  rw [lt_rankOfQuotient_iff_magnitude hden, lt_rankOf_iff, abs_of_nonneg hnonneg]

theorem rankOf_le_infinityRank (q : ℚ) : rankOf q ≤ infinityRank :=
  Nat.min_le_right _ _

theorem rankOf_le_rankOf (h : |p| ≤ |q|) : rankOf p ≤ rankOf q := by
  refine le_of_forall_lt fun r hr => ?_
  obtain ⟨hfinite, hmiddle⟩ := lt_rankOf_iff.1 hr
  refine lt_rankOf_iff.2 ⟨hfinite, ?_⟩
  rcases hmiddle with hlt | ⟨heq, hodd⟩
  · exact .inl (by linarith)
  · rcases h.lt_or_eq with h | h
    · exact .inl (by linarith)
    · exact .inr ⟨h ▸ heq, hodd⟩

theorem rankOf_abs (q : ℚ) : rankOf |q| = rankOf q :=
  Nat.le_antisymm (rankOf_le_rankOf (abs_abs q).le) (rankOf_le_rankOf (abs_abs q).ge)

/-- Magnitudes have their own ranks. -/
theorem rankOf_of_abs_eq (h : |q| = magnitude r) (hr : r ≤ infinityRank) : rankOf q = r := by
  refine eq_of_forall_lt_iff fun s => ?_
  rw [lt_rankOf_iff, h]
  constructor
  · rintro ⟨-, hmiddle⟩
    by_contra hs
    have hlower := strictMono_magnitude.monotone (Nat.le_of_not_lt hs)
    have hupper := strictMono_magnitude (Nat.lt_succ_of_le (Nat.le_of_not_lt hs))
    rcases hmiddle with hlt | ⟨heq, -⟩ <;> linarith
  · intro hs
    have hlower := strictMono_magnitude hs
    have hupper := strictMono_magnitude.monotone (Nat.succ_le_of_lt hs)
    exact ⟨Nat.lt_of_lt_of_le hs hr, .inl (by linarith)⟩

/-- No finite magnitude is nearer than the one that is rounded to, and if another one is as near,
the rank is even. -/
theorem abs_sub_magnitude_le (h : rankOf q < infinityRank) (s : Nat) :
    |(|q| - magnitude (rankOf q))| ≤ |(|q| - magnitude s)| ∧
      (|(|q| - magnitude s)| = |(|q| - magnitude (rankOf q))| →
        s = rankOf q ∨ rankOf q % 2 = 0) := by
  rcases Nat.lt_trichotomy s (rankOf q) with hs | rfl | hs
  · -- the middle below the rank is passed, so everything below is farther
    obtain ⟨r, hr⟩ : ∃ r, rankOf q = r + 1 := ⟨rankOf q - 1, by omega⟩
    obtain ⟨-, hmiddle⟩ := lt_rankOf_iff.1 (show r < rankOf q by omega)
    have hle : magnitude s ≤ magnitude r := strictMono_magnitude.monotone (by omega)
    have hlt : magnitude r < magnitude (r + 1) := strictMono_magnitude (Nat.lt_succ_self r)
    have hbelow : 0 ≤ |q| - magnitude s := by rcases hmiddle with h | ⟨h, -⟩ <;> linarith
    rw [hr, abs_of_nonneg hbelow]
    rcases hmiddle with hmiddle | ⟨hmiddle, hodd⟩
    · refine ⟨abs_le.2 ⟨by linarith, by linarith⟩, fun heq => ?_⟩
      rcases abs_choice (|q| - magnitude (r + 1)) with habs | habs <;> rw [habs] at heq <;> linarith
    · exact ⟨abs_le.2 ⟨by linarith, by linarith⟩, fun _ => .inr (by omega)⟩
  · exact ⟨le_rfl, fun _ => .inl rfl⟩
  · -- the middle above the rank is not passed, so everything above is farther
    have hmiddle := mt lt_rankOf_iff.2 (Nat.lt_irrefl (rankOf q))
    rw [not_and, not_or, not_and, not_lt] at hmiddle
    obtain ⟨hmiddle, heven⟩ := hmiddle h
    have hle : magnitude (rankOf q + 1) ≤ magnitude s := strictMono_magnitude.monotone hs
    have hlt : magnitude (rankOf q) < magnitude (rankOf q + 1) :=
      strictMono_magnitude (Nat.lt_succ_self _)
    rw [abs_of_nonpos (show |q| - magnitude s ≤ 0 by linarith)]
    refine ⟨abs_le.2 ⟨by linarith, by linarith⟩, fun heq => .inr ?_⟩
    have hodd : ¬ rankOf q % 2 = 1 := by
      refine heven ?_
      rcases abs_choice (|q| - magnitude (rankOf q)) with habs | habs <;> rw [habs] at heq <;>
        linarith
    omega

/-- A magnitude between two others that are equally far is nearer. -/
theorem abs_sub_magnitude_lt {x : ℚ} {r s t : Nat} (hrt : r < t) (hts : t < s)
    (htie : |x - magnitude r| = |x - magnitude s|) : |x - magnitude t| < |x - magnitude r| := by
  have hlower := strictMono_magnitude hrt
  have hupper := strictMono_magnitude hts
  have hmiddle : 2 * x = magnitude r + magnitude s := by
    rcases abs_eq_abs.1 htie with h | h <;> linarith
  rw [abs_of_pos (show 0 < x - magnitude r by linarith)]
  exact abs_lt.2 ⟨by linarith, by linarith⟩

/-- Of the ranks that are nearest only the even one is rounded to. -/
theorem eq_rankOf_of_nearest {r : Nat} (h : rankOf q < infinityRank)
    (hr : |(|q| - magnitude r)| ≤ |(|q| - magnitude (rankOf q))|)
    (heven : r ≠ rankOf q → r % 2 = 0) : r = rankOf q := by
  have hleast := abs_sub_magnitude_le h
  have htie := le_antisymm hr (hleast r).1
  by_contra hne
  have heven' := ((hleast r).2 htie).resolve_left hne
  rcases Nat.lt_or_gt_of_ne hne with hlt | hlt
  · have hnearer := abs_sub_magnitude_lt (Nat.lt_succ_self r) (by have := heven hne; omega) htie
    exact absurd (htie ▸ hnearer) (not_lt.2 (hleast _).1)
  · have hnearer := abs_sub_magnitude_lt (Nat.lt_succ_self (rankOf q))
      (by have := heven hne; omega) htie.symm
    exact absurd hnearer (not_lt.2 (hleast _).1)

/-- Half a step above the last finite magnitude rounding arrives at infinity. -/
theorem rankOf_lt_infinityRank_iff : rankOf q < infinityRank ↔ |q| < 2 ^ 1024 - 2 ^ 970 := by
  -- the last finite rank is odd, so the middle above it goes to infinity as well
  have hodd : infinityRank - 1 < infinityRank ∧ (infinityRank - 1) % 2 = 1 := by
    rw [infinityRank, fractionCount_eq]
    omega
  have hpred : infinityRank ≤ rankOf q ↔ infinityRank - 1 < rankOf q := by omega
  have hlast : infinityRank - 1 = (2045 + 1) * fractionCount + (fractionCount - 1) := by
    rw [infinityRank, fractionCount_eq]
    omega
  have hmiddle : magnitude (infinityRank - 1) + magnitude (infinityRank - 1 + 1) =
      2 * (2 ^ 1024 - 2 ^ 970) := by
    have hlarge : (2 : ℚ) ^ 2045 = unit * (2 * 2 ^ 970) := by
      rw [unit_cast, ← pow_succ', ← pow_add]
    have hthreshold : (2 : ℚ) ^ 1024 = 2 ^ 54 * 2 ^ 970 := by
      rw [← pow_add]
    have hcancel (power : ℚ) : ((2 ^ 54 - 1 : Nat) : ℚ) * (unit * (2 * power)) / unit =
        2 * (2 ^ 54 * power - power) := by
      rw [mul_left_comm, mul_div_cancel_left₀ _ unit_cast_pos.ne']
      norm_num
      ring
    rw [magnitude_add_eq, hlast, middle_last, Nat.cast_mul, Nat.cast_pow, Nat.cast_ofNat, hlarge,
      hthreshold, hcancel]
  rw [← not_iff_not, not_lt, not_lt, hpred, lt_rankOf_iff, hmiddle, and_iff_right hodd.1,
    and_iff_left hodd.2, mul_lt_mul_iff_right₀ two_pos, mul_right_inj' two_ne_zero,
    ← le_iff_lt_or_eq]

theorem rankOf_of_large (h : 2 ^ 1024 ≤ |q|) : rankOf q = infinityRank := by
  refine Nat.le_antisymm (rankOf_le_infinityRank q) (Nat.le_of_not_lt ?_)
  rw [rankOf_lt_infinityRank_iff, not_lt]
  exact (sub_le_self _ (by positivity)).trans h

/-- Below half the first magnitude rounding arrives at zero. -/
theorem rankOf_of_small (h : 2 * |q| < 1 / 2 ^ 1074) : rankOf q = 0 := by
  refine Nat.eq_zero_of_not_pos fun hpos => ?_
  obtain ⟨-, hmiddle⟩ := lt_rankOf_iff.1 hpos
  rw [Nat.zero_add, magnitude_zero, zero_add, magnitude_one] at hmiddle
  rcases hmiddle with hlt | ⟨-, hodd⟩
  · exact lt_asymm h hlt
  · cases hodd

theorem rankOf_zero : rankOf 0 = 0 :=
  rankOf_of_abs_eq (by rw [abs_zero, magnitude_zero]) (Nat.zero_le _)

end Magnitudes

/-! ### Signs -/

section Signs

variable {negative : Bool} {q : ℚ} {d e : Double}

def signOf (negative : Bool) : ℚ :=
  if negative then -1 else 1

theorem fitsSign_decide (q : ℚ) : FitsSign q (decide (q < 0)) := by
  by_cases h : q < 0
  · rw [decide_eq_true h]
    exact h.le
  · rw [decide_eq_false h]
    exact not_lt.1 h

theorem signOf_mul_abs (h : FitsSign q negative) : signOf negative * |q| = q := by
  cases negative with
  | true => rw [abs_of_nonpos h, signOf, if_pos rfl, neg_one_mul, neg_neg]
  | false => rw [abs_of_nonneg h, signOf, if_neg Bool.false_ne_true, one_mul]

theorem abs_signOf_mul (negative : Bool) (q : ℚ) : |signOf negative * q| = |q| := by
  cases negative with
  | true => rw [signOf, if_pos rfl, neg_one_mul, abs_neg]
  | false => rw [signOf, if_neg Bool.false_ne_true, one_mul]

theorem fitsSign_signOf_mul (negative : Bool) (h : 0 ≤ q) :
    FitsSign (signOf negative * q) negative := by
  cases negative with
  | true => exact mul_nonpos_of_nonpos_of_nonneg (by decide) h
  | false => exact mul_nonneg (by decide) h

theorem toRat_eq (d : Double) : d.toRat = signOf d.negative * magnitude d.rank := by
  rw [toRat, signOf, exponent, fraction, ← fractionCount_eq, magnitude]
  congr 1
  rcases lt_or_eq_add d.rank with h | ⟨exponent, fraction, h, hrank⟩
  · rw [if_pos (Nat.div_eq_of_lt h), Nat.mod_eq_of_lt h, scaled_of_lt h, unit_cast, zpow_neg,
      div_eq_mul_inv, zpow_ofNat]
  · have hexponent : ((exponent + 1 : Nat) : ℤ) - 1075 = exponent - 1074 := by
      push_cast
      ring
    rw [hrank, add_div_fractionCount exponent h, if_neg (Nat.succ_ne_zero exponent),
      scaled_add exponent h, Nat.mul_comm, Nat.mul_add_mod, Nat.mod_eq_of_lt h, hexponent,
      zpow_sub₀ two_ne_zero, unit_cast, zpow_natCast, zpow_ofNat, fractionCount_eq, mul_div_assoc']
    push_cast
    rfl

theorem abs_toRat (d : Double) : |d.toRat| = magnitude d.rank := by
  rw [toRat_eq, abs_signOf_mul, abs_of_nonneg (magnitude_nonneg _)]

theorem fitsSign_toRat (d : Double) : FitsSign d.toRat d.negative := by
  rw [toRat_eq]
  exact fitsSign_signOf_mul _ (magnitude_nonneg _)

/-- Under one sign distances are distances of magnitudes. -/
theorem abs_sub_toRat (h : FitsSign q d.negative) :
    |q - d.toRat| = |(|q| - magnitude d.rank)| := by
  have hfactor : q - d.toRat = signOf d.negative * (|q| - magnitude d.rank) := by
    rw [mul_sub, signOf_mul_abs h, toRat_eq]
  rw [hfactor, abs_signOf_mul]

/-- Numbers of the other sign are as far as both are from zero together. -/
theorem abs_sub_toRat_of_not (h : FitsSign q (!d.negative)) :
    |q - d.toRat| = |q| + magnitude d.rank := by
  have hd := fitsSign_toRat d
  rw [sub_eq_add_neg, ← abs_toRat, ← abs_neg d.toRat, abs_add_eq_add_abs_iff]
  cases hnegative : d.negative with
  | true =>
      rw [hnegative] at h hd
      exact .inl ⟨h, neg_nonneg.2 hd⟩
  | false =>
      rw [hnegative] at h hd
      exact .inr ⟨h, neg_nonpos.2 hd⟩

/-- A double is no nearer than some magnitude under the sign of the number, and if it is as near it
is that magnitude. -/
theorem exists_abs_sub_magnitude_le (h : FitsSign q negative) (e : Double) :
    ∃ s, |(|q| - magnitude s)| ≤ |q - e.toRat| ∧
      (|(|q| - magnitude s)| = |q - e.toRat| → e.toRat = signOf negative * magnitude s) := by
  rcases Bool.eq_or_eq_not e.negative negative with hsign | hsign
  · refine ⟨e.rank, ?_, fun _ => ?_⟩
    · rw [abs_sub_toRat (hsign ▸ h)]
    · rw [toRat_eq, hsign]
  · -- from the other side zero is nearer than anything else
    refine ⟨0, ?_⟩
    rw [abs_sub_toRat_of_not (by rwa [hsign, Bool.not_not]), magnitude_zero, sub_zero, abs_abs,
      mul_zero, left_eq_add, toRat_eq]
    refine ⟨le_add_of_nonneg_right (magnitude_nonneg _), fun hzero => ?_⟩
    rw [hzero, mul_zero]

end Signs

/-! ### Rounding -/

section Rounding

variable {negative other : Bool} {p q : ℚ} {d e : Double}

theorem eq_of_rank_eq (hnegative : d.negative = e.negative) (hrank : d.rank = e.rank) : d = e := by
  cases d
  cases e
  cases hnegative
  cases hrank
  rfl

theorem isFinite_iff : d.isFinite = true ↔ d.rank < infinityRank :=
  decide_eq_true_iff

theorem fraction_mod_two (d : Double) : d.fraction % 2 = d.rank % 2 :=
  Nat.mod_mod_of_dvd d.rank (by decide)

theorem negative_ofRat (negative : Bool) (q : ℚ) : (ofRat negative q).negative = negative :=
  rfl

theorem rank_ofRat (negative : Bool) (q : ℚ) : (ofRat negative q).rank = rankOf q :=
  rfl

theorem ofQuotient_eq_ofRat {num den : Nat} (hden : 0 < den) :
    ofQuotient negative num den = ofRat negative (num / den) :=
  eq_of_rank_eq rfl (rankOfQuotient_eq hden)

theorem toRat_ofRat_eq (negative : Bool) (q : ℚ) :
    (ofRat negative q).toRat = signOf negative * magnitude (rankOf q) :=
  toRat_eq _

theorem abs_sub_toRat_ofRat (h : FitsSign q negative) :
    |q - (ofRat negative q).toRat| = |(|q| - magnitude (rankOf q))| :=
  abs_sub_toRat h

/-- A number is rounded to the double nearest to it. -/
theorem rounds_ofRat (h : FitsSign q negative) : Rounds negative q (ofRat negative q) := by
  refine ⟨rfl, isFinite_iff.trans rankOf_lt_infinityRank_iff, fun hfinite e _ => ?_,
    fun hfinite e _ htie => ?_⟩
  all_goals
    have hnearest := abs_sub_magnitude_le (isFinite_iff.1 hfinite)
    obtain ⟨s, hs, heq⟩ := exists_abs_sub_magnitude_le h e
  · rw [abs_sub_toRat_ofRat h]
    exact (hnearest s).1.trans hs
  · rw [abs_sub_toRat_ofRat h] at htie
    rw [htie] at hs heq
    -- no magnitude is nearer than the result, so the one found for `e` is as near
    have htie' := le_antisymm hs (hnearest s).1
    rcases (hnearest s).2 htie' with hrank | heven
    · left
      rw [heq htie', toRat_ofRat_eq, hrank]
    · exact .inr ((fraction_mod_two _).trans heven)

/-- What a number is rounded to is determined. -/
theorem eq_ofRat_of_rounds (hd : Rounds negative q d) (h : FitsSign q negative) :
    d = ofRat negative q := by
  have he := rounds_ofRat h
  have hfinite : d.isFinite = true ↔ (ofRat negative q).isFinite = true :=
    hd.isFinite_iff.trans he.isFinite_iff.symm
  refine eq_of_rank_eq hd.sign ?_
  by_cases hdfinite : d.isFinite = true
  · have hefinite := hfinite.1 hdfinite
    have hnearest := hd.nearest hdfinite _ hefinite
    rw [abs_sub_toRat (hd.sign ▸ h), abs_sub_toRat_ofRat h] at hnearest
    refine eq_rankOf_of_nearest (isFinite_iff.1 hefinite) hnearest fun hne => ?_
    have htie := le_antisymm hnearest (abs_sub_magnitude_le (isFinite_iff.1 hefinite) d.rank).1
    rw [← abs_sub_toRat (hd.sign ▸ h), ← abs_sub_toRat_ofRat h] at htie
    rcases hd.ties_even hdfinite _ hefinite htie.symm with hsame | heven
    · have habs := congrArg abs hsame
      rw [abs_toRat, abs_toRat, rank_ofRat] at habs
      exact absurd (strictMono_magnitude.injective habs.symm) hne
    · rwa [fraction_mod_two] at heven
  · -- beyond the threshold both are infinite
    have hefinite := mt hfinite.2 hdfinite
    rw [isFinite_iff, not_lt] at hdfinite hefinite
    exact (Nat.le_antisymm d.rank_le hdfinite).trans
      (Nat.le_antisymm hefinite (ofRat negative q).rank_le)

theorem place_ofRat (h : FitsSign q negative) :
    (ofRat negative q).place = if q < 0 then -(rankOf q : Int) else rankOf q := by
  change (if negative then -(rankOf q : Int) else rankOf q) = _
  cases negative with
  | true =>
      rcases (show q ≤ 0 from h).lt_or_eq with hlt | rfl
      · rw [if_pos rfl, if_pos hlt]
      · rw [if_pos rfl, if_neg (lt_irrefl 0), rankOf_zero]
        rfl
  | false => rw [if_neg Bool.false_ne_true, if_neg (not_lt.2 h)]

theorem le_iff_place_le : d.le e = true ↔ d.place ≤ e.place :=
  decide_eq_true_iff

/-- Rounding keeps the order. -/
theorem ofRat_le_ofRat (hp : FitsSign p negative) (hq : FitsSign q other) (h : p ≤ q) :
    (ofRat negative p).le (ofRat other q) = true := by
  rw [le_iff_place_le, place_ofRat hp, place_ofRat hq]
  split_ifs with hpneg hqneg hqneg
  · have hrank : rankOf q ≤ rankOf p := rankOf_le_rankOf (by
      rw [abs_of_neg hpneg, abs_of_neg hqneg]
      exact neg_le_neg h)
    omega
  · omega
  · exact absurd (lt_of_le_of_lt h hqneg) hpneg
  · have hrank : rankOf p ≤ rankOf q := rankOf_le_rankOf (by
      rwa [abs_of_nonneg (not_lt.1 hpneg), abs_of_nonneg (not_lt.1 hqneg)])
    omega

/-- A double is rounded to itself. -/
theorem ofRat_toRat (d : Double) : ofRat d.negative d.toRat = d :=
  eq_of_rank_eq (negative_ofRat _ _)
    ((rank_ofRat _ _).trans (rankOf_of_abs_eq (abs_toRat d) d.rank_le))

theorem natAbs_place (d : Double) : d.place.natAbs = d.rank := by
  rw [place]
  split <;> omega

theorem toRat_eq_of_place_eq (h : d.place = e.place) : d.toRat = e.toRat := by
  have hrank : d.rank = e.rank := by rw [← natAbs_place, ← natAbs_place, h]
  rw [toRat_eq, toRat_eq, hrank]
  rcases Bool.eq_or_eq_not d.negative e.negative with hsign | hsign
  · rw [hsign]
  · -- only the two zeros stand at one place
    have hzero : e.rank = 0 := by
      rw [place, place, hsign, hrank] at h
      cases hnegative : e.negative with
      | true =>
          rw [hnegative, Bool.not_true, if_neg Bool.false_ne_true, if_pos rfl] at h
          omega
      | false =>
          rw [hnegative, Bool.not_false, if_pos rfl, if_neg Bool.false_ne_true] at h
          omega
    rw [hzero, magnitude_zero, mul_zero, mul_zero]

/-- Doubles are ordered as the numbers they are. -/
theorem le_iff_toRat_le : d.le e = true ↔ d.toRat ≤ e.toRat := by
  have hmono {a b : Double} (h : a.toRat ≤ b.toRat) : a.le b = true := by
    rw [← ofRat_toRat a, ← ofRat_toRat b]
    exact ofRat_le_ofRat (fitsSign_toRat a) (fitsSign_toRat b) h
  refine ⟨fun h => le_of_not_gt fun hlt => hlt.ne ?_, hmono⟩
  exact toRat_eq_of_place_eq (le_antisymm (le_iff_place_le.1 (hmono hlt.le)) (le_iff_place_le.1 h))

/-- A number that is a double is not changed by rounding. -/
theorem toRat_ofRat (h : FitsSign q negative) (hd : d.toRat = q) :
    (ofRat negative q).toRat = q := by
  have hrank : rankOf q = d.rank := rankOf_of_abs_eq (hd ▸ abs_toRat d) d.rank_le
  rw [toRat_ofRat_eq, hrank, ← abs_toRat, hd, signOf_mul_abs h]

theorem exponent_le (h : d.isFinite = true) : d.exponent ≤ 2046 := by
  have hrank := isFinite_iff.1 h
  rw [infinityRank, fractionCount_eq] at hrank
  rw [exponent]
  omega

theorem fraction_lt (d : Double) : d.fraction < 2 ^ 52 :=
  Nat.mod_lt _ (Nat.two_pow_pos 52)

/-- Numbers with fifty-three binary digits and an exponent within the format are magnitudes. -/
theorem exists_magnitude_eq {m : Nat} {e : ℤ} (hm : m < 2 ^ 53) (hlower : -1074 ≤ e)
    (hupper : e ≤ 971) : ∃ rank < infinityRank, magnitude rank = m * 2 ^ e := by
  -- counted in units of 2^-1074 the number is a whole one
  obtain ⟨shift, hshift⟩ : ∃ shift : Nat, e + 1074 = shift := Int.eq_ofNat_of_zero_le (by omega)
  refine ⟨floorRank (m * 2 ^ shift), ?_, ?_⟩
  · refine Nat.lt_of_lt_of_le (floorRank_mul_two_pow_lt hm shift) ?_
    exact Nat.mul_le_mul_right fractionCount (by omega)
  · have he : e = shift - 1074 := by omega
    rw [magnitude, scaled_floorRank_mul_two_pow hm, unit_cast, he, zpow_sub₀ two_ne_zero,
      zpow_natCast, zpow_ofNat, mul_div_assoc']
    push_cast
    rfl

theorem exists_toRat_eq (h : d.isFinite = true) : ∃ m : Nat, ∃ e : ℤ, m < 2 ^ 53 ∧ -1074 ≤ e ∧
    e ≤ 971 ∧ d.toRat = signOf d.negative * (m * 2 ^ e) := by
  have hfraction := d.fraction_lt
  have hexponent := exponent_le h
  by_cases hzero : d.exponent = 0
  · refine ⟨d.fraction, -1074, by omega, by omega, by omega, ?_⟩
    rw [toRat, if_pos hzero, signOf]
  · refine ⟨2 ^ 52 + d.fraction, d.exponent - 1075, by omega, by omega, by omega, ?_⟩
    rw [toRat, if_neg hzero, signOf]
    push_cast
    rfl

/-- The finite doubles are the numbers with fifty-three binary digits whose exponents the format
allows. -/
theorem exists_toRat_eq_iff : (∃ d : Double, d.isFinite = true ∧ d.toRat = q) ↔
    ∃ m e : ℤ, |m| < 2 ^ 53 ∧ -1074 ≤ e ∧ e ≤ 971 ∧ q = m * 2 ^ e := by
  constructor
  · rintro ⟨d, hfinite, rfl⟩
    obtain ⟨m, e, hm, hlower, hupper, hd⟩ := exists_toRat_eq hfinite
    rw [hd, signOf]
    cases d.negative with
    | true =>
        refine ⟨-m, e, ?_, hlower, hupper, by simp⟩
        rw [abs_neg]
        exact_mod_cast hm
    | false =>
        refine ⟨m, e, by exact_mod_cast hm, hlower, hupper, ?_⟩
        simp
  · rintro ⟨m, e, hm, hlower, hupper, rfl⟩
    have hdigits : m.natAbs < 2 ^ 53 := by
      rw [Int.abs_eq_natAbs] at hm
      omega
    obtain ⟨rank, hrank, hmagnitude⟩ := exists_magnitude_eq hdigits hlower hupper
    refine ⟨⟨decide ((m : ℚ) < 0), rank, hrank.le⟩, isFinite_iff.2 hrank, ?_⟩
    have hsign := signOf_mul_abs (fitsSign_decide (m : ℚ))
    rw [toRat_eq, hmagnitude, ← mul_assoc, Nat.cast_natAbs, Int.cast_abs, hsign]

/-! ### Integers -/

theorem ofInt_eq_ofRat (i : Int) : ofInt i = ofRat (decide (i < 0)) i := by
  rw [ofInt, ofRat, Rat.num_intCast, Rat.den_intCast]

theorem fitsSign_intCast (i : Int) : FitsSign i (decide (i < 0)) := by
  simpa only [Int.cast_lt_zero] using fitsSign_decide (i : ℚ)

/-- Integers with at most fifty-three binary digits, and the next one, are doubles. -/
theorem exists_toRat_eq_intCast {i : Int} (h : i.natAbs ≤ 2 ^ 53) :
    ∃ d : Double, d.isFinite = true ∧ d.toRat = i := by
  rw [exists_toRat_eq_iff]
  rcases h.lt_or_eq with h | h
  · refine ⟨i, 0, ?_, by omega, by omega, by rw [zpow_zero, mul_one]⟩
    rw [Int.abs_eq_natAbs]
    omega
  · rcases Int.natAbs_eq_iff.1 h with rfl | rfl
    · exact ⟨1, 53, by norm_num, by omega, by omega, by norm_num⟩
    · exact ⟨-1, 53, by norm_num, by omega, by omega, by norm_num⟩

theorem ofRat_le_ofRat_iff (hp : FitsSign p negative) (hq : FitsSign q other)
    (hd : d.toRat = p) (he : e.toRat = q) :
    (ofRat negative p).le (ofRat other q) = true ↔ p ≤ q := by
  rw [le_iff_toRat_le, toRat_ofRat hp hd, toRat_ofRat hq he]

theorem le_trans {f : Double} (hde : d.le e = true) (hef : e.le f = true) : d.le f = true :=
  le_iff_place_le.2 (Int.le_trans (le_iff_place_le.1 hde) (le_iff_place_le.1 hef))

/-- Under whatever sign zero stands, comparing is comparing the rounded integers. -/
theorem ofRat_intCast_le {i j : Int} (hi : FitsSign i negative) (hj : FitsSign j other) :
    (ofRat negative i).le (ofRat other j) = (ofInt i).le (ofInt j) := by
  rw [le, le, ofInt_eq_ofRat, ofInt_eq_ofRat, place_ofRat hi, place_ofRat hj,
    place_ofRat (fitsSign_intCast i), place_ofRat (fitsSign_intCast j)]

theorem ofInt_le_ofInt {i j : Int} (h : i ≤ j) : (ofInt i).le (ofInt j) = true := by
  rw [ofInt_eq_ofRat, ofInt_eq_ofRat]
  exact ofRat_le_ofRat (fitsSign_intCast i) (fitsSign_intCast j) (Int.cast_le.2 h)

/-- Where one of two integers has at most fifty-three binary digits, rounding keeps them apart. -/
theorem ofInt_le_ofInt_iff_of_lt {i j : Int} (h : i.natAbs < 2 ^ 53 ∨ j.natAbs < 2 ^ 53) :
    (ofInt i).le (ofInt j) = true ↔ i ≤ j := by
  refine ⟨fun hle => le_of_not_gt fun hlt => ?_, ofInt_le_ofInt⟩
  -- between the two there is a step from one double to the next integer that is a double
  obtain ⟨k, hjk, hki, hk, hsucc⟩ : ∃ k : Int, j ≤ k ∧ k + 1 ≤ i ∧ k.natAbs ≤ 2 ^ 53 ∧
      (k + 1).natAbs ≤ 2 ^ 53 := by
    rcases h with h | h
    · exact ⟨i - 1, by omega, by omega, by omega, by omega⟩
    · exact ⟨j, by omega, by omega, by omega, by omega⟩
  obtain ⟨d, -, hd⟩ := exists_toRat_eq_intCast hsucc
  obtain ⟨e, -, he⟩ := exists_toRat_eq_intCast hk
  have hstep := le_trans (le_trans (ofInt_le_ofInt hki) hle) (ofInt_le_ofInt hjk)
  rw [ofInt_eq_ofRat, ofInt_eq_ofRat,
    ofRat_le_ofRat_iff (fitsSign_intCast _) (fitsSign_intCast _) hd he] at hstep
  have hback := Int.cast_le.1 hstep
  omega

/-- Rounded integers are in order if the integers are or if they become one double. -/
theorem ofInt_le_ofInt_iff {i j : Int} :
    (ofInt i).le (ofInt j) = true ↔ i ≤ j ∨ ofInt i = ofInt j := by
  constructor
  · intro h
    refine or_iff_not_imp_left.2 fun hlt => ?_
    have hback := ofInt_le_ofInt (not_le.1 hlt).le
    have hplace := le_antisymm (le_iff_place_le.1 h) (le_iff_place_le.1 hback)
    -- a negative integer is not rounded up to zero
    have hsign : decide (i < 0) = decide (j < 0) := by
      by_contra hne
      have hj : j ≤ -1 ∧ 0 ≤ i := by
        simp only [decide_eq_decide] at hne
        omega
      have hcross := le_trans (le_trans (ofInt_le_ofInt hj.2) h) (ofInt_le_ofInt hj.1)
      exact absurd ((ofInt_le_ofInt_iff_of_lt (.inl (by decide))).1 hcross) (by decide)
    refine eq_of_rank_eq hsign ?_
    rw [← natAbs_place, ← natAbs_place, hplace]
  · rintro (h | h)
    · exact ofInt_le_ofInt h
    · rw [h]
      exact le_iff_place_le.2 le_rfl

end Rounding

end RecordRules.Double
