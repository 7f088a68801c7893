import RecordRules.Text.Digits
import Mathlib.Data.List.Induction
import Mathlib.Tactic.IntervalCases
import Mathlib.Tactic.Ring

/-!
Runs of digits and the numbers they write. A run is cut off whole from what follows it, and the
number it writes lies below the power of ten that its length says. Numbers in a fixed count of
digits, with zeros in front, are as long as they should be, and they write the number if it is small
enough for them.
-/

namespace RecordRules.Text

/-! ### Runs of digits -/

/-- Nothing but ASCII digits. -/
def IsDigits (cs : List Char) : Prop :=
  ∀ c ∈ cs, c.isDigit = true

instance (cs : List Char) : Decidable (IsDigits cs) :=
  decidable_of_iff (cs.all Char.isDigit = true) List.all_eq_true

section Runs

variable {c : Char} {cs ds rest : List Char}

theorem IsDigits.append (hcs : IsDigits cs) (hds : IsDigits ds) : IsDigits (cs ++ ds) :=
  fun _ hc => (List.mem_append.1 hc).elim (hcs _) (hds _)

theorem spanDigits_append (hds : IsDigits ds) (hrest : ∀ c ∈ rest.head?, c.isDigit = false) :
    spanDigits (ds ++ rest) = (ds, rest) := by
  have hnone : rest.takeWhile Char.isDigit = [] ∧ rest.dropWhile Char.isDigit = rest := by
    cases rest with
    | nil => exact ⟨rfl, rfl⟩
    | cons c rest =>
        have hc : ¬ c.isDigit = true := by simp [hrest c rfl]
        exact ⟨List.takeWhile_cons_of_neg hc, List.dropWhile_cons_of_neg hc⟩
  rw [spanDigits, List.takeWhile_append_of_pos hds, List.dropWhile_append_of_pos hds, hnone.1,
    hnone.2, List.append_nil]

theorem isDigits_spanDigits (cs : List Char) : IsDigits (spanDigits cs).1 :=
  List.all_eq_true.1 List.all_takeWhile

theorem spanDigits_fst_append_snd (cs : List Char) : (spanDigits cs).1 ++ (spanDigits cs).2 = cs :=
  List.takeWhile_append_dropWhile

theorem head?_ne_of_isDigits (hds : IsDigits ds) (hne : ds ≠ []) (hc : c.isDigit = false) :
    (ds ++ rest).head? ≠ some c := by
  cases ds with
  | nil => exact absurd rfl hne
  | cons d ds =>
      intro h
      have hd := hds d List.mem_cons_self
      rw [Option.some.inj h, hc] at hd
      cases hd

theorem digitValue_lt (h : c.isDigit = true) : digitValue c < 10 := by
  have hrange : 48 ≤ c.toNat ∧ c.toNat ≤ 57 := Char.isDigit_iff_toNat.1 h
  rw [digitValue]
  omega

theorem natOfDigits_concat (cs : List Char) (c : Char) :
    natOfDigits (cs ++ [c]) = 10 * natOfDigits cs + digitValue c := by
  simp [natOfDigits, ofDigits]

theorem natOfDigits_append (cs ds : List Char) :
    natOfDigits (cs ++ ds) = natOfDigits cs * 10 ^ ds.length + natOfDigits ds := by
  induction ds using List.reverseRecOn with
  | nil => simp [natOfDigits, ofDigits]
  | append_singleton ds d ih =>
      rw [← List.append_assoc, natOfDigits_concat, ih, natOfDigits_concat, List.length_append,
        List.length_singleton, Nat.pow_succ]
      ring

theorem natOfDigits_eq_ofDigitChars (cs : List Char) :
    natOfDigits cs = Nat.ofDigitChars 10 cs 0 := by
  rw [natOfDigits, ofDigits, List.foldl_map, Nat.ofDigitChars_eq_foldl]
  rfl

theorem natOfDigits_toDigits (n : Nat) : natOfDigits (Nat.toDigits 10 n) = n := by
  rw [natOfDigits_eq_ofDigitChars, Nat.ofDigitChars_ten_toDigits]

theorem isDigits_toDigits (n : Nat) : IsDigits (Nat.toDigits 10 n) :=
  fun _ hc => Nat.isDigit_of_mem_toDigits (by decide) (by decide) hc

theorem natOfDigits_lt (h : IsDigits cs) : natOfDigits cs < 10 ^ cs.length := by
  induction cs using List.reverseRecOn with
  | nil => exact Nat.one_pos
  | append_singleton cs c ih =>
      have hcs := ih fun d hd => h d (List.mem_append_left _ hd)
      have hc := digitValue_lt (h c (by simp))
      rw [natOfDigits_concat, List.length_append, List.length_singleton, Nat.pow_succ]
      omega

theorem natOfDigits_dropWhile_zero (cs : List Char) :
    natOfDigits (cs.dropWhile (· == '0')) = natOfDigits cs := by
  induction cs with
  | nil => rfl
  | cons c cs ih =>
      rw [List.dropWhile_cons]
      split
      next hc =>
        have hzero : natOfDigits [c] = 0 := by
          rw [eq_of_beq hc]
          rfl
        rw [ih, ← List.singleton_append, natOfDigits_append, hzero, Nat.zero_mul, Nat.zero_add]
      next => rfl

theorem pow_le_natOfDigits_cons (h : c.isDigit = true) (hc : c ≠ '0') (cs : List Char) :
    10 ^ cs.length ≤ natOfDigits (c :: cs) := by
  have hvalue : 1 ≤ natOfDigits [c] := by
    have hrange : 48 ≤ c.toNat ∧ c.toNat ≤ 57 := Char.isDigit_iff_toNat.1 h
    have hne : c.toNat ≠ 48 := fun heq => hc (Char.toNat_inj.1 heq)
    simp [natOfDigits, ofDigits, digitValue]
    omega
  rw [← List.singleton_append, natOfDigits_append]
  exact Nat.le_add_right_of_le (Nat.le_mul_of_pos_left _ hvalue)

end Runs

/-! ### Numbers in a fixed count of digits -/

/-- The last digits of a number, as many as `width`. -/
def lastDigits : Nat → Nat → List Char
  | 0, _ => []
  | width + 1, n => lastDigits width (n / 10) ++ [Nat.digitChar (n % 10)]

theorem digitValue_digitChar {d : Nat} (h : d < 10) : digitValue (Nat.digitChar d) = d := by
  interval_cases d <;> rfl

@[simp] theorem length_lastDigits (width n : Nat) : (lastDigits width n).length = width := by
  induction width generalizing n with
  | zero => rfl
  | succ width ih => simp [lastDigits, ih]

theorem isDigit_of_mem_lastDigits {width n : Nat} {c : Char} (h : c ∈ lastDigits width n) :
    c.isDigit = true := by
  induction width generalizing n with
  | zero => cases h
  | succ width ih =>
      rcases List.mem_append.1 h with h | h
      · exact ih h
      · rw [List.mem_singleton.1 h]
        exact Nat.isDigit_digitChar.trans (decide_eq_true (Nat.mod_lt n (by decide)))

theorem natOfDigits_lastDigits {width n : Nat} (h : n < 10 ^ width) :
    natOfDigits (lastDigits width n) = n := by
  induction width generalizing n with
  | zero =>
      rw [Nat.pow_zero] at h
      rw [Nat.lt_one_iff.1 h]
      rfl
  | succ width ih =>
      have hfront : n / 10 < 10 ^ width := by
        rw [Nat.pow_succ] at h
        omega
      rw [lastDigits, natOfDigits_concat, ih hfront,
        digitValue_digitChar (Nat.mod_lt n (by decide)), Nat.div_add_mod]

end RecordRules.Text
