import RecordRules.Proofs.Text.Trimmed
import RecordRules.Text.Letters

/-!
Small letters. To make the letters of a text small changes no blank and no separator, so a text can
be trimmed before or after, and names that are the same but for letter case have the same trimmed
names and the same separators in them.
-/

namespace RecordRules.Text

/-! ### Characters -/

theorem toNat_toLower (c : Char) :
    c.toLower.toNat = if 65 ≤ c.toNat ∧ c.toNat ≤ 90 then c.toNat + 32 else c.toNat := by
  unfold Char.toLower
  split
  next h =>
    have hle : c.val.toNat ≤ 90 := h.2
    have hcapital : 65 ≤ c.toNat ∧ c.toNat ≤ 90 := h
    have hgap : (32 : UInt32).toNat = 32 := rfl
    rw [if_pos hcapital]
    change (c.val + 32).toNat = c.val.toNat + 32
    rw [UInt32.toNat_add]
    omega
  next h =>
    have hother : ¬ (65 ≤ c.toNat ∧ c.toNat ≤ 90) := h
    rw [if_neg hother]

theorem toLower_toLower (c : Char) : c.toLower.toLower = c.toLower := by
  rw [← Char.toNat_inj, toNat_toLower c.toLower, toNat_toLower c]
  by_cases hcapital : 65 ≤ c.toNat ∧ c.toNat ≤ 90
  · rw [if_pos hcapital, if_neg (by omega)]
  · rw [if_neg hcapital, if_neg hcapital]

theorem isBlank_toLower (c : Char) : isBlank c.toLower = isBlank c := by
  simp only [isBlank, toNat_toLower]
  split
  · -- neither a capital nor its small letter is in one of the ranges of blanks
    rw [Bool.eq_iff_iff]
    simp only [Bool.or_eq_true, Bool.and_eq_true, decide_eq_true_eq, beq_iff_eq]
    omega
  · rfl

theorem isAlphanum_iff_toNat {c : Char} : c.isAlphanum = true ↔
    (97 ≤ c.toNat ∧ c.toNat ≤ 122) ∨ (65 ≤ c.toNat ∧ c.toNat ≤ 90) ∨
      (48 ≤ c.toNat ∧ c.toNat ≤ 57) := by
  have hupper : c.isUpper = true ↔ 65 ≤ c.toNat ∧ c.toNat ≤ 90 := decide_eq_true_iff
  have hlower : c.isLower = true ↔ 97 ≤ c.toNat ∧ c.toNat ≤ 122 :=
    Bool.and_eq_true_iff.trans (and_congr decide_eq_true_iff decide_eq_true_iff)
  have hdigit : c.isDigit = true ↔ 48 ≤ c.toNat ∧ c.toNat ≤ 57 := Char.isDigit_iff_toNat
  have hsplit : c.isAlphanum = (c.isUpper || c.isLower || c.isDigit) := rfl
  rw [hsplit, Bool.or_eq_true, Bool.or_eq_true, hupper, hlower, hdigit, or_assoc, or_left_comm]

/-- Letters and digits of ASCII are no blanks. -/
theorem isBlank_eq_false_of_isAlphanum {c : Char} (h : c.isAlphanum = true) :
    isBlank c = false := by
  have hrange := isAlphanum_iff_toNat.1 h
  rw [← Bool.not_eq_true]
  simp only [isBlank, Bool.or_eq_true, Bool.and_eq_true, decide_eq_true_eq, beq_iff_eq]
  omega

/-- Characters before the capitals are no small letters of others. -/
theorem toLower_eq_iff {c sep : Char} (h : sep.toNat < 65) : c.toLower = sep ↔ c = sep := by
  rw [← Char.toNat_inj, ← Char.toNat_inj, toNat_toLower]
  split <;> omega

/-! ### Texts -/

theorem mem_map_toLower {cs : List Char} {sep : Char} (h : sep.toNat < 65) :
    sep ∈ cs.map Char.toLower ↔ sep ∈ cs := by
  simp [List.mem_map, toLower_eq_iff h]

theorem dropWhile_isBlank_map_toLower (cs : List Char) :
    (cs.map Char.toLower).dropWhile isBlank = (cs.dropWhile isBlank).map Char.toLower := by
  have hblank : isBlank ∘ Char.toLower = isBlank := funext isBlank_toLower
  rw [List.dropWhile_map, hblank]

theorem trim_map_toLower (cs : List Char) :
    trim (cs.map Char.toLower) = (trim cs).map Char.toLower := by
  simp only [trim, trimRight, dropWhile_isBlank_map_toLower, ← List.map_reverse]

@[simp] theorem lowerCase_lowerCase (s : String) : lowerCase (lowerCase s) = lowerCase s := by
  have hsmall : Char.toLower ∘ Char.toLower = Char.toLower := funext toLower_toLower
  rw [lowerCase, toList_lowerCase, List.map_map, hsmall, lowerCase]

@[simp] theorem lowerCase_eq_empty_iff {s : String} : lowerCase s = "" ↔ s = "" := by
  rw [← String.toList_inj, toList_lowerCase, ← String.toList_inj]
  simp

@[simp] theorem sameLetters_lowerCase (a b : String) :
    sameLetters (lowerCase a) b = sameLetters a b := by
  rw [sameLetters, sameLetters, lowerCase_lowerCase]

theorem allBlank_of_sameLetters {a b : String} (h : sameLetters a b = true) :
    allBlank a.toList = allBlank b.toList := by
  have hsmall (s : String) : allBlank (lowerCase s).toList = allBlank s.toList := by
    simp [allBlank, List.all_map, Function.comp_def, isBlank_toLower]
  rw [← hsmall a, sameLetters_iff.1 h, hsmall b]

theorem lowerCase_trim (s : String) :
    lowerCase (String.ofList (trim s.toList)) = String.ofList (trim (lowerCase s).toList) := by
  rw [lowerCase, String.toList_ofList, toList_lowerCase, trim_map_toLower]

theorem notMem_of_sameLetters {a b : String} {sep : Char} (h : sameLetters a b = true)
    (hsep : sep.toNat < 65) (ha : sep ∉ a.toList) : sep ∉ b.toList := by
  rw [← mem_map_toLower hsep, ← toList_lowerCase] at ha ⊢
  rwa [← sameLetters_iff.1 h]

end RecordRules.Text
