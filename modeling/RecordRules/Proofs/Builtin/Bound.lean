import RecordRules.Builtin.Objection
import RecordRules.Proofs.Number.Numeral

/-!
The rules with a bound, in terms of the numbers that values and bounds are. Both are rounded before
they are compared. Rounding keeps the order, so a value within its bound is never objected to. It
also makes neighbours one, so a value a little beyond a bound may pass. Among integers this takes
more than fifty-three binary digits on both sides, and lengths never have so many.
-/

namespace RecordRules

/-! ### The numbers that are meant -/

/-- The text writes the number, with blanks around it allowed. -/
def Numeral.Writes (s : String) (q : ℚ) : Prop :=
  ∃ w : Writing, w.text = Text.trim s.toList ∧ w.value = q

/-- The value is numeric, and it is this number exactly. -/
inductive Value.Denotes : Value → ℚ → Prop
  | integer (n : WholeNumber) : Denotes (.integer n) n.value
  | double {d : Double} (finite : d.isFinite = true) : Denotes (.double d) d.toRat
  | string {s : String} {q : ℚ} (writes : Numeral.Writes s q) : Denotes (.string s) q

section Numbers

variable {s : String} {p q : ℚ} {v : Value}

/-- A text writes one number at most. -/
theorem Numeral.Writes.unique (hp : Writes s p) (hq : Writes s q) : p = q := by
  obtain ⟨w, hw, rfl⟩ := hp
  obtain ⟨w', hw', rfl⟩ := hq
  have hread := ofChars?_text w
  rw [hw, ← hw', ofChars?_text w'] at hread
  rw [← w.value_numeral, ← w'.value_numeral, Option.some.inj hread]

/-- An integer is written by its decimal digits. -/
theorem Numeral.writes_decimalInt (i : Int) : Writes (Text.decimalInt i) i := by
  let w : Writing :=
    { sign := if i < 0 then .minus else .absent
      whole := Nat.toDigits 10 i.natAbs
      fraction := none
      exponent := none
      whole_isDigits := Text.isDigits_toDigits i.natAbs
      fraction_isDigits := by simp
      ne_nil := by simp }
  have htext : (Text.decimalInt i).toList = w.text := by
    rw [Text.decimalInt]
    split <;> simp [w, Text.decimal, Writing.text, Sign.text, Writing.fractionText,
      Writing.exponentText, *]
  have hsize : w.value = Double.signOf (decide (i < 0)) * |(i : ℚ)| := by
    have hsign : w.sign.isMinus = decide (i < 0) := by
      by_cases h : i < 0 <;> simp [w, h, Sign.isMinus]
    have hpower : w.power = 0 := rfl
    have hdecimals : w.decimals = [] := rfl
    have hzero : Text.natOfDigits [] = 0 := rfl
    rw [Writing.value, hsign, hpower, hdecimals, hzero, Text.natOfDigits_toDigits, Nat.cast_natAbs]
    simp
  refine ⟨w, by rw [htext, w.trim_text], ?_⟩
  rw [hsize, Double.signOf_mul_abs (Double.fitsSign_intCast i)]

theorem Value.Denotes.unique (hp : v.Denotes p) (hq : v.Denotes q) : p = q := by
  cases hp with
  | integer | double => cases hq; rfl
  | string hp =>
      cases hq with
      | string hq => exact hp.unique hq

theorem exists_numberOfText? (h : Numeral.Writes s q) : ∃ negative, Double.FitsSign q negative ∧
    numberOfText? s = some (.ofRat negative q) := by
  obtain ⟨w, hw, rfl⟩ := h
  exact ⟨w.sign.isMinus, w.fitsSign_value, numberOfText?_of_text hw⟩

/-- Whatever a number is given as, it is rounded. -/
theorem Value.exists_number? (h : v.Denotes q) : ∃ negative, Double.FitsSign q negative ∧
    v.number? = some (.ofRat negative q) := by
  cases h with
  | integer n => exact ⟨_, Double.fitsSign_intCast n.value, by rw [number?, Double.ofInt_eq_ofRat]⟩
  | @double d hfinite => exact ⟨_, d.fitsSign_toRat, by rw [number?, d.ofRat_toRat]⟩
  | string h => exact exists_numberOfText? h

end Numbers

namespace Builtin

/-! ### What passes -/

section Passing

variable {rule : Builtin} {field s raw : String} {value : Value} {complaint : String → Message}
variable {within : Double → Double → Bool}
variable {number bound : Double} {v b : ℚ}

theorem bound?_some (h : numberOfText? raw = some bound) :
    bound? (some raw) = some (bound, raw) := by
  rw [bound?, Option.bind_some, h, Option.map_some]

theorem ifNot_eq_none {m : Message} {passed : Bool} : m.ifNot passed = none ↔ passed = true := by
  cases passed <;> simp [Message.ifNot]

theorem boundObjection?_eq_none (hnumber : value.number? = some number)
    (hbound : numberOfText? raw = some bound) :
    boundObjection? rule field value (some raw) within complaint = none ↔
      within number bound = true := by
  rw [boundObjection?, hnumber, bound?_some hbound]
  exact ifNot_eq_none

theorem lengthObjection?_eq_none (hbound : numberOfText? raw = some bound) :
    lengthObjection? rule field (.string s) (some raw) within complaint = none ↔
      within (Double.ofInt s.toList.length) bound = true := by
  rw [lengthObjection?, bound?_some hbound]
  exact ifNot_eq_none

/-- The bounds of a number compare it with the bound, both rounded. -/
theorem min_max_eq_none (isFile : String → Bool) (field : String) (hvalue : value.Denotes v)
    (hbound : Numeral.Writes raw b) :
    ∃ negative other, Double.FitsSign v negative ∧ Double.FitsSign b other ∧
      (min.objection? isFile field value (some raw) = none ↔
        (Double.ofRat other b).le (.ofRat negative v) = true) ∧
      (max.objection? isFile field value (some raw) = none ↔
        (Double.ofRat negative v).le (.ofRat other b) = true) := by
  obtain ⟨negative, hv, hnumber⟩ := Value.exists_number? hvalue
  obtain ⟨other, hb, hraw⟩ := exists_numberOfText? hbound
  exact ⟨negative, other, hv, hb, boundObjection?_eq_none hnumber hraw,
    boundObjection?_eq_none hnumber hraw⟩

/-- The bounds of a length compare it with the bound, both rounded. -/
theorem minLength_maxLength_eq_none (isFile : String → Bool) (field s : String)
    (hbound : Numeral.Writes raw b) :
    ∃ other, Double.FitsSign b other ∧
      (minLength.objection? isFile field (.string s) (some raw) = none ↔
        (Double.ofRat other b).le (.ofInt s.toList.length) = true) ∧
      (maxLength.objection? isFile field (.string s) (some raw) = none ↔
        (Double.ofInt s.toList.length).le (.ofRat other b) = true) := by
  obtain ⟨other, hb, hraw⟩ := exists_numberOfText? hbound
  refine ⟨other, hb, ?_, ?_⟩ <;> rw [objection?, lengthObjection?_eq_none hraw]

end Passing

/-! ### Exactness -/

/-- Integers within their bound pass, and an integer beyond it passes only where rounding makes the
two one; that cannot be if one of them has at most fifty-three binary digits. -/
theorem min_max_compare_integers (isFile : String → Bool) (field raw : String) (value : Value)
    (n p : Int) (hvalue : value.Denotes n) (hbound : Numeral.Writes raw p) :
    (min.objection? isFile field value (some raw) = none ↔
      p ≤ n ∨ Double.ofInt p = Double.ofInt n) ∧
    (max.objection? isFile field value (some raw) = none ↔
      n ≤ p ∨ Double.ofInt n = Double.ofInt p) ∧
    (n.natAbs < 2 ^ 53 ∨ p.natAbs < 2 ^ 53 →
      (min.objection? isFile field value (some raw) = none ↔ p ≤ n) ∧
      (max.objection? isFile field value (some raw) = none ↔ n ≤ p)) := by
  obtain ⟨negative, other, hn, hp, hmin, hmax⟩ := min_max_eq_none isFile field hvalue hbound
  rw [Double.ofRat_intCast_le hp hn] at hmin
  rw [Double.ofRat_intCast_le hn hp] at hmax
  rw [hmin, hmax]
  exact ⟨Double.ofInt_le_ofInt_iff, Double.ofInt_le_ofInt_iff, fun h =>
    ⟨Double.ofInt_le_ofInt_iff_of_lt h.symm, Double.ofInt_le_ofInt_iff_of_lt h⟩⟩

/-- The greatest integer of a value is at least 255 and not at most 255. -/
theorem min_max_compare_integers_of_greatest :
    min.objection? (fun _ => false) "n" (.string "18446744073709551615") (some "255") = none ∧
      max.objection? (fun _ => false) "n" (.string "18446744073709551615") (some "255") ≠ none := by
  have hvalue : (Value.string "18446744073709551615").Denotes (18446744073709551615 : Int) :=
    .string (Numeral.writes_decimalInt 18446744073709551615)
  have hexact := (min_max_compare_integers (fun _ => false) "n" "255" _ _ 255 hvalue
    (Numeral.writes_decimalInt 255)).2.2 (.inr (by decide))
  exact ⟨hexact.1.2 (by decide), fun h => absurd (hexact.2.1 h) (by decide)⟩

/-- The integer 2^53 passes the next one as its minimum, however the two are written. -/
theorem not_min_max_exact : ¬ ∀ (isFile : String → Bool) (field : String) (n : WholeNumber)
    (p : Int) (value : Value), value = .integer n ∨ value = .string (Text.decimalInt n.value) →
    (min.objection? isFile field value (some (Text.decimalInt p)) = none ↔ p ≤ n.value) ∧
    (max.objection? isFile field value (some (Text.decimalInt p)) = none ↔ n.value ≤ p) := by
  intro h
  have hpasses : min.objection? (fun _ => false) "n"
      (.integer ⟨9007199254740992, by decide, by decide⟩)
      (some (Text.decimalInt 9007199254740993)) = none := by decide +kernel
  exact absurd ((h _ _ _ _ _ (.inl rfl)).1.1 hpasses) (by decide)

/-- A number within its bound is not objected to, however large the two are. So of a minimum and a
maximum with one bound at least one lets a number pass. -/
theorem min_max_pass_within (isFile : String → Bool) (field raw : String) (value : Value) (v b : ℚ)
    (hvalue : value.Denotes v) (hbound : Numeral.Writes raw b) :
    (b ≤ v → min.objection? isFile field value (some raw) = none) ∧
    (v ≤ b → max.objection? isFile field value (some raw) = none) ∧
    (min.objection? isFile field value (some raw) = none ∨
      max.objection? isFile field value (some raw) = none) := by
  obtain ⟨negative, other, hv, hb, hmin, hmax⟩ := min_max_eq_none isFile field hvalue hbound
  have hlower (h : b ≤ v) := hmin.2 (Double.ofRat_le_ofRat hb hv h)
  have hupper (h : v ≤ b) := hmax.2 (Double.ofRat_le_ofRat hv hb h)
  exact ⟨hlower, hupper, (le_total b v).imp hlower hupper⟩

/-- An integer too large for a double passes a larger one as its maximum. -/
theorem min_max_pass_within_of_large :
    max.objection? (fun _ => false) "n" (.string (Text.decimalInt (10 ^ 400)))
      (some (Text.decimalInt (10 ^ 401))) = none := by
  have hle : (10 : Int) ^ 400 ≤ 10 ^ 401 := pow_le_pow_right₀ (by decide) (by decide)
  exact (min_max_pass_within _ _ _ _ _ _ (.string (Numeral.writes_decimalInt (10 ^ 400)))
    (Numeral.writes_decimalInt (10 ^ 401))).2.1 (Int.cast_le.2 hle)

/-- Lengths are compared exactly with every integer, in whatever way the bound is written. -/
theorem minLength_maxLength_exact (isFile : String → Bool) (field s raw : String) (n : Int)
    (hlength : s.toList.length < 2 ^ 53) (hbound : Numeral.Writes raw n) :
    (minLength.objection? isFile field (.string s) (some raw) = none ↔ n ≤ s.toList.length) ∧
    (maxLength.objection? isFile field (.string s) (some raw) = none ↔ s.toList.length ≤ n) := by
  obtain ⟨other, hn, hmin, hmax⟩ := minLength_maxLength_eq_none isFile field s hbound
  have hfits := Double.fitsSign_intCast s.toList.length
  rw [Double.ofInt_eq_ofRat, Double.ofRat_intCast_le hn hfits] at hmin
  rw [Double.ofInt_eq_ofRat, Double.ofRat_intCast_le hfits hn] at hmax
  rw [hmin, hmax]
  exact ⟨Double.ofInt_le_ofInt_iff_of_lt (.inr hlength),
    Double.ofInt_le_ofInt_iff_of_lt (.inl hlength)⟩

/-- Two characters are no fewer and no more than `0.2e1`. -/
theorem minLength_maxLength_exact_of_two :
    minLength.objection? (fun _ => false) "name" (.string "né") (some " +0.2e1") = none ∧
      maxLength.objection? (fun _ => false) "name" (.string "né") (some " +0.2e1") = none := by
  let w : Numeral.Writing :=
    { sign := .plus
      whole := ['0']
      fraction := some ['2']
      exponent := some ⟨'e', .absent, ['1'], by decide, by decide, by decide⟩
      whole_isDigits := by decide
      fraction_isDigits := by simpa using (by decide : Text.IsDigits ['2'])
      ne_nil := by decide }
  have hvalue : w.value = (2 : Int) := by
    have hwhole : Text.natOfDigits ['0'] = 0 := rfl
    have hdecimals : Text.natOfDigits ['2'] = 2 := rfl
    have hpower : w.power = 1 := rfl
    rw [Numeral.Writing.value, Numeral.Writing.decimals, hpower]
    norm_num [w, hwhole, hdecimals, Numeral.Sign.isMinus, Double.signOf]
  have hexact := minLength_maxLength_exact (fun _ => false) "name" "né" " +0.2e1" 2 (by decide)
    ⟨w, by decide, hvalue⟩
  exact ⟨hexact.1.2 (by decide), hexact.2.2 (by decide)⟩

end Builtin

end RecordRules
