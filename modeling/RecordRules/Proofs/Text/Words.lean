import Mathlib.Computability.RegularExpressions

/-!
Words of regular expressions over characters. A pattern is put together from characters, of which a
place allows some or all from one to another, from parts that may be missing and from parts that are
repeated. Each way to put it together comes with what its words are.
-/

namespace RecordRules.Words

def oneOf (cs : List Char) : RegularExpression Char :=
  cs.foldr (fun c rest => .char c + rest) 0

/-- One of the characters from one to another. -/
def range (first last : Char) : RegularExpression Char :=
  oneOf ((List.range' first.toNat (last.toNat + 1 - first.toNat)).map Char.ofNat)

/-- A part that may be missing. -/
def maybe (r : RegularExpression Char) : RegularExpression Char :=
  1 + r

variable {c : Char} {cs : List Char} {p q : RegularExpression Char}

theorem mem_add : cs ∈ (p + q).matches' ↔ cs ∈ p.matches' ∨ cs ∈ q.matches' :=
  Iff.rfl

theorem mem_mul : cs ∈ (p * q).matches' ↔ ∃ as ∈ p.matches', ∃ bs ∈ q.matches', as ++ bs = cs :=
  Iff.rfl

theorem mem_char : cs ∈ (RegularExpression.char c).matches' ↔ cs = [c] :=
  Iff.rfl

theorem mem_maybe : cs ∈ (maybe p).matches' ↔ cs = [] ∨ cs ∈ p.matches' :=
  Iff.rfl

/-! ### Characters -/

theorem mem_oneOf {allowed : List Char} :
    cs ∈ (oneOf allowed).matches' ↔ ∃ c ∈ allowed, cs = [c] := by
  induction allowed with
  | nil => exact iff_of_false (Language.notMem_zero cs) (by simp)
  | cons c allowed ih =>
      rw [oneOf] at ih
      simp only [oneOf, List.foldr_cons, mem_add, mem_char, ih, List.mem_cons, exists_eq_or_imp]

/-- Below the surrogates, which are no characters, a range misses nothing. -/
theorem mem_range {first last : Char} (hlast : last.toNat < 0xd800) :
    cs ∈ (range first last).matches' ↔ ∃ c, (first ≤ c ∧ c ≤ last) ∧ cs = [c] := by
  have hmem (c : Char) :
      c ∈ (List.range' first.toNat (last.toNat + 1 - first.toNat)).map Char.ofNat ↔
        first.toNat ≤ c.toNat ∧ c.toNat ≤ last.toNat := by
    rw [List.mem_map]
    constructor
    · rintro ⟨n, hn, rfl⟩
      obtain ⟨hfirst, hend⟩ := List.mem_range'_1.1 hn
      have hvalid : n.isValidChar := .inl (by omega)
      have hn : (Char.ofNat n).toNat = n := by
        rw [Char.ofNat, dif_pos hvalid]
        rfl
      omega
    · rintro ⟨hfirst, hend⟩
      exact ⟨c.toNat, List.mem_range'_1.2 (by omega), Char.ofNat_toNat c⟩
  simp only [range, mem_oneOf, hmem]
  rfl

/-! ### Repetition -/

section

variable {P : Char → Prop} (h : ∀ cs, cs ∈ p.matches' ↔ ∃ c, P c ∧ cs = [c])
include h

/-- Where a part stands for one character, its repetitions are the texts of such characters. -/
theorem mem_star_of_char : cs ∈ p.star.matches' ↔ ∀ c ∈ cs, P c := by
  rw [RegularExpression.matches'_star, Language.mem_kstar]
  constructor
  · rintro ⟨words, rfl, hwords⟩ c hc
    obtain ⟨word, hword, hc⟩ := List.mem_flatten.1 hc
    obtain ⟨d, hd, rfl⟩ := (h word).1 (hwords word hword)
    rwa [List.mem_singleton.1 hc]
  · intro hall
    refine ⟨cs.map ([·]), (List.flatMap_singleton' cs).symm, fun word hword => ?_⟩
    obtain ⟨c, hc, rfl⟩ := List.mem_map.1 hword
    exact (h [c]).2 ⟨c, hall c hc, rfl⟩

theorem mem_mul_star_of_char : cs ∈ (p * p.star).matches' ↔ cs ≠ [] ∧ ∀ c ∈ cs, P c := by
  rw [mem_mul]
  constructor
  · rintro ⟨as, has, bs, hbs, rfl⟩
    obtain ⟨c, hc, rfl⟩ := (h as).1 has
    exact ⟨List.cons_ne_nil _ _, List.forall_mem_cons.2 ⟨hc, (mem_star_of_char h).1 hbs⟩⟩
  · rintro ⟨hne, hall⟩
    cases cs with
    | nil => exact absurd rfl hne
    | cons c cs =>
        obtain ⟨hc, hcs⟩ := List.forall_mem_cons.1 hall
        exact ⟨[c], (h [c]).2 ⟨c, hc, rfl⟩, cs, (mem_star_of_char h).2 hcs, rfl⟩

end

/-- Repetitions behind a separator are pieces with the separator before each. -/
theorem mem_star_char_mul : cs ∈ (RegularExpression.char c * p).star.matches' ↔
    ∃ pieces : List (List Char), (∀ piece ∈ pieces, piece ∈ p.matches') ∧
      cs = pieces.flatMap ([c] ++ ·) := by
  rw [RegularExpression.matches'_star, Language.mem_kstar]
  constructor
  · rintro ⟨words, rfl, hwords⟩
    induction words with
    | nil => exact ⟨[], by simp, rfl⟩
    | cons word words ih =>
        obtain ⟨hword, hrest⟩ := List.forall_mem_cons.1 hwords
        obtain ⟨pieces, hpieces, hflatten⟩ := ih hrest
        obtain ⟨_, rfl, piece, hpiece, rfl⟩ := hword
        exact ⟨piece :: pieces, List.forall_mem_cons.2 ⟨hpiece, hpieces⟩, by
          rw [List.flatten_cons, hflatten, List.flatMap_cons]⟩
  · rintro ⟨pieces, hpieces, rfl⟩
    refine ⟨pieces.map ([c] ++ ·), rfl, fun word hword => ?_⟩
    obtain ⟨piece, hpiece, rfl⟩ := List.mem_map.1 hword
    exact ⟨[c], rfl, piece, hpieces piece hpiece, rfl⟩

end RecordRules.Words
