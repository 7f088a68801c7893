import RecordRules.Text.Blank
import Mathlib.Data.List.DropRight

/-!
Trimmed texts have no blank at either end. Trimming makes them and leaves them alone, and it leaves
nothing of a text exactly if the text is nothing but blanks. More blanks around a text make no
difference. Around a separator that is no blank, trimming works on either side alone.
-/

namespace RecordRules.Text

/-- No blank stands at either end. -/
def Trimmed (cs : List Char) : Prop :=
  (∀ c ∈ cs.head?, isBlank c = false) ∧ ∀ c ∈ cs.getLast?, isBlank c = false

instance (cs : List Char) : Decidable (Trimmed cs) :=
  decidable_of_iff (cs.head?.any isBlank = false ∧ cs.getLast?.any isBlank = false)
    (and_congr (Option.any_eq_false _ _) (Option.any_eq_false _ _))

theorem dropWhile_isBlank_eq_self {cs : List Char} (h : ∀ c ∈ cs.head?, isBlank c = false) :
    cs.dropWhile isBlank = cs := by
  cases cs with
  | nil => rfl
  | cons c cs =>
      have hc : isBlank c = false := h c rfl
      rw [List.dropWhile_cons, hc]
      rfl

theorem trimRight_eq_self {cs : List Char} (h : ∀ c ∈ cs.getLast?, isBlank c = false) :
    trimRight cs = cs := by
  have hrev : cs.reverse.dropWhile isBlank = cs.reverse := by
    apply dropWhile_isBlank_eq_self
    rwa [List.head?_reverse]
  rw [trimRight, hrev, List.reverse_reverse]

theorem trim_eq_self {cs : List Char} (h : Trimmed cs) : trim cs = cs := by
  rw [trim, dropWhile_isBlank_eq_self h.1, trimRight_eq_self h.2]

theorem trim_eq_self_of_forall {cs : List Char} (h : ∀ c ∈ cs, isBlank c = false) :
    trim cs = cs :=
  trim_eq_self ⟨fun c hc => h c (List.mem_of_mem_head? hc),
    fun c hc => h c (List.mem_of_mem_getLast? hc)⟩

theorem isBlank_of_isDigit {c : Char} (h : c.isDigit = true) : isBlank c = false := by
  have hrange : 48 ≤ c.toNat ∧ c.toNat ≤ 57 := Char.isDigit_iff_toNat.1 h
  simp [isBlank]
  omega

theorem trimRight_eq_nil_iff {cs : List Char} :
    trimRight cs = [] ↔ ∀ c ∈ cs, isBlank c = true := by
  rw [trimRight, List.reverse_eq_nil_iff, List.dropWhile_eq_nil_iff]
  simp only [List.mem_reverse]

theorem trim_eq_nil_iff {cs : List Char} : trim cs = [] ↔ allBlank cs = true := by
  rw [trim, trimRight_eq_nil_iff, allBlank, List.all_eq_true]
  constructor
  · intro h
    -- what is left starts with no blank, so if it is all blanks it is empty
    have hnil : cs.dropWhile isBlank = [] := by
      cases hs : cs.dropWhile isBlank with
      | nil => rfl
      | cons c rest =>
          have hc : isBlank c = true := h c (hs ▸ List.mem_cons_self)
          have hhead := List.head_dropWhile_not isBlank (l := cs) (by simp [hs])
          simp [hs, hc] at hhead
    exact List.dropWhile_eq_nil_iff.1 hnil
  · intro h
    rw [List.dropWhile_eq_nil_iff.2 h]
    simp

theorem mem_of_mem_trim {c : Char} {cs : List Char} (h : c ∈ trim cs) : c ∈ cs := by
  rw [trim, trimRight, List.mem_reverse] at h
  have hleft := (List.dropWhile_sublist isBlank).mem h
  exact (List.dropWhile_sublist isBlank).mem (List.mem_reverse.1 hleft)

theorem isBlank_of_mem_head?_dropWhile {c : Char} {cs : List Char}
    (h : c ∈ (cs.dropWhile isBlank).head?) : isBlank c = false := by
  have hhead := List.head?_dropWhile_not isBlank cs
  rwa [Option.mem_def.1 h] at hhead

/-- What is left by trimming is trimmed. -/
theorem trimmed_trim (cs : List Char) : Trimmed (trim cs) := by
  refine ⟨fun c hc => ?_, fun c hc => ?_⟩
  · -- what is taken away at the end leaves the beginning as it is
    obtain ⟨rest, hrest⟩ : trim cs <+: cs.dropWhile isBlank := List.rdropWhile_prefix isBlank _
    have hleft : c ∈ (cs.dropWhile isBlank).head? := by
      rw [← hrest, List.head?_append, Option.mem_def.1 hc]
      rfl
    exact isBlank_of_mem_head?_dropWhile hleft
  · rw [trim, trimRight, List.getLast?_reverse] at hc
    exact isBlank_of_mem_head?_dropWhile hc

/-! ### Around a separator -/

theorem dropWhile_isBlank_append_cons {sep : Char} (h : isBlank sep = false)
    (before after : List Char) :
    (before ++ sep :: after).dropWhile isBlank = before.dropWhile isBlank ++ sep :: after := by
  rw [List.dropWhile_append]
  split
  next hempty => rw [List.isEmpty_iff.1 hempty, List.dropWhile_cons, h]; rfl
  next => rfl

theorem trimRight_append_cons {sep : Char} (h : isBlank sep = false) (before after : List Char) :
    trimRight (before ++ sep :: after) = before ++ sep :: trimRight after := by
  have hrev : (before ++ sep :: after).reverse = after.reverse ++ sep :: before.reverse := by simp
  rw [trimRight, hrev, dropWhile_isBlank_append_cons h, trimRight]
  simp

theorem trim_append_cons {sep : Char} (h : isBlank sep = false) (before after : List Char) :
    trim (before ++ sep :: after) = before.dropWhile isBlank ++ sep :: trimRight after := by
  rw [trim, dropWhile_isBlank_append_cons h, trimRight_append_cons h]

theorem trim_dropWhile_isBlank (cs : List Char) : trim (cs.dropWhile isBlank) = trim cs := by
  rw [trim, List.dropWhile_idempotent, trim]

theorem trim_trimRight (cs : List Char) : trim (trimRight cs) = trim cs := by
  cases hrest : cs.dropWhile isBlank with
  | nil =>
      have hblank := List.dropWhile_eq_nil_iff.1 hrest
      rw [trimRight_eq_nil_iff.2 hblank, trim_eq_nil_iff.2 (List.all_eq_true.2 hblank)]
      rfl
  | cons c rest =>
      -- the text is cut at its first character that is no blank
      have hc : isBlank c = false := by
        have hhead := List.head_dropWhile_not isBlank (l := cs) (by simp [hrest])
        simpa [hrest] using hhead
      have hcut : cs = cs.takeWhile isBlank ++ c :: rest := by
        rw [← hrest, List.takeWhile_append_dropWhile]
      have htwice : trimRight (trimRight rest) = trimRight rest := by
        rw [trimRight, trimRight, List.reverse_reverse, List.dropWhile_idempotent]
      rw [hcut, trimRight_append_cons hc, trim_append_cons hc, trim_append_cons hc, htwice]

theorem trimRight_append_of_allBlank {cs after : List Char} (h : allBlank after = true) :
    trimRight (cs ++ after) = trimRight cs := by
  rw [trimRight, List.reverse_append, List.dropWhile_append_of_pos, trimRight]
  exact fun c hc => List.all_eq_true.1 h c (List.mem_reverse.1 hc)

/-- Blanks around a text are nothing to what is left by trimming. -/
theorem trim_append_append {before after : List Char} (hb : allBlank before = true)
    (ha : allBlank after = true) (cs : List Char) : trim (before ++ cs ++ after) = trim cs := by
  rw [← trim_trimRight, trimRight_append_of_allBlank ha, trim_trimRight, ← trim_dropWhile_isBlank,
    List.dropWhile_append_of_pos (List.all_eq_true.1 hb), trim_dropWhile_isBlank]

/-- A separator that is no blank joins trimmed texts to a trimmed text. -/
theorem trimmed_append_cons {before after : List Char} {sep : Char} (hb : Trimmed before)
    (hs : isBlank sep = false) (ha : Trimmed after) : Trimmed (before ++ sep :: after) := by
  constructor
  · cases before with
    | nil =>
        intro c hc
        rw [← Option.some.inj hc, hs]
    | cons b before => exact hb.1
  · rw [List.getLast?_append, List.getLast?_cons]
    cases hlast : after.getLast? with
    | none => simpa using hs
    | some c => simpa using ha.2 c hlast

end RecordRules.Text
