import RecordRules.Calendar.Format
import Mathlib.Data.Option.NAry

/-!
Formats of token letters, and their translation to percent specifiers. The translation goes from
piece to piece: where a format is cut between two pieces, both parts are translated on their own.
So it fails only for a token that has no specifiers, and a character behind a backslash is no token.
What is translated consists of complete specifiers, so that it can always be read as a format.
-/

namespace RecordRules.Calendar

/-- The tokens for which nothing can be read. -/
def unreadableTokens : List Char :=
  ['z', 'S', 't', 'L', 'B', 'I']

/-- Whether a text that is read from the left, each backslash with the character behind it, ends
with a backslash that has none. -/
def endsInEscape : List Char → Bool
  | [] => false
  | ['\\'] => true
  | '\\' :: _ :: cs => endsInEscape cs
  | _ :: cs => endsInEscape cs

section

variable {c : Char} {cs a b : List Char} {items more : List Item}

/-! ### Piece by piece -/

/-- A format goes on behind a token or behind an escaped character. -/
@[elab_as_elim]
theorem pieceInduction {motive : List Char → Prop} (nil : motive [])
    (backslash : motive ['\\']) (escaped : ∀ c cs, motive cs → motive ('\\' :: c :: cs))
    (token : ∀ c cs, c ≠ '\\' → motive cs → motive (c :: cs)) (cs : List Char) : motive cs := by
  fun_induction endsInEscape cs with
  | case1 => exact nil
  | case2 => exact backslash
  | case3 c cs ih => exact escaped c cs ih
  | case4 c cs hone hmore ih =>
      refine token c cs ?_ ih
      rintro rfl
      cases cs with
      | nil => exact hone rfl rfl
      | cons d cs => exact hmore d cs rfl rfl

theorem endsInEscape_cons (h : c ≠ '\\') : endsInEscape (c :: cs) = endsInEscape cs := by
  rw [endsInEscape]
  · exact fun hc _ => h hc
  · exact fun _ _ hc _ => h hc

theorem specifiers?_escape : specifiers? ('\\' :: c :: cs) =
    Option.map₂ (· ++ ·) (some (escapedSpecifiers c)) (specifiers? cs) := by
  rw [Option.map₂_coe_left]
  rfl

theorem specifiers?_cons (h : c ≠ '\\') : specifiers? (c :: cs) =
    Option.map₂ (· ++ ·) (tokenSpecifiers? c) (specifiers? cs) := by
  rw [specifiers?]
  · cases tokenSpecifiers? c <;> cases specifiers? cs <;> rfl
  · exact fun hc _ => h hc
  · exact fun _ _ hc _ => h hc

/-- Behind a piece that is complete a format is translated as it is alone. -/
theorem specifiers?_append (h : endsInEscape a = false) :
    specifiers? (a ++ b) = Option.map₂ (· ++ ·) (specifiers? a) (specifiers? b) := by
  induction a using pieceInduction with
  | nil => cases hb : specifiers? b <;> simp [specifiers?, hb]
  | backslash => cases h
  | escaped c cs ih =>
      rw [List.cons_append, List.cons_append, specifiers?_escape, specifiers?_escape, ih h,
        Option.map₂_assoc List.append_assoc]
  | token c cs hc ih =>
      rw [List.cons_append, specifiers?_cons hc, specifiers?_cons hc,
        ih (endsInEscape_cons hc ▸ h), Option.map₂_assoc List.append_assoc]

theorem tokenSpecifiers?_eq_none_iff : tokenSpecifiers? c = none ↔ c ∈ unreadableTokens := by
  constructor
  · intro h
    simp only [tokenSpecifiers?] at h
    split at h <;> simp [unreadableTokens] at h ⊢
  · intro h
    have hall : unreadableTokens.all (fun c => (tokenSpecifiers? c).isNone) = true := by decide
    simpa using List.all_eq_true.1 hall c h

theorem specifiers?_of_unreadable (h : c ∈ unreadableTokens) : specifiers? (c :: cs) = none := by
  have hc : c ≠ '\\' := by
    rintro rfl
    exact absurd h (by decide)
  rw [specifiers?_cons hc, tokenSpecifiers?_eq_none_iff.2 h, Option.map₂_none_left]

/-- A format is refused for an unreadable token that no backslash stands before. -/
theorem specifiers?_eq_none_iff : specifiers? a = none ↔
    ∃ before c after, a = before ++ c :: after ∧ endsInEscape before = false ∧
      c ∈ unreadableTokens := by
  constructor
  · intro h
    induction a using pieceInduction with
    | nil => cases h
    | backslash => cases h
    | escaped c cs ih =>
        rw [specifiers?_escape, Option.map₂_eq_none_iff] at h
        obtain ⟨before, d, after, rfl, hbefore, hd⟩ := ih (h.resolve_left (Option.some_ne_none _))
        exact ⟨'\\' :: c :: before, d, after, rfl, hbefore, hd⟩
    | token c cs hc ih =>
        rw [specifiers?_cons hc, Option.map₂_eq_none_iff, tokenSpecifiers?_eq_none_iff] at h
        rcases h with h | h
        · exact ⟨[], c, cs, rfl, rfl, h⟩
        · obtain ⟨before, d, after, rfl, hbefore, hd⟩ := ih h
          exact ⟨c :: before, d, after, rfl, (endsInEscape_cons hc).trans hbefore, hd⟩
  · rintro ⟨before, c, after, rfl, hbefore, hc⟩
    rw [specifiers?_append hbefore, specifiers?_of_unreadable hc, Option.map₂_none_right]

/-! ### Complete specifiers -/

theorem itemsFrom?_append {pending : Option (List Char)} (h : itemsFrom? pending a = some items) :
    itemsFrom? pending (a ++ b) = (itemsFrom? none b).map (items ++ ·) := by
  fun_induction itemsFrom? pending a generalizing items with
  | case1 =>
      cases h
      simp
  | case2 => cases h
  | case3 cs ih =>
      rw [List.cons_append, itemsFrom?, if_pos rfl]
      exact ih h
  | case4 c cs hc ih =>
      obtain ⟨rest, hrest, rfl⟩ := Option.map_eq_some_iff.1 h
      rw [List.cons_append, itemsFrom?, if_neg hc, ih hrest, Option.map_map]
      rfl
  | case5 pending c cs found hfound ih =>
      obtain ⟨rest, hrest, rfl⟩ := Option.map_eq_some_iff.1 h
      simp only [List.cons_append, itemsFrom?, hfound]
      rw [ih hrest, Option.map_map]
      simp [Function.comp_def]
  | case6 pending c cs hfound hmore ih =>
      simp only [List.cons_append, itemsFrom?, hfound, hmore]
      exact ih h
  | case7 => cases h

/-- A format that can be read on its own can be read before any other. -/
theorem items?_append (h : items? a = some items) :
    items? (a ++ b) = (items? b).map (items ++ ·) :=
  itemsFrom?_append h

theorem items?_plain (h : c ≠ '%') : items? [c] = some [plainItem c] := by
  rw [items?, itemsFrom?, if_neg h]
  rfl

theorem exists_items?_escapedSpecifiers (c : Char) :
    ∃ items, items? (escapedSpecifiers c) = some items := by
  rw [escapedSpecifiers]
  split
  · exact ⟨_, rfl⟩
  next hc => exact ⟨_, items?_plain hc⟩

theorem exists_items?_of_tokenSpecifiers? {specifiers : List Char}
    (h : tokenSpecifiers? c = some specifiers) : ∃ items, items? specifiers = some items := by
  simp only [tokenSpecifiers?] at h
  split at h
  -- a character that is no token stands for itself, and it is no percent sign
  case h_40 =>
    cases h
    exact ⟨_, items?_plain ‹c = '%' → False›⟩
  all_goals cases h <;> exact ⟨_, rfl⟩

/-- What is translated can be read. -/
theorem exists_items?_of_specifiers? {specifiers : List Char} (h : specifiers? a = some specifiers) :
    ∃ items, items? specifiers = some items := by
  induction a using pieceInduction generalizing specifiers with
  | nil => cases h; exact ⟨_, rfl⟩
  | backslash => cases h; exact ⟨_, rfl⟩
  | escaped c cs ih =>
      obtain ⟨rest, hrest, rfl⟩ := Option.map_eq_some_iff.1 h
      obtain ⟨first, hfirst⟩ := exists_items?_escapedSpecifiers c
      obtain ⟨items, hitems⟩ := ih hrest
      rw [items?_append hfirst, hitems]
      exact ⟨_, rfl⟩
  | token c cs hc ih =>
      rw [specifiers?_cons hc] at h
      obtain ⟨token, rest, htoken, hrest, rfl⟩ := Option.map₂_eq_some_iff.1 h
      obtain ⟨first, hfirst⟩ := exists_items?_of_tokenSpecifiers? htoken
      obtain ⟨items, hitems⟩ := ih hrest
      rw [items?_append hfirst, hitems]
      exact ⟨_, rfl⟩

theorem matches?_eq_none_iff {format : String} (h : '%' ∉ format.toList) (text : String) :
    matches? text format = none ↔ translate? format = none := by
  have hletters : format.toList.contains '%' = false := by simpa using h
  rw [matches?, formatItems?, hletters, if_neg Bool.false_ne_true, Option.map_eq_none_iff,
    translate?, Option.map_eq_none_iff, Option.bind_eq_none_iff]
  constructor
  · intro hnone
    cases hspecifiers : specifiers? format.toList with
    | none => rfl
    | some specifiers =>
        obtain ⟨items, hitems⟩ := exists_items?_of_specifiers? hspecifiers
        rw [hnone specifiers hspecifiers] at hitems
        cases hitems
  · intro hnone specifiers hspecifiers
    rw [hnone] at hspecifiers
    cases hspecifiers

theorem translate?_append {a b : String} (h : endsInEscape a.toList = false) :
    translate? (a ++ b) = Option.map₂ (· ++ ·) (translate? a) (translate? b) := by
  rw [translate?, String.toList_append, specifiers?_append h, translate?, translate?]
  exact Option.map_map₂_distrib fun _ _ => String.ofList_append

end

/-- A format is translated token by token. It is refused for an unreadable token outside an escape;
of two formats, where the first does not end within an escape, each is translated on its own; and a
translation has no invalid specifier, so a format of tokens is unusable only if it is refused. -/
theorem translate?_tokens :
    (∀ f : String, translate? f = none ↔
        ∃ before c after, f.toList = before ++ c :: after ∧ endsInEscape before = false ∧
          c ∈ unreadableTokens) ∧
      (∀ a b : String, endsInEscape a.toList = false →
        translate? (a ++ b) = Option.map₂ (· ++ ·) (translate? a) (translate? b)) ∧
      (∀ f g : String, translate? f = some g → ∃ items, items? g.toList = some items) ∧
      ∀ f : String, '%' ∉ f.toList → ∀ text,
        matches? text f = none ↔ translate? f = none := by
  refine ⟨fun f => ?_, fun a b => translate?_append, fun f g h => ?_,
    fun f => matches?_eq_none_iff⟩
  · rw [translate?, Option.map_eq_none_iff]
    exact specifiers?_eq_none_iff
  · obtain ⟨specifiers, hspecifiers, rfl⟩ := Option.map_eq_some_iff.1 h
    rw [String.toList_ofList]
    exact exists_items?_of_specifiers? hspecifiers

/-- A backslash that is escaped itself leaves the token behind it what it is. -/
theorem translate?_tokens_behind_backslash :
    endsInEscape "Y\\\\".toList = false ∧ translate? "Y\\\\\\z" = some "%Y\\z" ∧
      translate? "Y\\\\z" = none ∧ '%' ∉ "Y\\\\z".toList ∧
      (∃ items, items? "%Y\\z".toList = some items) ∧ matches? "0" "Y\\\\z" = none := by
  obtain ⟨hrefused, happend, hitems, hmatches⟩ := translate?_tokens
  have hfirst : endsInEscape "Y\\\\".toList = false := by decide
  have htranslated : translate? "Y\\\\\\z" = some "%Y\\z" := by
    rw [show "Y\\\\\\z" = "Y\\\\" ++ "\\z" by decide, happend _ _ hfirst]
    decide
  have hnone : translate? "Y\\\\z" = none :=
    (hrefused _).2 ⟨"Y\\\\".toList, 'z', [], by decide, hfirst, by decide⟩
  have hpercent : '%' ∉ "Y\\\\z".toList := by decide
  exact ⟨hfirst, htranslated, hnone, hpercent, hitems _ _ htranslated,
    (hmatches _ hpercent _).2 hnone⟩

end RecordRules.Calendar
