import RecordRules.Email
import RecordRules.Proofs.Text.Letters
import Mathlib.Data.List.Infix

/-!
The grammar of email addresses. An address is a local part and a domain with the only `@` between
them; a local part is one atom or several, a domain is two labels or more, and single points join
them. Reading an address in one pass accepts exactly the texts of this grammar: what has been read
at each place is the beginning of an address, and every address leads to the one place where a text
may end.
-/

namespace RecordRules.Email

/-! ### The grammar -/

/-- A letter or digit of ASCII. -/
def IsLetterOrDigit (c : Char) : Prop :=
  ('a' ≤ c ∧ c ≤ 'z') ∨ ('A' ≤ c ∧ c ≤ 'Z') ∨ ('0' ≤ c ∧ c ≤ '9')

/-- What may stand in an atom beside letters and digits. -/
def atomMarks : List Char :=
  ['!', '#', '$', '%', '&', '\x27', '*', '+', '/', '=', '?', '^', '_', '\x60', '\x7b', '|', '\x7d',
    '~', '-']

def IsAtom (cs : List Char) : Prop :=
  cs ≠ [] ∧ ∀ c ∈ cs, IsLetterOrDigit c ∨ c ∈ atomMarks

/-- A label neither begins nor ends with a hyphen. -/
def IsLabel (cs : List Char) : Prop :=
  cs ≠ [] ∧ (∀ c ∈ cs, IsLetterOrDigit c ∨ c = '-') ∧ cs.head? ≠ some '-' ∧
    cs.getLast? ≠ some '-'

/-- So many pieces or more, joined by single points. -/
def Dotted (IsPiece : List Char → Prop) (count : Nat) (cs : List Char) : Prop :=
  ∃ pieces : List (List Char), count ≤ pieces.length ∧ (∀ piece ∈ pieces, IsPiece piece) ∧
    cs = ['.'].intercalate pieces

def IsLocalPart : List Char → Prop :=
  Dotted IsAtom 1

def IsDomain : List Char → Prop :=
  Dotted IsLabel 2

/-- The texts that are addresses. -/
def AddressText (cs : List Char) : Prop :=
  ∃ before after, cs = before ++ '@' :: after ∧ cs.count '@' = 1 ∧ IsLocalPart before ∧
    IsDomain after

/-! ### Characters -/

section Characters

variable {c : Char}

theorem isAlphanumeric_iff : isAlphanumeric c = true ↔ IsLetterOrDigit c :=
  Text.isAlphanum_iff_toNat

theorem isAtomChar_iff : isAtomChar c = true ↔ IsLetterOrDigit c ∨ c ∈ atomMarks := by
  have hmarks : "!#$%&'*+/=?^_\x60\x7b|\x7d~-".toList = atomMarks := by decide
  rw [isAtomChar, Bool.or_eq_true, isAlphanumeric_iff, hmarks, List.contains_iff_mem]

theorem IsLetterOrDigit.ne {mark : Char} (h : IsLetterOrDigit c)
    (hmark : isAlphanumeric mark = false) : c ≠ mark := by
  rintro rfl
  rw [isAlphanumeric_iff.2 h] at hmark
  cases hmark

theorem IsLetterOrDigit.isBlank_eq_false (h : IsLetterOrDigit c) : Text.isBlank c = false :=
  Text.isBlank_eq_false_of_isAlphanum (isAlphanumeric_iff.2 h)

theorem isBlank_eq_false_of_mem_atomMarks (h : c ∈ atomMarks) : Text.isBlank c = false := by
  have hall : atomMarks.all (fun c => !Text.isBlank c) = true := by decide
  simpa using List.all_eq_true.1 hall c h

end Characters

/-! ### Pieces and points -/

section Pieces

variable {IsPiece : List Char → Prop} {count : Nat} {cs piece more : List Char}

theorem intercalate_concat {pieces : List (List Char)} (h : pieces ≠ []) (sep last : List Char) :
    sep.intercalate (pieces ++ [last]) = sep.intercalate pieces ++ sep ++ last := by
  induction pieces with
  | nil => exact absurd rfl h
  | cons piece pieces ih =>
      cases pieces with
      | nil => simp
      | cons next pieces =>
          have hrest := ih (List.cons_ne_nil _ _)
          rw [List.cons_append, List.cons_append, List.intercalate_cons_cons, ← List.cons_append,
            hrest, List.intercalate_cons_cons]
          simp only [List.append_assoc]

theorem dotted_one (h : IsPiece piece) : Dotted IsPiece 1 piece :=
  ⟨[piece], Nat.le_refl 1, by simpa using h, List.intercalate_singleton.symm⟩

theorem Dotted.of_le {fewer : Nat} (h : Dotted IsPiece count cs) (hle : fewer ≤ count) :
    Dotted IsPiece fewer cs := by
  obtain ⟨pieces, hlength, hpieces, rfl⟩ := h
  exact ⟨pieces, Nat.le_trans hle hlength, hpieces, rfl⟩

/-- A point and one more piece behind some others. -/
theorem Dotted.concat (h : Dotted IsPiece (count + 1) cs) (hpiece : IsPiece piece) :
    Dotted IsPiece (count + 2) (cs ++ '.' :: piece) := by
  obtain ⟨pieces, hlength, hpieces, rfl⟩ := h
  have hne : pieces ≠ [] := List.ne_nil_of_length_pos (by omega)
  refine ⟨pieces ++ [piece], by simpa using hlength, ?_, ?_⟩
  · intro p hp
    rcases List.mem_append.1 hp with hp | hp
    · exact hpieces p hp
    · rwa [List.mem_singleton.1 hp]
  · rw [intercalate_concat hne]
    simp

/-- What every piece can be continued with, the last one can. -/
theorem Dotted.extend (h : Dotted IsPiece (count + 1) cs)
    (hmore : ∀ piece, IsPiece piece → IsPiece (piece ++ more)) :
    Dotted IsPiece (count + 1) (cs ++ more) := by
  obtain ⟨pieces, hlength, hpieces, rfl⟩ := h
  rcases List.eq_nil_or_concat' pieces with rfl | ⟨before, last, rfl⟩
  · cases hlength
  · refine ⟨before ++ [last ++ more], by simpa using hlength, ?_, ?_⟩
    · intro p hp
      rcases List.mem_append.1 hp with hp | hp
      · exact hpieces p (List.mem_append_left _ hp)
      · rw [List.mem_singleton.1 hp]
        exact hmore last (hpieces last (by simp))
    · cases before with
      | nil => simp
      | cons first before =>
          rw [intercalate_concat (List.cons_ne_nil _ _), intercalate_concat (List.cons_ne_nil _ _)]
          simp only [List.append_assoc]

/-- What holds of all characters of pieces, and of the point, holds of all characters. -/
theorem Dotted.forall_mem {P : Char → Prop} (h : Dotted IsPiece count cs)
    (hpiece : ∀ piece, IsPiece piece → ∀ c ∈ piece, P c) (hpoint : P '.') : ∀ c ∈ cs, P c := by
  obtain ⟨pieces, -, hpieces, rfl⟩ := h
  induction pieces with
  | nil => simp
  | cons piece pieces ih =>
      have hfirst := hpiece piece (hpieces piece List.mem_cons_self)
      have hrest := ih fun p hp => hpieces p (List.mem_cons_of_mem _ hp)
      cases pieces with
      | nil => simpa using hfirst
      | cons next pieces =>
          intro c hc
          simp only [List.intercalate_cons_cons, List.mem_append, List.mem_singleton] at hc
          rcases hc with (hc | rfl) | hc
          · exact hfirst c hc
          · exact hpoint
          · exact hrest c hc

end Pieces

/-! ### Pieces that grow -/

section Growth

variable {c : Char} {cs : List Char}

theorem isAtom_singleton (h : isAtomChar c = true) : IsAtom [c] :=
  ⟨List.cons_ne_nil _ _, fun _ hd => List.mem_singleton.1 hd ▸ isAtomChar_iff.1 h⟩

theorem IsAtom.concat (h : IsAtom cs) (hc : isAtomChar c = true) : IsAtom (cs ++ [c]) := by
  refine ⟨by simp, fun d hd => ?_⟩
  rcases List.mem_append.1 hd with hd | hd
  · exact h.2 d hd
  · rw [List.mem_singleton.1 hd]
    exact isAtomChar_iff.1 hc

theorem isLabel_singleton (h : isAlphanumeric c = true) : IsLabel [c] := by
  have hc := isAlphanumeric_iff.1 h
  have hne : c ≠ '-' := hc.ne (by decide)
  refine ⟨List.cons_ne_nil _ _, fun d hd => ?_, by simpa using hne, by simpa using hne⟩
  rw [List.mem_singleton.1 hd]
  exact .inl hc

/-- Behind hyphens a label goes on with a letter or digit. -/
theorem IsLabel.concat (h : IsLabel cs) (hyphens : Nat) (hc : isAlphanumeric c = true) :
    IsLabel (cs ++ (List.replicate hyphens '-' ++ [c])) := by
  have hletter := isAlphanumeric_iff.1 hc
  obtain ⟨hne, hall, hhead, -⟩ := h
  refine ⟨by simp, fun d hd => ?_, ?_, ?_⟩
  · simp only [List.mem_append, List.mem_singleton] at hd
    rcases hd with hd | hd | rfl
    · exact hall d hd
    · exact .inr (List.eq_of_mem_replicate hd)
    · exact .inl hletter
  · rwa [List.head?_append_of_ne_nil _ hne]
  · rw [← List.append_assoc, List.getLast?_concat]
    simpa using hletter.ne (by decide : isAlphanumeric '-' = false)

end Growth

/-! ### What has been read at a place -/

namespace Place

variable {c : Char} {cs text : List Char} {place next : Place}

/-- The labels of a domain of which so much has been read: two from the first point on. -/
def labels (dotted : Bool) : Nat :=
  if dotted then 2 else 1

/-- Whether a beginning of an address leads to the place. -/
def Reached : Place → List Char → Prop
  | atomStart, text => text = [] ∨ ∃ before, IsLocalPart before ∧ text = before ++ ['.']
  | atom, text => IsLocalPart text
  | labelStart false, text => ∃ before, IsLocalPart before ∧ text = before ++ ['@']
  | labelStart true, text =>
    ∃ before after, IsLocalPart before ∧ Dotted IsLabel 1 after ∧
      text = before ++ '@' :: (after ++ ['.'])
  | label dotted, text =>
    ∃ before after, IsLocalPart before ∧ Dotted IsLabel (labels dotted) after ∧
      text = before ++ '@' :: after
  | hyphen dotted, text =>
    ∃ before after hyphens, IsLocalPart before ∧ Dotted IsLabel (labels dotted) after ∧
      text = before ++ '@' :: (after ++ List.replicate (hyphens + 1) '-')

/-- Behind any hyphens of a label a letter or digit leads back into it. -/
theorem reached_label {before after : List Char} {dotted : Bool} (hbefore : IsLocalPart before)
    (hafter : Dotted IsLabel (labels dotted) after) (hyphens : Nat)
    (hc : isAlphanumeric c = true) :
    (label dotted).Reached
      (before ++ '@' :: (after ++ List.replicate hyphens '-') ++ [c]) := by
  refine ⟨before, after ++ (List.replicate hyphens '-' ++ [c]), hbefore, ?_, by simp⟩
  have hextend := fun label (hlabel : IsLabel label) => hlabel.concat hyphens hc
  cases dotted with
  | false => exact Dotted.extend hafter hextend
  | true => exact Dotted.extend hafter hextend

/-- One character more leads from a place that is reached to another. -/
theorem Reached.step (h : place.Reached text) (hstep : place.step? c = some next) :
    next.Reached (text ++ [c]) := by
  cases place with
  | atomStart =>
      obtain ⟨hc, ⟨⟩⟩ := Option.ite_none_right_eq_some.1 hstep
      rcases h with rfl | ⟨before, hbefore, rfl⟩
      · exact dotted_one (isAtom_singleton hc)
      · have hmore := hbefore.concat (isAtom_singleton hc)
        rw [List.append_assoc]
        exact hmore.of_le (Nat.le_succ 1)
  | atom =>
      rw [step?] at hstep
      split at hstep
      next hc =>
        cases hstep
        exact Dotted.extend h fun atom hatom => hatom.concat hc
      next =>
        split at hstep
        next hpoint =>
          cases hstep
          exact .inr ⟨text, h, by rw [hpoint]⟩
        next =>
          obtain ⟨rfl, ⟨⟩⟩ := Option.ite_none_right_eq_some.1 hstep
          exact ⟨text, h, rfl⟩
  | labelStart dotted =>
      obtain ⟨hc, ⟨⟩⟩ := Option.ite_none_right_eq_some.1 hstep
      have hlabel := isLabel_singleton hc
      cases dotted with
      | false =>
          obtain ⟨before, hbefore, rfl⟩ := h
          exact ⟨before, [c], hbefore, dotted_one hlabel, by simp⟩
      | true =>
          obtain ⟨before, after, hbefore, hafter, rfl⟩ := h
          exact ⟨before, after ++ '.' :: [c], hbefore, hafter.concat hlabel, by simp⟩
  | label dotted =>
      obtain ⟨before, after, hbefore, hafter, rfl⟩ := h
      rw [step?] at hstep
      split at hstep
      next hc =>
        cases hstep
        simpa using reached_label hbefore hafter 0 hc
      next =>
        split at hstep
        next hhyphen =>
          cases hstep
          exact ⟨before, after, 0, hbefore, hafter, by simp [hhyphen]⟩
        next =>
          obtain ⟨rfl, ⟨⟩⟩ := Option.ite_none_right_eq_some.1 hstep
          exact ⟨before, after, hbefore, hafter.of_le (by cases dotted <;> decide), by simp⟩
  | hyphen dotted =>
      obtain ⟨before, after, hyphens, hbefore, hafter, rfl⟩ := h
      rw [step?] at hstep
      split at hstep
      next hc =>
        cases hstep
        exact reached_label hbefore hafter _ hc
      next =>
        obtain ⟨rfl, ⟨⟩⟩ := Option.ite_none_right_eq_some.1 hstep
        refine ⟨before, after, hyphens + 1, hbefore, hafter, ?_⟩
        rw [List.replicate_succ' (n := hyphens + 1)]
        simp

theorem run?_cons (c : Char) (cs : List Char) (place : Place) :
    run? (c :: cs) place = (place.step? c).bind (run? cs) := rfl

theorem run?_append (cs more : List Char) (place : Place) :
    run? (cs ++ more) place = (run? cs place).bind (run? more) := by
  rw [run?, List.foldlM_append]
  rfl

/-- A text leads from a place that is reached to another. -/
theorem Reached.run (h : place.Reached text) (hrun : run? cs place = some next) :
    next.Reached (text ++ cs) := by
  induction cs generalizing place text with
  | nil =>
      cases hrun
      rwa [List.append_nil]
  | cons c cs ih =>
      obtain ⟨between, hstep, hrest⟩ := Option.bind_eq_some_iff.1 hrun
      have hreached := ih (h.step hstep) hrest
      rwa [List.append_assoc] at hreached

/-! ### Where an address leads -/

theorem run?_atom (h : ∀ c ∈ cs, isAtomChar c = true) : run? cs atom = some atom := by
  induction cs with
  | nil => rfl
  | cons c cs ih =>
      have hstep : atom.step? c = some atom := if_pos (h c List.mem_cons_self)
      rw [run?_cons, hstep]
      exact ih fun d hd => h d (List.mem_cons_of_mem c hd)

theorem run?_of_isAtom (h : IsAtom cs) : run? cs atomStart = some atom := by
  obtain ⟨hne, hall⟩ := h
  cases cs with
  | nil => exact absurd rfl hne
  | cons c cs =>
      have hchars : ∀ d ∈ c :: cs, isAtomChar d = true := fun d hd => isAtomChar_iff.2 (hall d hd)
      have hstep : atomStart.step? c = some atom := if_pos (hchars c List.mem_cons_self)
      rw [run?_cons, hstep]
      exact run?_atom fun d hd => hchars d (List.mem_cons_of_mem c hd)

theorem run?_of_isLocalPart (h : IsLocalPart cs) : run? cs atomStart = some atom := by
  obtain ⟨pieces, hlength, hpieces, rfl⟩ := h
  induction pieces with
  | nil => cases hlength
  | cons piece pieces ih =>
      have hfirst := run?_of_isAtom (hpieces piece List.mem_cons_self)
      cases pieces with
      | nil => rwa [List.intercalate_singleton]
      | cons next pieces =>
          have hrest := ih (by simp) fun p hp => hpieces p (List.mem_cons_of_mem _ hp)
          rw [List.intercalate_cons_cons, List.append_assoc, run?_append, hfirst]
          exact hrest

/-- Within a label one stands behind a letter or digit, or behind a hyphen. -/
theorem exists_run?_label (dotted : Bool) (h : ∀ c ∈ cs, isAlphanumeric c = true ∨ c = '-')
    (hplace : place = label dotted ∨ place = hyphen dotted) :
    ∃ next, run? cs place = some next ∧ (next = label dotted ∨ next = hyphen dotted) := by
  induction cs generalizing place with
  | nil => exact ⟨place, rfl, hplace⟩
  | cons c cs ih =>
      have hrest := fun d hd => h d (List.mem_cons_of_mem c hd)
      by_cases hc : isAlphanumeric c = true
      · have hstep : place.step? c = some (label dotted) := by
          rcases hplace with rfl | rfl <;> exact if_pos hc
        rw [run?_cons, hstep]
        exact ih hrest (.inl rfl)
      · obtain rfl := (h c List.mem_cons_self).resolve_left hc
        have hstep : place.step? '-' = some (hyphen dotted) := by
          rcases hplace with rfl | rfl <;> rfl
        rw [run?_cons, hstep]
        exact ih hrest (.inr rfl)

theorem run?_of_isLabel (h : IsLabel cs) (dotted : Bool) :
    run? cs (labelStart dotted) = some (label dotted) := by
  obtain ⟨hne, hall, hhead, hlast⟩ := h
  have hchars : ∀ c ∈ cs, isAlphanumeric c = true ∨ c = '-' :=
    fun c hc => (hall c hc).imp_left isAlphanumeric_iff.2
  cases cs with
  | nil => exact absurd rfl hne
  | cons first rest =>
      have hfirst : isAlphanumeric first = true :=
        (hchars first List.mem_cons_self).resolve_right (by simpa using hhead)
      have hstep : (labelStart dotted).step? first = some (label dotted) := if_pos hfirst
      rw [run?_cons, hstep, Option.bind_some]
      rcases List.eq_nil_or_concat' rest with rfl | ⟨middle, last, rfl⟩
      · rfl
      · have hinner : ∀ c ∈ middle, isAlphanumeric c = true ∨ c = '-' :=
          fun c hc => hchars c (by simp [hc])
        obtain ⟨between, hmiddle, hbetween⟩ :=
          exists_run?_label dotted hinner (.inl rfl : label dotted = _ ∨ _)
        have hend : isAlphanumeric last = true := by
          refine (hchars last (by simp)).resolve_right ?_
          rintro rfl
          exact hlast (List.getLast?_concat (l := first :: middle))
        rw [run?_append, hmiddle]
        rcases hbetween with rfl | rfl <;> exact congrArg (Option.bind · (run? [])) (if_pos hend)

/-- Behind the first point of a domain, or without one, its labels lead to the end of a label. -/
theorem run?_intercalate_labels {pieces : List (List Char)} (hpieces : ∀ p ∈ pieces, IsLabel p)
    (hne : pieces ≠ []) (dotted : Bool) :
    run? (['.'].intercalate pieces) (labelStart dotted) =
      some (label (dotted || 1 < pieces.length)) := by
  induction pieces generalizing dotted with
  | nil => exact absurd rfl hne
  | cons piece pieces ih =>
      have hfirst := run?_of_isLabel (hpieces piece List.mem_cons_self) dotted
      cases pieces with
      | nil => simpa using hfirst
      | cons next pieces =>
          have hrest := ih (fun p hp => hpieces p (List.mem_cons_of_mem _ hp))
            (List.cons_ne_nil _ _) true
          rw [List.intercalate_cons_cons, List.append_assoc, run?_append, hfirst]
          change run? _ (labelStart true) = _
          simpa using hrest

theorem run?_of_isDomain (h : IsDomain cs) : run? cs (labelStart false) = some (label true) := by
  obtain ⟨pieces, hlength, hpieces, rfl⟩ := h
  have hne : pieces ≠ [] := List.ne_nil_of_length_pos (by omega)
  rw [run?_intercalate_labels hpieces hne, decide_eq_true (by omega)]
  rfl

/-- Neither a point nor an `@` can be read behind a point. -/
theorem run?_append_point_cons (h : c = '.' ∨ c = '@') (before after : List Char) (place : Place) :
    run? (before ++ '.' :: c :: after) place = none := by
  rw [run?_append]
  refine Option.bind_eq_none_iff.2 fun between _ => ?_
  rcases h with rfl | rfl <;> cases between <;> rfl

theorem run?_append_at_point (before after : List Char) (place : Place) :
    run? (before ++ '@' :: '.' :: after) place = none := by
  rw [run?_append]
  refine Option.bind_eq_none_iff.2 fun between _ => ?_
  cases between <;> rfl

theorem run?_concat_point_ne (cs : List Char) (place : Place) :
    run? (cs ++ ['.']) place ≠ some (label true) := by
  rw [run?_append]
  intro h
  obtain ⟨between, -, hlast⟩ := Option.bind_eq_some_iff.1 h
  cases between <;> cases hlast

end Place

/-! ### Addresses -/

section Addresses

variable {cs before after : List Char}

theorem IsLocalPart.isAtomChar_or (h : IsLocalPart cs) : ∀ c ∈ cs, isAtomChar c = true ∨ c = '.' :=
  Dotted.forall_mem h (fun _ hatom c hc => .inl (isAtomChar_iff.2 (hatom.2 c hc))) (.inr rfl)

theorem IsDomain.isAlphanumeric_or (h : IsDomain cs) :
    ∀ c ∈ cs, isAlphanumeric c = true ∨ c = '-' ∨ c = '.' :=
  Dotted.forall_mem h (fun _ hlabel c hc => (hlabel.2.1 c hc).imp isAlphanumeric_iff.2 .inl)
    (.inr (.inr rfl))

theorem isAddress_append (hbefore : IsLocalPart before) (hafter : IsDomain after) :
    isAddress (before ++ '@' :: after) = true := by
  rw [isAddress, beq_iff_eq, Place.run?_append, Place.run?_of_isLocalPart hbefore]
  exact Place.run?_of_isDomain hafter

theorem isAddress_iff : isAddress cs = true ↔ AddressText cs := by
  constructor
  · intro h
    rw [isAddress, beq_iff_eq] at h
    have hstart : Place.atomStart.Reached [] := .inl rfl
    obtain ⟨before, after, hbefore, hafter, rfl⟩ := hstart.run h
    have hbeforeAt : '@' ∉ before := fun hat => by
      rcases hbefore.isAtomChar_or _ hat with h | h <;> cases h
    have hafterAt : '@' ∉ after := fun hat => by
      rcases IsDomain.isAlphanumeric_or hafter _ hat with h | h | h <;> cases h
    refine ⟨before, after, rfl, ?_, hbefore, hafter⟩
    rw [List.count_append, List.count_cons_self, List.count_eq_zero.2 hbeforeAt,
      List.count_eq_zero.2 hafterAt]
  · rintro ⟨before, after, rfl, -, hbefore, hafter⟩
    exact isAddress_append hbefore hafter

theorem AddressText.isBlank_eq_false (h : AddressText cs) : ∀ c ∈ cs, Text.isBlank c = false := by
  have halphanumeric {c : Char} (hc : isAlphanumeric c = true) : Text.isBlank c = false :=
    (isAlphanumeric_iff.1 hc).isBlank_eq_false
  obtain ⟨before, after, rfl, -, hbefore, hafter⟩ := h
  intro c hc
  rcases List.mem_append.1 hc with hc | hc
  · rcases hbefore.isAtomChar_or c hc with hc | rfl
    · exact (isAtomChar_iff.1 hc).elim IsLetterOrDigit.isBlank_eq_false
        isBlank_eq_false_of_mem_atomMarks
    · rfl
  · rcases List.mem_cons.1 hc with rfl | hc
    · rfl
    · rcases hafter.isAlphanumeric_or c hc with hc | rfl | rfl
      · exact halphanumeric hc
      · rfl
      · rfl

theorem AddressText.run?_eq (h : AddressText cs) :
    Place.run? cs .atomStart = some (.label true) := by
  simpa [isAddress] using isAddress_iff.2 h

theorem AddressText.points_single (h : AddressText cs) : ¬ ['.', '.'] <:+: cs := by
  rintro ⟨before, after, rfl⟩
  have hrun := h.run?_eq
  rw [List.append_assoc, List.cons_append, List.cons_append, List.nil_append,
    Place.run?_append_point_cons (.inl rfl)] at hrun
  cases hrun

/-- On neither side of the `@` a point begins or ends the text. -/
theorem AddressText.points_inside (h : AddressText (before ++ '@' :: after)) :
    ∀ part ∈ [before, after], part.head? ≠ some '.' ∧ part.getLast? ≠ some '.' := by
  have hrun := h.run?_eq
  intro part hpart
  simp only [List.mem_cons, List.not_mem_nil, or_false] at hpart
  rcases hpart with rfl | rfl
  · constructor
    · intro hhead
      obtain ⟨rest, rfl⟩ := List.head?_eq_some_iff.1 hhead
      cases hrun
    · intro hlast
      obtain ⟨rest, rfl⟩ := List.getLast?_eq_some_iff.1 hlast
      rw [List.append_assoc, List.singleton_append, Place.run?_append_point_cons (.inr rfl)] at hrun
      cases hrun
  · constructor
    · intro hhead
      obtain ⟨rest, rfl⟩ := List.head?_eq_some_iff.1 hhead
      rw [Place.run?_append_at_point] at hrun
      cases hrun
    · intro hlast
      obtain ⟨rest, rfl⟩ := List.getLast?_eq_some_iff.1 hlast
      rw [← List.cons_append, ← List.append_assoc] at hrun
      exact Place.run?_concat_point_ne _ _ hrun

end Addresses

end RecordRules.Email

namespace RecordRules.Value

open Email

/-- The values that are addresses are the strings whose text the grammar describes. In such a text
there is no blank, and points stand only singly, between other characters of one side. -/
theorem isEmail_grammar :
    (∀ s : String, (string s).isEmail = true ↔ AddressText s.toList) ∧
      (∀ cs, AddressText cs → (∀ c ∈ cs, Text.isBlank c = false) ∧ ¬ ['.', '.'] <:+: cs ∧
        ∀ before after, cs = before ++ '@' :: after →
          ∀ part ∈ [before, after], part.head? ≠ some '.' ∧ part.getLast? ≠ some '.') ∧
      ∀ v : Value, v.isEmail = true → ∃ s, v = string s := by
  refine ⟨fun s => isAddress_iff, fun cs h => ⟨h.isBlank_eq_false, h.points_single, ?_⟩, ?_⟩
  · rintro before after rfl
    exact h.points_inside
  · intro v h
    cases v with
    | string s => exact ⟨s, rfl⟩
    | null | bool | integer | double | array | object => cases h

/-- With marks in the local part, and hyphens and a short label in the domain. -/
theorem isEmail_grammar_tagged :
    (string "o'neil.x+y@a--b.c").isEmail = true ∧ AddressText "o'neil.x+y@a--b.c".toList ∧
      (∀ c ∈ "o'neil.x+y@a--b.c".toList, Text.isBlank c = false) := by
  obtain ⟨hgrammar, hplain, -⟩ := isEmail_grammar
  have hemail : (string "o'neil.x+y@a--b.c").isEmail = true := by decide
  have htext := (hgrammar _).1 hemail
  exact ⟨hemail, htext, (hplain _ htext).1⟩

end RecordRules.Value
