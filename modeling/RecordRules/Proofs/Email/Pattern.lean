import RecordRules.Proofs.Email
import RecordRules.Proofs.Text.Words

/-!
The pattern of email addresses as a regular expression. Its parts are those of the grammar: an atom
is some characters, a label is one letter or digit with a rest that ends in another, and a point
stands before every piece but the first. So the words of the pattern are exactly the addresses.
-/

namespace RecordRules

namespace Email.Grammar

open Words

/-! ### The pattern -/

/-- `[A-Za-z0-9]` -/
def letterOrDigit : RegularExpression Char :=
  range 'A' 'Z' + (range 'a' 'z' + range '0' '9')

/-- ``[A-Za-z0-9!#$%&'*+/=?^_`{|}~-]`` -/
def atomChar : RegularExpression Char :=
  letterOrDigit + oneOf atomMarks

def atom : RegularExpression Char :=
  atomChar * atomChar.star

/-- `[A-Za-z0-9]([A-Za-z0-9-]*[A-Za-z0-9])?` -/
def label : RegularExpression Char :=
  letterOrDigit * maybe ((letterOrDigit + .char '-').star * letterOrDigit)

/-- Atoms with points between them, `atom(\.atom)*`. -/
def localPart : RegularExpression Char :=
  atom * (.char '.' * atom).star

/-- Two labels or more with points between them, `label(\.label)+`. -/
def domain : RegularExpression Char :=
  label * (.char '.' * label * (.char '.' * label).star)

/-- A whole text, `^localPart@domain$`. -/
def address : RegularExpression Char :=
  localPart * (.char '@' * domain)

/-! ### Its words -/

variable {cs : List Char}

theorem mem_letterOrDigit :
    cs ∈ letterOrDigit.matches' ↔ ∃ c, IsLetterOrDigit c ∧ cs = [c] := by
  simp only [letterOrDigit, mem_add, mem_range (by decide : 'Z'.toNat < 0xd800),
    mem_range (by decide : 'z'.toNat < 0xd800), mem_range (by decide : '9'.toNat < 0xd800),
    ← exists_or, ← or_and_right, IsLetterOrDigit, or_left_comm]

theorem mem_atomChar :
    cs ∈ atomChar.matches' ↔ ∃ c, (IsLetterOrDigit c ∨ c ∈ atomMarks) ∧ cs = [c] := by
  simp only [atomChar, mem_add, mem_letterOrDigit, mem_oneOf, ← exists_or, ← or_and_right]

theorem mem_atom : cs ∈ atom.matches' ↔ IsAtom cs :=
  mem_mul_star_of_char fun _ => mem_atomChar

theorem mem_labelChars : cs ∈ (letterOrDigit + .char '-').star.matches' ↔
    ∀ c ∈ cs, IsLetterOrDigit c ∨ c = '-' := by
  refine mem_star_of_char fun cs => ?_
  simp only [mem_add, mem_letterOrDigit, mem_char, or_and_right, exists_or, exists_eq_left]

theorem mem_label : cs ∈ label.matches' ↔ IsLabel cs := by
  simp only [label, mem_mul, mem_maybe, mem_letterOrDigit, mem_labelChars]
  constructor
  · rintro ⟨_, ⟨first, hfirst, rfl⟩, _, rfl | ⟨middle, hmiddle, _, ⟨last, hlast, rfl⟩, rfl⟩, rfl⟩
    · exact isLabel_singleton (isAlphanumeric_iff.2 hfirst)
    · have hne {c : Char} (hc : IsLetterOrDigit c) : c ≠ '-' := hc.ne (by decide)
      refine ⟨List.cons_ne_nil _ _, ?_, by simpa using hne hfirst, ?_⟩
      · rintro c hc
        simp only [List.singleton_append, List.mem_cons, List.mem_append, List.not_mem_nil,
          or_false] at hc
        rcases hc with rfl | hc | rfl
        · exact .inl hfirst
        · exact hmiddle c hc
        · exact .inl hlast
      · rw [← List.append_assoc, List.getLast?_concat]
        simpa using hne hlast
  · rintro ⟨hne, hall, hhead, hend⟩
    cases cs with
    | nil => exact absurd rfl hne
    | cons first rest =>
        have hfirst : IsLetterOrDigit first :=
          (hall first List.mem_cons_self).resolve_right (by simpa using hhead)
        refine ⟨[first], ⟨first, hfirst, rfl⟩, rest, ?_, rfl⟩
        rcases List.eq_nil_or_concat' rest with rfl | ⟨middle, last, rfl⟩
        · exact .inl rfl
        · have hlast : IsLetterOrDigit last := by
            refine (hall last (by simp)).resolve_right ?_
            rintro rfl
            exact hend (List.getLast?_concat (l := first :: middle))
          exact .inr ⟨middle, fun c hc => hall c (by simp [hc]), [last], ⟨last, hlast, rfl⟩, rfl⟩

/-! ### Pieces -/

theorem intercalate_cons (sep piece : List Char) (pieces : List (List Char)) :
    sep.intercalate (piece :: pieces) = piece ++ pieces.flatMap (sep ++ ·) := by
  induction pieces generalizing piece with
  | nil => simp
  | cons next pieces ih =>
      rw [List.intercalate_cons_cons, ih next, List.flatMap_cons, List.append_assoc,
        List.append_assoc]

section

variable {piece : RegularExpression Char} {IsPiece : List Char → Prop}
variable (h : ∀ {cs}, cs ∈ piece.matches' ↔ IsPiece cs)
include h

theorem mem_dotted_one :
    cs ∈ (piece * (.char '.' * piece).star).matches' ↔ Dotted IsPiece 1 cs := by
  simp only [mem_mul, mem_star_char_mul, h]
  constructor
  · rintro ⟨first, hfirst, _, ⟨pieces, hpieces, rfl⟩, rfl⟩
    exact ⟨first :: pieces, by simp, List.forall_mem_cons.2 ⟨hfirst, hpieces⟩,
      (intercalate_cons _ _ _).symm⟩
  · rintro ⟨pieces, hlength, hpieces, rfl⟩
    obtain ⟨first, rest, rfl⟩ := List.exists_cons_of_length_pos hlength
    obtain ⟨hfirst, hrest⟩ := List.forall_mem_cons.1 hpieces
    exact ⟨first, hfirst, _, ⟨rest, hrest, rfl⟩, (intercalate_cons _ _ _).symm⟩

theorem mem_dotted_two :
    cs ∈ (piece * (.char '.' * piece * (.char '.' * piece).star)).matches' ↔
      Dotted IsPiece 2 cs := by
  have hjoin (first next : List Char) (rest : List (List Char)) :
      ['.'].intercalate (first :: next :: rest) =
        first ++ (['.'] ++ next ++ rest.flatMap (['.'] ++ ·)) := by
    rw [intercalate_cons, List.flatMap_cons]
  simp only [mem_mul, mem_star_char_mul, mem_char, h]
  constructor
  · rintro ⟨first, hfirst, _, ⟨_, ⟨_, rfl, next, hnext, rfl⟩, _, ⟨rest, hrest, rfl⟩, rfl⟩, rfl⟩
    refine ⟨first :: next :: rest, by simp, ?_, (hjoin first next rest).symm⟩
    exact List.forall_mem_cons.2 ⟨hfirst, List.forall_mem_cons.2 ⟨hnext, hrest⟩⟩
  · rintro ⟨pieces, hlength, hpieces, rfl⟩
    match pieces, hlength with
    | first :: next :: rest, _ =>
        obtain ⟨hfirst, hmore⟩ := List.forall_mem_cons.1 hpieces
        obtain ⟨hnext, hrest⟩ := List.forall_mem_cons.1 hmore
        exact ⟨first, hfirst, _, ⟨_, ⟨_, rfl, next, hnext, rfl⟩, _, ⟨rest, hrest, rfl⟩, rfl⟩,
          (hjoin first next rest).symm⟩

end

/-- The words of the pattern are the texts that are read as addresses. -/
theorem mem_address : cs ∈ address.matches' ↔ isAddress cs = true := by
  have hlocal (cs : List Char) : cs ∈ localPart.matches' ↔ IsLocalPart cs :=
    mem_dotted_one mem_atom
  have hdomain (cs : List Char) : cs ∈ domain.matches' ↔ IsDomain cs := mem_dotted_two mem_label
  simp only [address, mem_mul, mem_char, hlocal, hdomain]
  constructor
  · rintro ⟨before, hbefore, _, ⟨_, rfl, after, hafter, rfl⟩, rfl⟩
    exact isAddress_append hbefore hafter
  · intro h
    obtain ⟨before, after, rfl, -, hbefore, hafter⟩ := isAddress_iff.1 h
    exact ⟨before, hbefore, _, ⟨_, rfl, after, hafter, rfl⟩, rfl⟩

end Email.Grammar

/-- The values that are email addresses are the strings that the pattern matches as a whole. -/
theorem Value.isEmail_iff_mem_pattern (v : Value) :
    v.isEmail = true ↔ ∃ s, v = string s ∧ s.toList ∈ Email.Grammar.address.matches' := by
  simp only [Email.Grammar.mem_address]
  cases v <;> simp [isEmail]

end RecordRules
