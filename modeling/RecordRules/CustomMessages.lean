import RecordRules.Keyed
import RecordRules.Text.Letters
import RecordRules.Text.Split

/-!
Custom messages: the texts that replace a rule's own when it rejects the value of a field. They are
kept under keys `field.rule`, where the letter case of the rule, which is what follows the last
point, does not matter. The entries are sorted by key, so equal contents are equal stores.
-/

namespace RecordRules

/-- The key under which a message is kept: what follows the last point is in small letters. -/
def messageKey (key : String) : String :=
  match Text.cutLast? '.' key.toList with
  | some (field, rule) => String.ofList field ++ "." ++ Text.lowerCase (String.ofList rule)
  | none => key

def putSorted (key text : String) : List (String × String) → List (String × String)
  | [] => [(key, text)]
  | e :: entries =>
    if e.1 = key then (key, text) :: entries
    else if key < e.1 then (key, text) :: e :: entries
    else e :: putSorted key text entries

def KeyBefore (a b : String × String) : Prop :=
  a.1 < b.1

theorem key_of_mem_putSorted {key text : String} {entries : List (String × String)}
    {e : String × String} (h : e ∈ putSorted key text entries) :
    e.1 = key ∨ e ∈ entries := by
  induction entries with
  | nil => simp_all [putSorted]
  | cons f entries ih =>
      simp only [putSorted] at h
      split at h
      · rcases List.mem_cons.1 h with rfl | h
        · exact .inl rfl
        · exact .inr (List.mem_cons_of_mem _ h)
      · split at h
        · rcases List.mem_cons.1 h with rfl | h
          · exact .inl rfl
          · exact .inr h
        · rcases List.mem_cons.1 h with rfl | h
          · exact .inr List.mem_cons_self
          · exact (ih h).imp_right (List.mem_cons_of_mem _)

theorem putSorted_sorted {key text : String} {entries : List (String × String)}
    (h : entries.Pairwise KeyBefore) : (putSorted key text entries).Pairwise KeyBefore := by
  induction entries with
  | nil => simp [putSorted]
  | cons e entries ih =>
      have hs := List.pairwise_cons.1 h
      simp only [putSorted]
      split
      next he => exact List.pairwise_cons.2 ⟨fun f hf => he ▸ hs.1 f hf, hs.2⟩
      next he =>
        split
        next hlt =>
          refine List.pairwise_cons.2 ⟨fun f hf => ?_, h⟩
          rcases List.mem_cons.1 hf with rfl | hf
          · exact hlt
          · exact String.lt_trans hlt (hs.1 f hf)
        next hlt =>
          refine List.pairwise_cons.2 ⟨fun f hf => ?_, ih hs.2⟩
          rcases key_of_mem_putSorted hf with hk | hf
          · refine String.not_le.1 fun hle => he ?_
            rw [hk] at hle
            exact String.le_antisymm (String.not_lt.1 hlt) hle
          · exact hs.1 f hf

structure CustomMessages where
  entries : List (String × String)
  sorted : entries.Pairwise KeyBefore

namespace CustomMessages

def empty : CustomMessages :=
  ⟨[], List.Pairwise.nil⟩

instance : Inhabited CustomMessages := ⟨empty⟩

instance : DecidableEq CustomMessages := fun a b =>
  decidable_of_iff (a.entries = b.entries)
    ⟨fun h => by cases a; cases b; simp_all, fun h => h ▸ rfl⟩

/-- Keeps a message under a key, in place of one that is there. -/
def insert (messages : CustomMessages) (key text : String) : CustomMessages :=
  ⟨putSorted (messageKey key) text messages.entries, putSorted_sorted messages.sorted⟩

def get? (messages : CustomMessages) (field rule : String) : Option String :=
  Keyed.find? (field ++ "." ++ Text.lowerCase rule) messages.entries

def size (messages : CustomMessages) : Nat :=
  messages.entries.length

def ofList (messages : List (String × String)) : CustomMessages :=
  messages.foldl (fun store e => store.insert e.1 e.2) empty

end CustomMessages

end RecordRules
