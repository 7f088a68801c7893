import RecordRules.Keyed
import Mathlib.Data.List.Induction
import Mathlib.Data.List.Nodup
import Mathlib.Data.List.Sort

/-!
Entries under keys. A found entry is in the list; an entry that is put under a new key comes to the
end; and where no key comes twice, a key tells what stands before it. Entries that are put in one
after the other are in the order in which their keys first came, and none of them ever moves.
-/

namespace RecordRules.Keyed

variable {α : Type}

theorem mem_of_find?_eq_some {key : String} {a : α} {entries : List (String × α)}
    (h : find? key entries = some a) : (key, a) ∈ entries := by
  induction entries with
  | nil => cases h
  | cons e entries ih =>
      rw [find?] at h
      split at h
      next he =>
        rw [← he, ← Option.some.inj h]
        exact List.mem_cons_self
      next he => exact List.mem_cons_of_mem e (ih h)

theorem find?_eq_none_iff {key : String} {entries : List (String × α)} :
    find? key entries = none ↔ key ∉ keys entries := by
  rw [← find?_isSome_iff, Bool.not_eq_true, Option.isSome_eq_false_iff, Option.isNone_iff_eq_none]

theorem find?_eq_map_find? (key : String) (entries : List (String × α)) :
    find? key entries = (entries.find? fun e => e.1 = key).map Prod.snd := by
  induction entries with
  | nil => rfl
  | cons e entries ih =>
      rw [find?, List.find?_cons]
      by_cases he : e.1 = key <;> simp [he, ih]

/-- What is found is the first entry of that key. -/
theorem find?_eq_some_iff_append {key : String} {a : α} {entries : List (String × α)} :
    find? key entries = some a ↔
      ∃ before after, entries = before ++ (key, a) :: after ∧ key ∉ keys before := by
  rw [find?_eq_map_find?, Option.map_eq_some_iff]
  constructor
  · rintro ⟨e, he, rfl⟩
    obtain ⟨hkey, before, after, hcut, hbefore⟩ := List.find?_eq_some_iff_append.1 he
    obtain rfl : e.1 = key := by simpa using hkey
    refine ⟨before, after, hcut, fun hmem => ?_⟩
    obtain ⟨b, hb, hsame⟩ := List.mem_map.1 hmem
    simpa [hsame] using hbefore b hb
  · rintro ⟨before, after, rfl, hfirst⟩
    refine ⟨(key, a), List.find?_eq_some_iff_append.2 ⟨by simp, before, after, rfl, ?_⟩, rfl⟩
    intro b hb
    simpa using fun hsame : b.1 = key => hfirst (hsame ▸ List.mem_map_of_mem hb)

/-- Where no key comes twice, every entry is the one that its key finds. -/
theorem find?_eq_some_iff_mem {key : String} {a : α} {entries : List (String × α)}
    (h : (keys entries).Nodup) : find? key entries = some a ↔ (key, a) ∈ entries := by
  refine ⟨mem_of_find?_eq_some, fun hmem => ?_⟩
  have hkey : (find? key entries).isSome = true :=
    find?_isSome_iff.2 (List.mem_map_of_mem hmem)
  obtain ⟨b, hb⟩ := Option.isSome_iff_exists.1 hkey
  have hsame : (key, b) = (key, a) :=
    List.inj_on_of_nodup_map h (mem_of_find?_eq_some hb) hmem rfl
  rw [hb, (Prod.mk.inj hsame).2]

theorem put_of_notMem {key : String} {entries : List (String × α)} (h : key ∉ keys entries)
    (a : α) : put key a entries = entries ++ [(key, a)] := by
  induction entries with
  | nil => rfl
  | cons e entries ih =>
      have hne : ¬ e.1 = key := fun he => h (he ▸ List.mem_cons_self)
      have hrest : key ∉ keys entries := fun hm => h (List.mem_cons_of_mem e.1 hm)
      rw [put, if_neg hne, ih hrest, List.cons_append]

theorem find?_put (key : String) (a : α) (other : String) (entries : List (String × α)) :
    find? other (put key a entries) = if key = other then some a else find? other entries := by
  by_cases h : key = other
  · rw [if_pos h, ← h, find?_put_self]
  · rw [if_neg h, find?_put_of_ne h]

/-- The place of a key depends on the keys alone. -/
theorem exists_put_eq (key : String) (entries : List (String × α)) :
    ∃ before after, ∀ a, put key a entries = before ++ (key, a) :: after := by
  induction entries with
  | nil => exact ⟨[], [], fun a => rfl⟩
  | cons e entries ih =>
      by_cases he : e.1 = key
      · exact ⟨[], entries, fun a => by rw [put, if_pos he, List.nil_append]⟩
      · obtain ⟨before, after, hput⟩ := ih
        exact ⟨e :: before, after, fun a => by rw [put, if_neg he, hput, List.cons_append]⟩

/-- Entries under other keys stay where they are. -/
theorem getElem?_put_eq_some_iff {key : String} {e : String × α} (h : e.1 ≠ key) (a : α)
    (entries : List (String × α)) (i : Nat) :
    (put key a entries)[i]? = some e ↔ entries[i]? = some e := by
  have hnew : ¬ (key, a) = e := fun he => h (he ▸ rfl)
  induction entries generalizing i with
  | nil => cases i <;> simp [put, hnew]
  | cons f entries ih =>
      rw [put]
      by_cases hf : f.1 = key
      · rw [if_pos hf]
        cases i with
        | zero =>
            have hold : ¬ f = e := fun he => h (he ▸ hf)
            simp [hnew, hold]
        | succ i => exact Iff.rfl
      · rw [if_neg hf]
        cases i with
        | zero => exact Iff.rfl
        | succ i => exact ih i

/-- Where every entry that passes replaces what is found, all of them together leave the last. -/
theorem foldl_eq_map_find?_reverse {σ : Type} (look : σ → Option α) {step : σ → String × α → σ}
    {p : String × α → Prop} [DecidablePred p]
    (hstep : ∀ s e, look (step s e) = if p e then some e.2 else look s) {s : σ}
    (hstart : look s = none) (entries : List (String × α)) :
    look (entries.foldl step s) = (entries.reverse.find? fun e => p e).map Prod.snd := by
  induction entries using List.reverseRecOn with
  | nil => exact hstart
  | append_singleton entries e ih =>
      rw [List.foldl_append, List.foldl_cons, List.foldl_nil, hstep, ih, List.reverse_append,
        List.reverse_singleton, List.singleton_append, List.find?_cons]
      by_cases he : p e <;> simp [he]

/-- What is found from the end is the last entry that passes. -/
theorem map_find?_reverse_eq_some_iff {p : String × α → Bool} {a : α}
    {entries : List (String × α)} :
    (entries.reverse.find? p).map Prod.snd = some a ↔
      ∃ before key after, entries = before ++ (key, a) :: after ∧ p (key, a) = true ∧
        ∀ e ∈ after, p e = false := by
  rw [Option.map_eq_some_iff]
  constructor
  · rintro ⟨⟨key, a⟩, hfind, rfl⟩
    obtain ⟨hpass, after, before, hcut, hafter⟩ := List.find?_eq_some_iff_append.1 hfind
    refine ⟨before.reverse, key, after.reverse, ?_, hpass, fun e he => ?_⟩
    · rw [← entries.reverse_reverse, hcut]
      simp
    · simpa using hafter e (List.mem_reverse.1 he)
  · rintro ⟨before, key, after, rfl, hpass, hafter⟩
    refine ⟨(key, a), List.find?_eq_some_iff_append.2
      ⟨hpass, after.reverse, before.reverse, by simp, fun e he => ?_⟩, rfl⟩
    simpa using hafter e (List.mem_reverse.1 he)

theorem eq_of_append_cons_eq {before before' after after' : List (String × α)}
    {e e' : String × α} (h : (keys (before ++ e :: after)).Nodup)
    (heq : before ++ e :: after = before' ++ e' :: after') (hkey : e.1 = e'.1) :
    before = before' := by
  have hkeys : keys before ++ e.1 :: keys after = keys before' ++ e'.1 :: keys after' := by
    simpa [keys] using congrArg keys heq
  have hnodup : (keys before ++ e.1 :: keys after).Nodup := by simpa [keys] using h
  rw [List.nodup_middle, List.nodup_cons, List.mem_append, not_or] at hnodup
  obtain ⟨hbefore, -⟩ := (List.append_cons_inj_of_notMem (hkey ▸ hnodup.1.1)
    (hkey ▸ hnodup.1.2)).1 hkeys
  have hlength : before.length = before'.length := by
    simpa [keys] using congrArg List.length hbefore
  exact List.append_inj_left heq hlength

/-! ### The order of keys -/

/-- The keys are all that came, each of them once, in the order in which they first came. -/
structure FirstCome (keys came : List String) : Prop where
  mem_iff (key : String) : key ∈ keys ↔ key ∈ came
  sorted : keys.Pairwise fun key other => came.idxOf key < came.idxOf other

namespace FirstCome

variable {came : List String}

/-- There is one such list of keys at most. -/
theorem unique {keys others : List String} (h : FirstCome keys came)
    (h' : FirstCome others came) : keys = others := by
  have : Std.Asymm fun key other : String => came.idxOf key < came.idxOf other :=
    ⟨fun _ _ => Nat.lt_asymm⟩
  exact h.sorted.eq_of_mem_iff h'.sorted fun key => (h.mem_iff key).trans (h'.mem_iff key).symm

theorem put {entries : List (String × α)} (h : FirstCome (keys entries) came) (key : String)
    (a : α) : FirstCome (keys (put key a entries)) (came ++ [key]) := by
  have hplace {other : String} (hother : other ∈ keys entries) :
      (came ++ [key]).idxOf other = came.idxOf other :=
    List.idxOf_append_of_mem ((h.mem_iff other).1 hother)
  have hsorted : (keys entries).Pairwise fun k other =>
      (came ++ [key]).idxOf k < (came ++ [key]).idxOf other :=
    h.sorted.imp_of_mem fun hk hother hlt => by rwa [hplace hk, hplace hother]
  -- a key that has come before adds nothing, and a new one comes behind all the others
  rw [keys_put]
  by_cases hkey : key ∈ keys entries
  · rw [if_pos hkey]
    refine ⟨fun other => ?_, hsorted⟩
    rw [List.mem_append, List.mem_singleton, ← h.mem_iff]
    refine ⟨.inl, ?_⟩
    rintro (hother | rfl)
    · exact hother
    · exact hkey
  · rw [if_neg hkey]
    have hnew : key ∉ came := fun hmem => hkey ((h.mem_iff key).2 hmem)
    have hlast : (came ++ [key]).idxOf key = came.length := by
      rw [List.idxOf_append_of_notMem hnew, List.idxOf_cons_self, Nat.add_zero]
    refine ⟨fun other => by rw [List.mem_append, List.mem_append, h.mem_iff],
      List.pairwise_append.2 ⟨hsorted, List.pairwise_singleton _ _, ?_⟩⟩
    intro other hother last hmem
    obtain rfl := List.mem_singleton.1 hmem
    rw [hplace hother, hlast]
    exact List.idxOf_lt_length_iff.2 ((h.mem_iff other).1 hother)

end FirstCome

end RecordRules.Keyed
