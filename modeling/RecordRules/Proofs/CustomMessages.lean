import RecordRules.CustomMessages
import RecordRules.Proofs.Keyed
import RecordRules.Proofs.Text.Cut
import RecordRules.Proofs.Text.Letters
import Mathlib.Data.List.Sort
import Mathlib.Data.Set.Card

/-!
Custom messages. What follows the last point of a key is the name of a rule, and its letter case
does not matter: messages that are kept under keys that differ in nothing else make the same store,
and a store finds the same message for every way to write a rule's name.

A store is determined by the text that each key finds in it, which is the one that was kept under
the key last. So it is a map from fields and, up to letter case, rules: the last point divides a key
in one way, however many points the path of the field has.
-/

namespace RecordRules

theorem messageKey_append_point {rule : String} (h : '.' ∉ rule.toList) (field : String) :
    messageKey (field ++ "." ++ rule) = field ++ "." ++ Text.lowerCase rule := by
  have hlist : (field ++ "." ++ rule).toList = field.toList ++ '.' :: rule.toList := by simp
  rw [messageKey, hlist, Text.cutLast?_append_cons h]
  simp

/-- Keys that differ at most in the letter case of the rule's name, which is what follows the last
point. -/
inductive SameKey : String → String → Prop
  | refl (key : String) : SameKey key key
  | recased (field : String) {rule other : String} (noPoint : '.' ∉ rule.toList)
      (sameLetters : Text.sameLetters rule other = true) :
      SameKey (field ++ "." ++ rule) (field ++ "." ++ other)

theorem SameKey.messageKey_eq {key other : String} (h : SameKey key other) :
    messageKey key = messageKey other := by
  cases h with
  | refl => rfl
  | recased field noPoint same =>
      have hother := Text.notMem_of_sameLetters same (by decide) noPoint
      rw [messageKey_append_point noPoint, messageKey_append_point hother,
        Text.sameLetters_iff.1 same]

/-- The key is one for the objections of that rule to that field, in whatever letter case the name
of the rule is written. -/
def IsKeyFor (field rule key : String) : Prop :=
  ∃ written, key = field ++ "." ++ written ∧ Text.sameLetters written rule = true

/-- The form in which a key is kept: the name of the rule, if it has one, in small letters. -/
inductive KeptAs : String → String → Prop
  | plain {key : String} (noPoint : '.' ∉ key.toList) : KeptAs key key
  | named (field : String) {rule : String} (noPoint : '.' ∉ rule.toList) :
      KeptAs (field ++ "." ++ rule) (field ++ "." ++ Text.lowerCase rule)

section Keys

variable {field other rule name key kept : String}

theorem point_notMem_lowerCase (h : '.' ∉ rule.toList) : '.' ∉ (Text.lowerCase rule).toList := by
  rwa [Text.toList_lowerCase, Text.mem_map_toLower (by decide)]

/-- The last point of a key divides it in one way. -/
theorem append_point_inj (hrule : '.' ∉ rule.toList) (hname : '.' ∉ name.toList)
    (h : field ++ "." ++ rule = other ++ "." ++ name) : field = other ∧ rule = name := by
  have hlists : field.toList ++ '.' :: rule.toList = other.toList ++ '.' :: name.toList := by
    simpa using congrArg String.toList h
  have hcut := congrArg (Text.cutLast? '.') hlists
  rw [Text.cutLast?_append_cons hrule, Text.cutLast?_append_cons hname] at hcut
  obtain ⟨hfield, hname⟩ := Prod.mk.inj (Option.some.inj hcut)
  exact ⟨String.toList_inj.1 hfield, String.toList_inj.1 hname⟩

theorem KeptAs.messageKey_eq (h : KeptAs key kept) : messageKey key = kept := by
  cases h with
  | plain hpoint => rw [messageKey, Text.cutLast?_eq_none hpoint]
  | named field hpoint => exact messageKey_append_point hpoint field

theorem keptAs_messageKey (key : String) : KeptAs key (messageKey key) := by
  by_cases hpoint : '.' ∈ key.toList
  · obtain ⟨field, rule, hkey, hrule⟩ := Text.exists_eq_append_cons_of_mem hpoint
    have hcut : key = String.ofList field ++ "." ++ String.ofList rule := by
      rw [← String.toList_inj, hkey]
      simp
    have hname : '.' ∉ (String.ofList rule).toList := by rwa [String.toList_ofList]
    rw [hcut, messageKey_append_point hname]
    exact .named _ hname
  · rw [messageKey, Text.cutLast?_eq_none hpoint]
    exact .plain hpoint

theorem keptAs_iff : KeptAs key kept ↔ messageKey key = kept :=
  ⟨KeptAs.messageKey_eq, fun h => h ▸ keptAs_messageKey key⟩

theorem isKeyFor_iff (h : '.' ∉ rule.toList) :
    IsKeyFor field rule key ↔ messageKey key = field ++ "." ++ Text.lowerCase rule := by
  constructor
  · rintro ⟨written, rfl, hsame⟩
    have hrule : Text.sameLetters rule written = true :=
      Text.sameLetters_iff.2 (Text.sameLetters_iff.1 hsame).symm
    rw [messageKey_append_point (Text.notMem_of_sameLetters hrule (by decide) h),
      Text.sameLetters_iff.1 hsame]
  · intro hkey
    have hkept := keptAs_messageKey key
    generalize messageKey key = kept at hkept hkey
    cases hkept with
    | plain hpoint =>
        rw [hkey] at hpoint
        simp at hpoint
    | named other hpoint =>
        obtain ⟨rfl, hsame⟩ := append_point_inj (point_notMem_lowerCase hpoint)
          (point_notMem_lowerCase h) hkey
        exact ⟨_, rfl, Text.sameLetters_iff.2 hsame⟩

/-- A key is one for a single field and, but for letter case, a single rule. -/
theorem isKeyFor_append_point (hrule : '.' ∉ rule.toList) (hname : '.' ∉ name.toList) :
    IsKeyFor other name (field ++ "." ++ rule) ↔
      field = other ∧ Text.sameLetters rule name = true := by
  rw [isKeyFor_iff hname, messageKey_append_point hrule]
  constructor
  · intro h
    obtain ⟨hfield, hsame⟩ :=
      append_point_inj (point_notMem_lowerCase hrule) (point_notMem_lowerCase hname) h
    exact ⟨hfield, Text.sameLetters_iff.2 hsame⟩
  · rintro ⟨rfl, hsame⟩
    rw [Text.sameLetters_iff.1 hsame]

theorem KeptAs.sameKey (hkey : KeptAs key kept) (hother : KeptAs other kept) :
    SameKey key other := by
  cases hkey with
  | plain hpoint =>
      cases hother with
      | plain => exact .refl _
      | named => simp at hpoint
  | named field hpoint =>
      obtain ⟨written, rfl, hsame⟩ := (isKeyFor_iff hpoint).2 hother.messageKey_eq
      exact .recased field hpoint (Text.sameLetters_iff.2 (Text.sameLetters_iff.1 hsame).symm)

theorem sameKey_iff : SameKey key other ↔ messageKey key = messageKey other := by
  refine ⟨SameKey.messageKey_eq, fun h => ?_⟩
  have hkey := keptAs_messageKey key
  rw [h] at hkey
  exact hkey.sameKey (keptAs_messageKey other)

end Keys

namespace CustomMessages

@[simp] theorem get?_lowerCase (messages : CustomMessages) (field name : String) :
    messages.get? field (Text.lowerCase name) = messages.get? field name := by
  rw [get?, get?, Text.lowerCase_lowerCase]

theorem insert_congr {key other : String} (h : SameKey key other) (messages : CustomMessages)
    (text : String) : messages.insert key text = messages.insert other text := by
  simp only [insert, h.messageKey_eq]

/-- The same texts, kept one after the other under the same keys. -/
def SameMessages (messages others : List (String × String)) : Prop :=
  List.Forall₂ (fun m n => SameKey m.1 n.1 ∧ m.2 = n.2) messages others

theorem SameMessages.foldl_insert_eq {messages others : List (String × String)}
    (h : SameMessages messages others) (store : CustomMessages) :
    messages.foldl (fun store e => store.insert e.1 e.2) store =
      others.foldl (fun store e => store.insert e.1 e.2) store := by
  induction h generalizing store with
  | nil => rfl
  | cons hentry _ ih =>
      rw [List.foldl_cons, List.foldl_cons, insert_congr hentry.1, hentry.2]
      exact ih _

theorem SameMessages.ofList_eq {messages others : List (String × String)}
    (h : SameMessages messages others) : ofList messages = ofList others :=
  h.foldl_insert_eq empty

/-! ### What a store holds -/

theorem find?_putSorted (key text other : String) (entries : List (String × String)) :
    Keyed.find? other (putSorted key text entries) =
      if key = other then some text else Keyed.find? other entries := by
  induction entries with
  | nil => rfl
  | cons e entries ih =>
      simp only [putSorted]
      by_cases he : e.1 = key
      · rw [if_pos he]
        by_cases hother : key = other <;> simp [Keyed.find?, he, hother]
      · rw [if_neg he]
        by_cases hlt : key < e.1
        · rw [if_pos hlt]
          rfl
        · rw [if_neg hlt, Keyed.find?, ih, Keyed.find?]
          by_cases hother : e.1 = other
          · rw [if_pos hother, if_neg fun hkey => he (hother.trans hkey.symm), if_pos hother]
          · rw [if_neg hother, if_neg hother]

section Stores

variable {store store' : CustomMessages} {inserts others : List (String × String)}
variable {key other kept text : String}

instance : Std.Asymm KeyBefore :=
  ⟨fun _ _ => String.lt_asymm⟩

theorem nodup_keys (store : CustomMessages) : (Keyed.keys store.entries).Nodup := by
  rw [Keyed.keys, List.Nodup, List.pairwise_map]
  exact store.sorted.imp fun h => String.ne_of_lt h

/-- Stores in which every key finds the same text are the same. -/
theorem eq_of_find?_eq
    (h : ∀ key, Keyed.find? key store.entries = Keyed.find? key store'.entries) :
    store = store' := by
  have hmem (e : String × String) : e ∈ store.entries ↔ e ∈ store'.entries := by
    rw [← Keyed.find?_eq_some_iff_mem store.nodup_keys, h,
      Keyed.find?_eq_some_iff_mem store'.nodup_keys]
  have hentries := store.sorted.eq_of_mem_iff store'.sorted hmem
  cases store
  cases store'
  congr

theorem find?_insert (store : CustomMessages) (key text kept : String) :
    Keyed.find? kept (store.insert key text).entries =
      if messageKey key = kept then some text else Keyed.find? kept store.entries :=
  find?_putSorted (messageKey key) text kept store.entries

/-- A key finds the text that was kept under it last. -/
theorem find?_ofList (inserts : List (String × String)) (kept : String) :
    Keyed.find? kept (ofList inserts).entries =
      (inserts.reverse.find? fun e => messageKey e.1 = kept).map Prod.snd :=
  Keyed.foldl_eq_map_find?_reverse (fun store => Keyed.find? kept store.entries)
    (fun store e => find?_insert store e.1 e.2 kept) rfl inserts

theorem find?_ofList_eq_some_iff :
    Keyed.find? kept (ofList inserts).entries = some text ↔
      ∃ before key after, inserts = before ++ (key, text) :: after ∧ messageKey key = kept ∧
        ∀ e ∈ after, messageKey e.1 ≠ kept := by
  rw [find?_ofList, Keyed.map_find?_reverse_eq_some_iff]
  simp only [decide_eq_true_eq, decide_eq_false_iff_not, ne_eq]

theorem find?_ofList_eq_none_iff :
    Keyed.find? kept (ofList inserts).entries = none ↔
      ∀ e ∈ inserts, messageKey e.1 ≠ kept := by
  rw [find?_ofList, Option.map_eq_none_iff, List.find?_eq_none]
  simp only [List.mem_reverse, decide_eq_true_eq, ne_eq]

/-- What is kept under another key makes no difference. -/
theorem find?_ofList_append_cons {e : String × String} (h : messageKey e.1 ≠ kept)
    (before after : List (String × String)) :
    Keyed.find? kept (ofList (before ++ e :: after)).entries =
      Keyed.find? kept (ofList (before ++ after)).entries := by
  simp [find?_ofList, List.find?_append, h]

/-- Messages under two keys are kept in either order. -/
theorem insert_comm (h : messageKey key ≠ messageKey other)
    (store : CustomMessages) (text note : String) :
    (store.insert key text).insert other note = (store.insert other note).insert key text := by
  apply eq_of_find?_eq
  intro kept
  rw [find?_insert, find?_insert, find?_insert, find?_insert]
  by_cases hkey : messageKey key = kept
  · have hother : messageKey other ≠ kept := hkey ▸ h.symm
    rw [if_neg hother, if_pos hkey, if_pos hkey]
  · rw [if_neg hkey, if_neg hkey]

theorem ofList_eq_of_perm (h : inserts.Perm others)
    (hkeys : inserts.Pairwise fun e f => ¬ SameKey e.1 f.1) : ofList inserts = ofList others := by
  have hnodup : (inserts.map fun e => messageKey e.1).Nodup :=
    List.pairwise_map.2 (hkeys.imp fun hne heq => hne (sameKey_iff.2 heq))
  refine h.foldl_eq' (fun e he f hf store => ?_) empty
  by_cases hsame : e = f
  · rw [hsame]
  · exact insert_comm (fun heq => hsame (List.inj_on_of_nodup_map hnodup he hf heq)) store e.2 f.2

theorem mem_keys_ofList :
    kept ∈ Keyed.keys (ofList inserts).entries ↔ ∃ e ∈ inserts, KeptAs e.1 kept := by
  rw [← Keyed.find?_isSome_iff, find?_ofList, Option.isSome_map, List.find?_isSome]
  simp only [List.mem_reverse, decide_eq_true_eq, keptAs_iff]

theorem size_ofList (inserts : List (String × String)) :
    (ofList inserts).size = {kept | ∃ e ∈ inserts, KeptAs e.1 kept}.ncard := by
  have hkeys : {kept | ∃ e ∈ inserts, KeptAs e.1 kept} =
      ((Keyed.keys (ofList inserts).entries).toFinset : Set String) := by
    ext kept
    simp [mem_keys_ofList]
  rw [hkeys, Set.ncard_coe_finset, List.toFinset_card_of_nodup (nodup_keys _), Keyed.keys,
    List.length_map, size]

end Stores

/-- A store holds the texts that were kept last. For the objections of a rule to a field it has the
text of the last insert whose key is the field, a point, and the name of the rule in any letter
case, and none if there was no such insert; messages for other fields or rules make no difference.
It has as many entries as there are keys up to the letter case of their rules' names, and in what
order messages under different keys come makes no difference either. -/
theorem ofList_keeps_last (inserts : List (String × String)) :
    (∀ field rule : String, '.' ∉ rule.toList →
      (∀ text, (ofList inserts).get? field rule = some text ↔
        ∃ before key after, inserts = before ++ (key, text) :: after ∧ IsKeyFor field rule key ∧
          ∀ e ∈ after, ¬ IsKeyFor field rule e.1) ∧
      ((ofList inserts).get? field rule = none ↔ ∀ e ∈ inserts, ¬ IsKeyFor field rule e.1)) ∧
    (∀ field rule other name : String, '.' ∉ rule.toList → '.' ∉ name.toList →
      ¬ (field = other ∧ Text.sameLetters rule name = true) →
      ∀ before text after, inserts = before ++ (field ++ "." ++ rule, text) :: after →
        (ofList inserts).get? other name = (ofList (before ++ after)).get? other name) ∧
    (ofList inserts).size = {kept | ∃ e ∈ inserts, KeptAs e.1 kept}.ncard ∧
    ∀ others, inserts.Perm others → (inserts.Pairwise fun e f => ¬ SameKey e.1 f.1) →
      ofList inserts = ofList others ∧
        ∀ field rule, (ofList inserts).get? field rule = (ofList others).get? field rule := by
  refine ⟨fun field rule hrule => ⟨fun text => ?_, ?_⟩, ?_, size_ofList inserts,
    fun others hperm hkeys => ?_⟩
  · simp only [isKeyFor_iff hrule]
    exact find?_ofList_eq_some_iff
  · simp only [isKeyFor_iff hrule]
    exact find?_ofList_eq_none_iff
  · rintro field rule other name hrule hname hdiffer before text after rfl
    refine find?_ofList_append_cons (fun hkey => hdiffer ?_) before after
    exact (isKeyFor_append_point hrule hname).1 ((isKeyFor_iff hname).2 hkey)
  · have hsame := ofList_eq_of_perm hperm hkeys
    exact ⟨hsame, fun field rule => by rw [hsame]⟩

/-- Of two messages for one rule on a nested field the later one counts, whatever is kept under a
key that differs in the letter case of the field; and two messages are kept in either order. -/
theorem ofList_keeps_last_of_min :
    let first := ("born.year.Min", "Too old.")
    let second := ("born.Year.min", "Born when?")
    let third := ("born.year.MIN", "Far too old.")
    '.' ∉ "mIn".toList ∧ '.' ∉ "min".toList ∧
      (ofList [first, second, third]).get? "born.year" "mIn" = some "Far too old." ∧
      (ofList [first, second, third]).get? "born" "mIn" = none ∧
      (ofList [first, second, third]).get? "born.year" "mIn" =
        (ofList [first, third]).get? "born.year" "mIn" ∧
      ¬ SameKey first.1 second.1 ∧ ofList [first, second] = ofList [second, first] := by
  intro first second third
  obtain ⟨hget, hother, -, -⟩ := ofList_keeps_last [first, second, third]
  have hmIn : '.' ∉ "mIn".toList := by decide
  have hmin : '.' ∉ "min".toList := by decide
  have hlast := (hget "born.year" "mIn" hmIn).1 "Far too old."
  have hnone := (hget "born" "mIn" hmIn).2
  have hkeys : ¬ SameKey first.1 second.1 := fun h => by
    have hsame := sameKey_iff.1 h
    revert hsame
    decide +kernel
  refine ⟨hmIn, hmin, hlast.2 ⟨[first, second], _, [], rfl, ⟨"MIN", rfl, by decide⟩, nofun⟩,
    hnone.2 ?_, ?_, hkeys, ?_⟩
  · simp only [isKeyFor_iff hmIn]
    decide +kernel
  · exact hother "born.Year" "min" "born.year" "mIn" hmin hmIn (fun h => absurd h.1 (by decide))
      [first] _ [third] rfl
  · exact ((ofList_keeps_last [first, second]).2.2.2 [second, first] (.swap second first [])
      (by simpa using hkeys)).1

end CustomMessages

end RecordRules
