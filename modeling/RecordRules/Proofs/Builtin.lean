import RecordRules.Builtin
import Mathlib.Data.List.Nodup

/-!
Names of rules. No two rules have the same name in small letters, so a name finds a rule exactly if
it is the name of that rule up to letter case.
-/

namespace RecordRules.Builtin

theorem nodup_lowerCase_names : (all.map fun rule => Text.lowerCase rule.name).Nodup := by
  decide +kernel

theorem lowerCase_name_inj {a b : Builtin} (h : Text.lowerCase a.name = Text.lowerCase b.name) :
    a = b :=
  List.inj_on_of_nodup_map nodup_lowerCase_names (mem_all a) (mem_all b) h

theorem lowerCase_name_of_lookup? {name : String} {rule : Builtin} (h : lookup? name = some rule) :
    Text.lowerCase rule.name = Text.lowerCase name := by
  obtain ⟨e, he, rfl⟩ := Option.map_eq_some_iff.1 h
  obtain ⟨r, -, rfl⟩ := List.mem_map.1 (List.mem_of_find?_eq_some he)
  have hsame := List.find?_some he
  exact Text.sameLetters_iff.1 hsame

theorem lookup?_eq_some_iff {name : String} {rule : Builtin} :
    lookup? name = some rule ↔ Text.lowerCase rule.name = Text.lowerCase name := by
  constructor
  · exact lowerCase_name_of_lookup?
  · intro h
    have hentry : (rule.name, rule) ∈ catalog := List.mem_map.2 ⟨rule, mem_all rule, rfl⟩
    -- some rule is found, since this one would do
    cases hfound : lookup? name with
    | none =>
        have hnone := List.find?_eq_none.1 (Option.map_eq_none_iff.1 hfound) _ hentry
        exact absurd (Text.sameLetters_iff.2 h) hnone
    | some other =>
        have hother := lowerCase_name_of_lookup? hfound
        rw [lowerCase_name_inj (hother.trans h.symm)]

/-- Names are taken for the same rule if they differ in letter case at most. -/
theorem lookup?_eq_iff_sameLetters {name other : String} {rule : Builtin}
    (h : lookup? name = some rule) :
    lookup? name = lookup? other ↔ Text.sameLetters name other = true := by
  rw [h, eq_comm, lookup?_eq_some_iff, lookup?_eq_some_iff.1 h, Text.sameLetters_iff]

theorem lookup?_empty : lookup? "" = none := by
  decide +kernel

end RecordRules.Builtin
