import RecordRules.Specs
import RecordRules.Proofs.Keyed
import Mathlib.Data.Finset.Card

/-!
Declarations of fields, one after the other. A field takes its place when it is first declared and
keeps it; the entries that hold are those of its last declaration; and to declare a field changes
nothing about any other. Each of these holds of one more declaration, and so of all that were made.
-/

namespace RecordRules.Specs

section

variable {declared : List (String × List Entry)} {path : String} {entries : List Entry}

theorem ofList_concat (declared : List (String × List Entry)) (e : String × List Entry) :
    ofList (declared ++ [e]) = (ofList declared).insert e.1 e.2 := by
  rw [ofList, List.foldl_append]
  rfl

theorem get?_insert (specs : Specs) (path : String) (entries : List Entry) (other : String) :
    (specs.insert path entries).get? other =
      if path = other then some entries else specs.get? other :=
  Keyed.find?_put path entries other specs.fields

/-! ### Places -/

theorem firstCome_ofList (declared : List (String × List Entry)) :
    Keyed.FirstCome (Keyed.keys (ofList declared).fields) (Keyed.keys declared) := by
  induction declared using List.reverseRecOn with
  | nil => exact ⟨fun _ => Iff.rfl, List.Pairwise.nil⟩
  | append_singleton declared e ih =>
      have hkeys : Keyed.keys (declared ++ [e]) = Keyed.keys declared ++ [e.1] := List.map_append
      rw [ofList_concat, hkeys]
      exact ih.put e.1 e.2

theorem size_ofList (declared : List (String × List Entry)) :
    (ofList declared).size = (Keyed.keys declared).toFinset.card := by
  have hpaths : (Keyed.keys (ofList declared).fields).toFinset =
      (Keyed.keys declared).toFinset := by
    ext path
    rw [List.mem_toFinset, List.mem_toFinset, (firstCome_ofList declared).mem_iff]
  rw [← hpaths, List.toFinset_card_of_nodup (ofList declared).nodup, Keyed.keys, List.length_map,
    size]

/-! ### Entries -/

/-- A field has the entries that it was declared with last. -/
theorem get?_ofList (declared : List (String × List Entry)) (path : String) :
    (ofList declared).get? path =
      (declared.reverse.find? fun e => e.1 = path).map Prod.snd :=
  Keyed.foldl_eq_map_find?_reverse (fun specs => specs.get? path)
    (fun specs e => get?_insert specs e.1 e.2 path) rfl declared

theorem get?_ofList_eq_some_iff :
    (ofList declared).get? path = some entries ↔
      ∃ before after, declared = before ++ (path, entries) :: after ∧
        ∀ e ∈ after, e.1 ≠ path := by
  rw [get?_ofList, Keyed.map_find?_reverse_eq_some_iff]
  simp only [decide_eq_true_eq, decide_eq_false_iff_not]
  constructor
  · rintro ⟨before, other, after, hdeclared, rfl, hafter⟩
    exact ⟨before, after, hdeclared, hafter⟩
  · rintro ⟨before, after, hdeclared, hafter⟩
    exact ⟨before, path, after, hdeclared, rfl, hafter⟩

theorem get?_ofList_eq_none_iff :
    (ofList declared).get? path = none ↔ ∀ e ∈ declared, e.1 ≠ path := by
  rw [get?_ofList, Option.map_eq_none_iff, List.find?_eq_none]
  simp only [List.mem_reverse, decide_eq_true_eq, ne_eq]

end

/-- A specification that is declared field by field has the declared paths and no others, each of
them once and in the order in which they were first declared. Under a path that was declared, and
only there, it has the entries of the last declaration, whether they are looked up or come up among
the fields. It has as many fields as paths were declared, and one more declaration leaves every
other field at its place with its entries. -/
theorem ofList_keeps_places (declared : List (String × List Entry)) :
    (Keyed.keys (ofList declared).fields).Nodup ∧
    (∀ paths, Keyed.FirstCome paths (Keyed.keys declared) ↔
      paths = Keyed.keys (ofList declared).fields) ∧
    (∀ path,
      (∀ entries, (ofList declared).get? path = some entries ↔
        ∃ before after, declared = before ++ (path, entries) :: after ∧
          ∀ e ∈ after, e.1 ≠ path) ∧
      ((ofList declared).get? path = none ↔ ∀ e ∈ declared, e.1 ≠ path) ∧
      ∀ entries, (path, entries) ∈ (ofList declared).fields ↔
        (ofList declared).get? path = some entries) ∧
    (ofList declared).size = (Keyed.keys declared).toFinset.card ∧
    ∀ path entries (e : String × List Entry) (i : Nat), e.1 ≠ path →
      (((ofList declared).insert path entries).fields[i]? = some e ↔
        (ofList declared).fields[i]? = some e) := by
  have hcome := firstCome_ofList declared
  refine ⟨(ofList declared).nodup, fun paths => ⟨fun h => h.unique hcome, ?_⟩, fun path => ?_,
    size_ofList declared, fun path entries e i he => ?_⟩
  · rintro rfl
    exact hcome
  · refine ⟨fun entries => get?_ofList_eq_some_iff, get?_ofList_eq_none_iff, fun entries => ?_⟩
    exact (Keyed.find?_eq_some_iff_mem (ofList declared).nodup).symm
  · exact Keyed.getElem?_put_eq_some_iff he entries (ofList declared).fields i

/-- The age keeps its place behind a mail address that is declared for a third time. -/
theorem ofList_keeps_places_of_mail :
    let specs := ofList [("mail", [.directive "email"]), ("age", [.directive "integer"]),
      ("mail", [.directive "required"])]
    "age" ≠ "mail" ∧
      (specs.insert "mail" []).fields[1]? = some ("age", [.directive "integer"]) := by
  have hne : ("age", [Entry.directive "integer"]).1 ≠ "mail" := by decide
  obtain ⟨-, -, -, -, hplace⟩ := ofList_keeps_places [("mail", [.directive "email"]),
    ("age", [.directive "integer"]), ("mail", [.directive "required"])]
  exact ⟨hne, (hplace "mail" [] _ 1 hne).2 rfl⟩

end RecordRules.Specs
