import RecordRules.Proofs.Validation.Requirement

/-!
The decision table of requirements. The directives of a field say whether it is required and which
siblings it has, or they are refused because one of them names no sibling. Of the rows of the table
exactly one applies to a record, and the text that it says, if any, is that of the one fault that is
found. A row that blames several fields quotes all of them.
-/

namespace RecordRules

/-! ### The directives of one name -/

namespace Check

/-- The directives of that name among some checks, in any letter case and in their order. -/
def directivesNamed (name : String) (checks : List Check) : List Directive :=
  checks.filterMap fun
    | standard d => if Text.sameLetters d.name name then some d else none
    | custom _ => none

variable {name : String} {checks : List Check}

theorem directivesNamed_standard (d : Directive) (checks : List Check) :
    directivesNamed name (standard d :: checks) =
      if d.isNamed name then d :: directivesNamed name checks else directivesNamed name checks := by
  rw [directivesNamed, Directive.isNamed]
  split
  next h => exact List.filterMap_cons_some (if_pos h)
  next h => exact List.filterMap_cons_none (if_neg h)

theorem directivesNamed_custom (p : Predicate) (checks : List Check) :
    directivesNamed name (custom p :: checks) = directivesNamed name checks :=
  List.filterMap_cons_none rfl

theorem mem_directivesNamed {d : Directive} :
    d ∈ directivesNamed name checks ↔ standard d ∈ checks ∧ d.isNamed name = true := by
  rw [directivesNamed, List.mem_filterMap, Directive.isNamed]
  constructor
  · rintro ⟨found | p, hmem, hfound⟩
    · obtain ⟨hnamed, hd⟩ := Option.ite_none_right_eq_some.1 hfound
      cases hd
      exact ⟨hmem, hnamed⟩
    · cases hfound
  · rintro ⟨hmem, hnamed⟩
    exact ⟨_, hmem, if_pos hnamed⟩

theorem any_isDirective_iff :
    checks.any (isDirective name) = true ↔ directivesNamed name checks ≠ [] := by
  rw [List.any_eq_true, ne_eq, List.eq_nil_iff_forall_not_mem, not_forall_not]
  simp only [mem_directivesNamed]
  constructor
  · rintro ⟨d | p, hmem, hnamed⟩
    · exact ⟨d, hmem, hnamed⟩
    · cases hnamed
  · rintro ⟨d, hmem, hnamed⟩
    exact ⟨standard d, hmem, hnamed⟩

theorem exists_lacksSibling_iff : (∃ check ∈ checks, check.lacksSibling = true) ↔
    ∃ d ∈ directivesNamed "requiredWithout" checks, d.param = none ∨ d.param = some "" := by
  have hlacks (d : Directive) : (standard d).lacksSibling = true ↔
      d.isNamed "requiredWithout" = true ∧ (d.param = none ∨ d.param = some "") := by
    rw [lacksSibling_standard, Bool.and_eq_true, beq_iff_eq]
    cases d.param <;> simp
  simp only [mem_directivesNamed]
  constructor
  · rintro ⟨d | p, hmem, h⟩
    · exact ⟨d, ⟨hmem, ((hlacks d).1 h).1⟩, ((hlacks d).1 h).2⟩
    · cases h
  · rintro ⟨d, ⟨hmem, hnamed⟩, hparam⟩
    exact ⟨_, hmem, (hlacks d).2 ⟨hnamed, hparam⟩⟩

/-- If every directive names a sibling, the siblings are the parameters. -/
theorem map_param_directivesNamed
    (h : ∀ d ∈ directivesNamed "requiredWithout" checks, ¬ (d.param = none ∨ d.param = some "")) :
    (directivesNamed "requiredWithout" checks).map Directive.param =
      (siblings checks).map some := by
  induction checks with
  | nil => rfl
  | cons check checks ih =>
      cases check with
      | custom p =>
          rw [directivesNamed_custom] at h ⊢
          exact ih h
      | standard d =>
          rw [directivesNamed_standard] at h ⊢
          by_cases hnamed : d.isNamed "requiredWithout" = true
          · rw [if_pos hnamed] at h ⊢
            obtain ⟨hd, hrest⟩ := List.forall_mem_cons.1 h
            obtain ⟨hnone, hempty⟩ := not_or.1 hd
            obtain ⟨sibling, hparam⟩ := Option.ne_none_iff_exists'.1 hnone
            have hsibling : (standard d).sibling? = some sibling := by
              have hne : sibling ≠ "" := fun heq => hempty (heq ▸ hparam)
              simp [hnamed, hparam, Option.filter, hne]
            rw [List.map_cons, ih hrest, hparam, siblings, siblings,
              List.filterMap_cons_some hsibling, List.map_cons]
          · rw [if_neg hnamed] at h ⊢
            have hsibling : (standard d).sibling? = none := by simp [hnamed]
            rw [ih h, siblings, siblings, List.filterMap_cons_none hsibling]

end Check

/-! ### What is said of several fields -/

/-- What is said when a field and one of its siblings are both there. -/
def conflictText (field : String) (siblings : List String) : String :=
  "Only one of fields '" ++ field ++ "' or " ++ siblingText siblings ++ " can be present."

/-- What is said when neither a field nor any of its siblings is there. -/
def absenceText (field : String) (siblings : List String) : String :=
  "Either field '" ++ field ++ "' or " ++ siblingText siblings ++ " must be present."

/-- The path stands in the text, in quotes. -/
def Quotes (text path : String) : Prop :=
  ∃ before after, text = before ++ ("'" ++ path ++ "'") ++ after

theorem Quotes.within {text path : String} (h : Quotes text path) (before after : String) :
    Quotes (before ++ text ++ after) path := by
  obtain ⟨front, back, rfl⟩ := h
  exact ⟨before ++ front, back ++ after, by simp only [String.append_assoc]⟩

theorem quotes_quotedPaths {path : String} {paths : List String} (h : path ∈ paths) :
    Quotes (quotedPaths paths) path := by
  induction paths with
  | nil => cases h
  | cons first paths ih =>
      cases paths with
      | nil =>
          rw [List.mem_singleton.1 h]
          exact ⟨"", "", by simp [quotedPaths]⟩
      | cons next paths =>
          rcases List.mem_cons.1 h with rfl | hmem
          · exact ⟨"", ", " ++ quotedPaths (next :: paths), by
              simp only [quotedPaths, String.empty_append, String.append_assoc]⟩
          · simpa [quotedPaths] using (ih hmem).within ("'" ++ first ++ "'" ++ ", ") ""

theorem quotes_siblingText {path : String} {siblings : List String} (h : path ∈ siblings) :
    Quotes (siblingText siblings) path := by
  have hquoted := quotes_quotedPaths h
  match siblings with
  | [_] => exact hquoted
  | [] | _ :: _ :: _ => simpa [siblingText] using hquoted.within "one of " ""

section

variable {path field : String} {siblings : List String}

/-- A text that quotes the field and then gives its siblings quotes all of them. -/
theorem quotes_of_mem_cons {start before : String} (hstart : start = before ++ "'")
    (h : path ∈ field :: siblings) (after : String) :
    Quotes (start ++ field ++ "' or " ++ siblingText siblings ++ after) path := by
  rcases List.mem_cons.1 h with rfl | hmem
  · have hbetween : "' or " = "'" ++ " or " := by simp
    refine ⟨before, " or " ++ siblingText siblings ++ after, ?_⟩
    rw [hstart, hbetween]
    simp only [String.append_assoc]
  · exact (quotes_siblingText hmem).within (start ++ field ++ "' or ") after

theorem quotes_conflictText (h : path ∈ field :: siblings) :
    Quotes (conflictText field siblings) path := by
  have hstart : "Only one of fields '" = "Only one of fields " ++ "'" := by simp
  exact quotes_of_mem_cons hstart h " can be present."

theorem quotes_absenceText (h : path ∈ field :: siblings) :
    Quotes (absenceText field siblings) path := by
  have hstart : "Either field '" = "Either field " ++ "'" := by simp
  exact quotes_of_mem_cons hstart h " must be present."

end

theorem fault_onlyOneFieldAllowed (field : String) (siblings : List String) :
    (Message.onlyOneFieldAllowed field (fieldList siblings)).fault =
      ⟨.requirement, some field, conflictText field siblings⟩ := by
  rw [fieldList_eq_siblingText]
  rfl

theorem fault_eitherFieldRequired (field : String) (siblings : List String) :
    (Message.eitherFieldRequired field (fieldList siblings)).fault =
      ⟨.requirement, some field, absenceText field siblings⟩ := by
  rw [fieldList_eq_siblingText]
  rfl

/-! ### The table -/

namespace Requirement

/-- The rows of the table, for a field that is required or not and has these siblings. A row says
which paths have to lead to a value, and the text that is due, if any. -/
inductive Decides (present : String → Prop) (field : String) (required : Prop)
    (siblings : List String) : Option String → Prop
  | selfReference (self : field ∈ siblings) :
      Decides present field required siblings
        (some "Rule 'requiredWithout' must not reference the field itself.")
  | conflict (other : field ∉ siblings) (here : present field)
      (beside : ∃ sibling ∈ siblings, present sibling) :
      Decides present field required siblings (some (conflictText field siblings))
  | alone (other : field ∉ siblings) (here : present field)
      (nobody : ∀ sibling ∈ siblings, ¬ present sibling) :
      Decides present field required siblings none
  | missing (other : field ∉ siblings) (away : ¬ present field) (needed : required) :
      Decides present field required siblings
        (some ("Required field '" ++ field ++ "' is missing."))
  | allMissing (other : field ∉ siblings) (away : ¬ present field) (optional : ¬ required)
      (someSibling : siblings ≠ []) (nobody : ∀ sibling ∈ siblings, ¬ present sibling) :
      Decides present field required siblings (some (absenceText field siblings))
  | replaced (other : field ∉ siblings) (away : ¬ present field) (optional : ¬ required)
      (beside : ∃ sibling ∈ siblings, present sibling) :
      Decides present field required siblings none
  | unneeded (away : ¬ present field) (optional : ¬ required) (noSibling : siblings = []) :
      Decides present field required siblings none

/-- No two rows disagree. -/
theorem Decides.unique {present : String → Prop} {field : String} {required : Prop}
    {siblings : List String} {text? text?' : Option String}
    (h : Decides present field required siblings text?)
    (h' : Decides present field required siblings text?') : text? = text?' := by
  cases h <;> cases h' <;> grind

/-- Every record falls under some row, and what is found wrong with it is what the row says. -/
theorem exists_decides (r : Requirement) (field : String) (record : Value) :
    ∃ text?,
      Decides (fun path => record.has path = true) field (r.required = true) r.siblings text? ∧
        r.fault? field record = text?.map fun text => ⟨.requirement, some field, text⟩ := by
  have hconflict := fault_onlyOneFieldAllowed field r.siblings
  have habsence := fault_eitherFieldRequired field r.siblings
  by_cases hself : field ∈ r.siblings
  · have hfault : r.fault? field record =
        some (Message.requiredWithoutSelfReference.fault.onField field) := by
      simp [fault?, hself]
    exact ⟨_, .selfReference hself, hfault⟩
  by_cases hhere : record.has field = true
  · by_cases hbeside : ∃ sibling ∈ r.siblings, record.has sibling = true
    · exact ⟨_, .conflict hself hhere hbeside, by
        simp [fault?, alternatives, hself, hhere, hbeside, hconflict]⟩
    · have hnobody : ∀ sibling ∈ r.siblings, ¬ record.has sibling = true := by
        simpa using hbeside
      exact ⟨_, .alone hself hhere hnobody, by simp [fault?, hself, hhere, hbeside]⟩
  by_cases hneeded : r.required = true
  · have hfault : r.fault? field record = some (Message.requiredFieldMissing field).fault := by
      simp [fault?, hself, hhere, hneeded]
    exact ⟨_, .missing hself hhere hneeded, hfault⟩
  by_cases hnil : r.siblings = []
  · exact ⟨_, .unneeded hhere hneeded hnil, by simp [fault?, hhere, hneeded, hnil]⟩
  by_cases hbeside : ∃ sibling ∈ r.siblings, record.has sibling = true
  · exact ⟨_, .replaced hself hhere hneeded hbeside, by
      simp [fault?, hself, hhere, hneeded, hbeside]⟩
  · have hnobody : ∀ sibling ∈ r.siblings, ¬ record.has sibling = true := by
      simpa using hbeside
    exact ⟨_, .allMissing hself hhere hneeded hnil hnobody, by
      simpa [fault?, alternatives, hself, hhere, hneeded, hnil, habsence] using hnobody⟩

end Requirement

/-- The directives of a field are refused exactly if some `requiredWithout` names no sibling. All
others make a requirement, with the parameters of these directives in their order as its siblings,
and on every record exactly one row of the table applies and is reported as a fault of the field. -/
theorem fieldRequirement_decides (field : String) (checks : List Check) :
    if ∃ d ∈ Check.directivesNamed "requiredWithout" checks, d.param = none ∨ d.param = some "" then
      fieldRequirement field checks = .error ⟨.configuration, some field,
        "Rule 'requiredWithout' must be used with a field name."⟩
    else ∃ r, fieldRequirement field checks = .ok r ∧
      (Check.directivesNamed "requiredWithout" checks).map Directive.param =
        r.siblings.map some ∧
      (r.required = true ↔ Check.directivesNamed "required" checks ≠ []) ∧
      (∀ path ∈ field :: r.siblings,
        Quotes (conflictText field r.siblings) path ∧ Quotes (absenceText field r.siblings) path) ∧
      ∀ record : Value, ∃ text?,
        (∀ other, Requirement.Decides (fun path => ∃ value, record.resolve? path = some value)
          field (r.required = true) r.siblings other ↔ other = text?) ∧
        r.fault? field record = text?.map fun text => ⟨.requirement, some field, text⟩ := by
  rw [fieldRequirement_eq]
  simp only [Check.exists_lacksSibling_iff]
  split
  next => rfl
  next h =>
    refine ⟨_, rfl, Check.map_param_directivesNamed fun d hd hparam => h ⟨d, hd, hparam⟩,
      Check.any_isDirective_iff,
      fun path hpath => ⟨quotes_conflictText hpath, quotes_absenceText hpath⟩, fun record => ?_⟩
    obtain ⟨text?, hrow, hfault⟩ := Requirement.exists_decides _ field record
    simp only [Value.has, Option.isSome_iff_exists] at hrow
    exact ⟨text?, fun other => ⟨fun hother => hother.unique hrow, fun hother => hother ▸ hrow⟩,
      hfault⟩

/-- Two directives that name the same sibling, in different letters, make it stand in the text
twice. -/
theorem fieldRequirement_decides_repeated :
    let checks : List Check := [.standard ⟨"requiredWithout", some "b"⟩,
      .standard ⟨"REQUIREDWITHOUT", some "b"⟩]
    ∃ r, fieldRequirement "a" checks = .ok r ∧
      r.fault? "a" (.object [("a", .null), ("b", .null)]) = some ⟨.requirement, some "a",
        "Only one of fields 'a' or one of 'b', 'b' can be present."⟩ := by
  intro checks
  have hwithout : Check.directivesNamed "requiredWithout" checks =
      [⟨"requiredWithout", some "b"⟩, ⟨"REQUIREDWITHOUT", some "b"⟩] := by decide +kernel
  have htable := fieldRequirement_decides "a" checks
  rw [hwithout, if_neg (by decide)] at htable
  obtain ⟨r, hread, hsiblings, -, -, hrows⟩ := htable
  obtain ⟨text?, hrow, hfault⟩ := hrows (.object [("a", .null), ("b", .null)])
  have hr : r.siblings = ["b", "b"] :=
    List.map_injective_iff.2 (fun _ _ h => Option.some.inj h) hsiblings.symm
  rw [hr] at hrow
  have hdue := (hrow _).1 (.conflict (by decide) ⟨.null, rfl⟩ ⟨"b", by decide, .null, rfl⟩)
  refine ⟨r, hread, ?_⟩
  rw [hfault, ← hdue]
  rfl

/-- A required field is missing whether or not another one takes its place. -/
example : (Requirement.mk true ["phone"]).fault? "mail" (.object [("phone", .null)]) =
    some (Message.requiredFieldMissing "mail").fault := by
  decide

end RecordRules
