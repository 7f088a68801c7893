import RecordRules.Directive
import RecordRules.Proofs.Text.Cut
import RecordRules.Proofs.Text.Trimmed

/-!
Reading directives. A text has no directive in it exactly if it is nothing but blanks, and otherwise
what stands before and after the first colon is trimmed. A directive that is printed can be read back
if its parts are trimmed and its name has no colon, and everything that is read is such a directive.
-/

namespace RecordRules.Directive

/-- Directives that print as they were read. -/
structure Tidy (d : Directive) : Prop where
  name_trimmed : Text.Trimmed d.name.toList
  colon_notMem : ':' ∉ d.name.toList
  param_trimmed : ∀ param ∈ d.param, Text.Trimmed param.toList
  name_ne_nil : d.param = none → d.name.toList ≠ []

theorem parse?_eq_none_iff {s : String} : parse? s = none ↔ Text.allBlank s.toList = true := by
  rw [← Text.trim_eq_nil_iff, parse?]
  by_cases h : Text.trim s.toList = [] <;> simp [h]

theorem parse?_of_colon_notMem {name : String} (h : ':' ∉ name.toList) :
    parse? name =
      if Text.allBlank name.toList then none
      else some ⟨String.ofList (Text.trim name.toList), none⟩ := by
  have hcolon : ':' ∉ Text.trim name.toList := fun hmem => h (Text.mem_of_mem_trim hmem)
  by_cases hblank : Text.allBlank name.toList = true
  · rw [if_pos hblank, parse?_eq_none_iff.2 hblank]
  · have htrim : Text.trim name.toList ≠ [] := mt Text.trim_eq_nil_iff.1 hblank
    rw [if_neg hblank, parse?, ofChars, Text.cutFirst?_eq_none hcolon]
    simp [htrim]

/-- The parts of a directive with a parameter are trimmed on their own. -/
theorem parse?_append_colon {name : String} (h : ':' ∉ name.toList) (param : String) :
    parse? (name ++ ":" ++ param) =
      some ⟨String.ofList (Text.trim name.toList), some (String.ofList (Text.trim param.toList))⟩ := by
  have hlist : (name ++ ":" ++ param).toList = name.toList ++ ':' :: param.toList := by simp
  have hcolon : ':' ∉ name.toList.dropWhile Text.isBlank :=
    fun hmem => h ((List.dropWhile_sublist Text.isBlank).mem hmem)
  rw [parse?, hlist, Text.trim_append_cons (by decide), ofChars,
    Text.cutFirst?_append_cons hcolon]
  simp [Text.trim_dropWhile_isBlank, Text.trim_trimRight]

theorem parse?_of_trimmed {s : String} (h : Text.Trimmed s.toList) (hne : s.toList ≠ []) :
    parse? s = some (ofChars s.toList) := by
  rw [parse?, Text.trim_eq_self h]
  simp [hne]

theorem parse?_print {d : Directive} (h : d.Tidy) : parse? d.print = some d := by
  obtain ⟨name, param⟩ := d
  have hname := h.name_trimmed
  cases param with
  | none =>
      rw [print, parse?_of_trimmed hname (h.name_ne_nil rfl), ofChars,
        Text.cutFirst?_eq_none h.colon_notMem]
      simp
  | some param =>
      have hparam : Text.Trimmed param.toList := h.param_trimmed param rfl
      have hlist : (name ++ ":" ++ param).toList = name.toList ++ ':' :: param.toList := by simp
      have htrimmed : Text.Trimmed (name ++ ":" ++ param).toList := by
        rw [hlist]
        exact Text.trimmed_append_cons hname (by decide) hparam
      rw [print, parse?_of_trimmed htrimmed (by simp [hlist]), ofChars, hlist,
        Text.cutFirst?_append_cons h.colon_notMem]
      simp [Text.trim_eq_self hname, Text.trim_eq_self hparam]

/-! ### From texts and back -/

theorem tidy_ofChars {cs : List Char} (h : Text.Trimmed cs) (hne : cs ≠ []) : (ofChars cs).Tidy := by
  by_cases hcolon : ':' ∈ cs
  · obtain ⟨name, param, rfl, hname⟩ := List.eq_append_cons_of_mem hcolon
    rw [ofChars, Text.cutFirst?_append_cons hname]
    exact
      { name_trimmed := by simpa using Text.trimmed_trim name
        colon_notMem := by simpa using fun hmem => hname (Text.mem_of_mem_trim hmem)
        param_trimmed := by simpa using Text.trimmed_trim param
        name_ne_nil := by simp }
  · rw [ofChars, Text.cutFirst?_eq_none hcolon]
    exact
      { name_trimmed := by simpa using h
        colon_notMem := by simpa using hcolon
        param_trimmed := by simp
        name_ne_nil := by simpa using hne }

theorem parse_of_parse? {s : String} {d : Directive} (h : parse? s = some d) : parse s = .ok d := by
  rw [parse, h]

/-- What is read is tidy, so it can be printed and read again. -/
theorem exists_parse_of_not_blank {s : String} (h : ¬ Text.allBlank s.toList = true) :
    ∃ d, parse s = .ok d ∧ d.Tidy ∧ parse d.print = .ok d := by
  have hne : Text.trim s.toList ≠ [] := mt Text.trim_eq_nil_iff.1 h
  have htidy := tidy_ofChars (Text.trimmed_trim s.toList) hne
  have hread : parse? s = some (ofChars (Text.trim s.toList)) := by
    rw [parse?]
    simp [hne]
  exact ⟨_, parse_of_parse? hread, htidy, parse_of_parse? (parse?_print htidy)⟩

section Spaced

variable {name param w₁ w₂ w₃ w₄ : String}

theorem colon_notMem_of_allBlank (h : Text.allBlank w₁.toList = true) : ':' ∉ w₁.toList :=
  fun hmem => absurd (List.all_eq_true.1 h _ hmem) (by decide)

theorem trim_spaced (hname : Text.Trimmed name.toList) (h₁ : Text.allBlank w₁.toList = true)
    (h₂ : Text.allBlank w₂.toList = true) :
    Text.trim (w₁ ++ name ++ w₂).toList = name.toList := by
  rw [String.toList_append, String.toList_append, Text.trim_append_append h₁ h₂,
    Text.trim_eq_self hname]

theorem colon_notMem_spaced (hname : ':' ∉ name.toList) (h₁ : Text.allBlank w₁.toList = true)
    (h₂ : Text.allBlank w₂.toList = true) : ':' ∉ (w₁ ++ name ++ w₂).toList := by
  simp [hname, colon_notMem_of_allBlank h₁, colon_notMem_of_allBlank h₂]

/-- Blanks around the name and around the parameter do not count. -/
theorem parse_spaced_param (hname : Text.Trimmed name.toList) (hcolon : ':' ∉ name.toList)
    (hparam : Text.Trimmed param.toList) (h₁ : Text.allBlank w₁.toList = true)
    (h₂ : Text.allBlank w₂.toList = true) (h₃ : Text.allBlank w₃.toList = true)
    (h₄ : Text.allBlank w₄.toList = true) :
    parse (w₁ ++ name ++ w₂ ++ ":" ++ (w₃ ++ param ++ w₄)) = .ok ⟨name, some param⟩ := by
  refine parse_of_parse? ?_
  rw [parse?_append_colon (colon_notMem_spaced hcolon h₁ h₂), trim_spaced hname h₁ h₂,
    trim_spaced hparam h₃ h₄, String.ofList_toList, String.ofList_toList]

theorem parse_spaced_name (hname : Text.Trimmed name.toList) (hcolon : ':' ∉ name.toList)
    (hne : name ≠ "") (h₁ : Text.allBlank w₁.toList = true) (h₂ : Text.allBlank w₂.toList = true) :
    parse (w₁ ++ name ++ w₂) = .ok ⟨name, none⟩ := by
  have hblank : ¬ Text.allBlank (w₁ ++ name ++ w₂).toList = true := by
    rw [← Text.trim_eq_nil_iff, trim_spaced hname h₁ h₂]
    simpa using hne
  refine parse_of_parse? ?_
  rw [parse?_of_colon_notMem (colon_notMem_spaced hcolon h₁ h₂), if_neg hblank,
    trim_spaced hname h₁ h₂, String.ofList_toList]

end Spaced

/-- A directive is read from its name and its parameter with any blanks around them. Only blanks are
no directive, and everything else is one that is tidy and comes back when it is printed and read. -/
theorem parse_inverts_print :
    (∀ name param w₁ w₂ w₃ w₄ : String, Text.Trimmed name.toList → ':' ∉ name.toList →
      Text.Trimmed param.toList → (∀ w ∈ [w₁, w₂, w₃, w₄], Text.allBlank w.toList = true) →
      parse (w₁ ++ name ++ w₂ ++ ":" ++ (w₃ ++ param ++ w₄)) = .ok ⟨name, some param⟩) ∧
    (∀ name w₁ w₂ : String, Text.Trimmed name.toList → ':' ∉ name.toList → name ≠ "" →
      (∀ w ∈ [w₁, w₂], Text.allBlank w.toList = true) →
      parse (w₁ ++ name ++ w₂) = .ok ⟨name, none⟩) ∧
    (∀ s : String, if Text.allBlank s.toList then parse s = .error Message.emptyDirective.fault
      else ∃ d, parse s = .ok d ∧ d.Tidy ∧ parse d.print = .ok d) := by
  refine ⟨fun name param w₁ w₂ w₃ w₄ hname hcolon hparam hblank => ?_,
    fun name w₁ w₂ hname hcolon hne hblank => ?_, fun s => ?_⟩
  · exact parse_spaced_param hname hcolon hparam (hblank w₁ (by simp)) (hblank w₂ (by simp))
      (hblank w₃ (by simp)) (hblank w₄ (by simp))
  · exact parse_spaced_name hname hcolon hne (hblank w₁ (by simp)) (hblank w₂ (by simp))
  · split
    next h => rw [parse, parse?_eq_none_iff.2 h]
    next h => exact exists_parse_of_not_blank h

/-- A time of day as a parameter keeps its colon, an ideographic space in front of a name is blank,
and the printed directive is read again. -/
theorem parse_inverts_print_of_time :
    parse "\t datetime :  H:i \n" = .ok ⟨"datetime", some "H:i"⟩ ∧
      parse "\u3000required " = .ok ⟨"required", none⟩ ∧
      parse (print ⟨"datetime", some "H:i"⟩) = .ok ⟨"datetime", some "H:i"⟩ := by
  obtain ⟨hparam, hname, hback⟩ := parse_inverts_print
  have htime := hparam "datetime" "H:i" "\t " " " "  " " \n" (by decide) (by decide) (by decide)
    (by decide)
  refine ⟨htime, hname "required" "\u3000" " " (by decide) (by decide) (by decide) (by decide), ?_⟩
  have hsome := hback "\t datetime :  H:i \n"
  rw [if_neg (by decide)] at hsome
  obtain ⟨d, hd, -, hprint⟩ := hsome
  cases hd.symm.trans htime
  exact hprint

end RecordRules.Directive
