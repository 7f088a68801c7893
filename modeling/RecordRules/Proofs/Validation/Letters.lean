import RecordRules.Proofs.CustomMessages
import RecordRules.Proofs.Validation.Refusal

/-!
Letter case in the names of rules. A specification with all names in small letters is refused for the
same causes, and the refusals differ in nothing but the names they quote. So two specifications that
differ only in the case of ASCII letters in their rules' names, with custom messages that differ only
in the same way, give the same results; but a name of no rule is reported as it is written.
-/

namespace RecordRules

/-! ### Names in small letters -/

def Directive.lowerCase (d : Directive) : Directive :=
  ⟨Text.lowerCase d.name, d.param⟩

@[simp] theorem Directive.isNamed_lowerCase (d : Directive) (name : String) :
    d.lowerCase.isNamed name = d.isNamed name :=
  Text.sameLetters_lowerCase d.name name

@[simp] theorem Builtin.lookup?_lowerCase (name : String) :
    lookup? (Text.lowerCase name) = lookup? name := by
  ext rule
  rw [lookup?_eq_some_iff, lookup?_eq_some_iff, Text.lowerCase_lowerCase]

namespace Check

def lowerCase : Check → Check
  | standard d => standard d.lowerCase
  | custom p => custom p

section

variable (check : Check)

@[simp] theorem isDirective_lowerCase (name : String) :
    check.lowerCase.isDirective name = check.isDirective name := by
  cases check <;> simp [lowerCase]

@[simp] theorem lacksSibling_lowerCase : check.lowerCase.lacksSibling = check.lacksSibling := by
  cases check <;> simp [lowerCase, Directive.lowerCase, Directive.isNamed]

@[simp] theorem sibling?_lowerCase : check.lowerCase.sibling? = check.sibling? := by
  cases check with
  | custom p => rfl
  | standard d =>
      rw [lowerCase, sibling?_standard, Directive.isNamed_lowerCase, sibling?_standard]
      rfl

@[simp] theorem isOrdinary_lowerCase : check.lowerCase.isOrdinary = check.isOrdinary := by
  simp [isOrdinary]

end

@[simp] theorem siblings_map_lowerCase (checks : List Check) :
    siblings (checks.map lowerCase) = siblings checks := by
  have hsibling : sibling? ∘ lowerCase = sibling? := funext sibling?_lowerCase
  rw [siblings, List.filterMap_map, hsibling, siblings]

theorem filter_isOrdinary_map_lowerCase (checks : List Check) :
    (checks.map lowerCase).filter isOrdinary = (checks.filter isOrdinary).map lowerCase := by
  have hordinary : isOrdinary ∘ lowerCase = isOrdinary := funext isOrdinary_lowerCase
  rw [List.filter_map, hordinary]

end Check

namespace Refusal

def lowerCase : Refusal → Refusal
  | unknownRule field name => unknownRule field (Text.lowerCase name)
  | objection field name m => objection field (Text.lowerCase name) m
  | refusal => refusal

/-- Refusals that are the same in small letters are reported in the same way, unless the report
quotes the name of no rule. -/
theorem report_eq_or_of_lowerCase_eq {a b : Refusal} (h : a.lowerCase = b.lowerCase)
    (messages : CustomMessages) (localizer : Localizer) :
    a.report messages localizer = b.report messages localizer ∨
      ∃ field name other, Text.sameLetters name other = true ∧
        a = unknownRule field name ∧ b = unknownRule field other := by
  cases a with
  | unknownRule field name =>
      cases b with
      | unknownRule f other =>
          obtain ⟨rfl, hname⟩ := unknownRule.inj h
          exact .inr ⟨field, name, other, Text.sameLetters_iff.2 hname, rfl, rfl⟩
      | blank | requirement | nameless | predicate | objection => cases h
  | objection field name m =>
      cases b with
      | objection f other n =>
          obtain ⟨rfl, hname, rfl⟩ := objection.inj h
          have htext : messages.get? field name = messages.get? field other := by
            rw [← messages.get?_lowerCase, hname, messages.get?_lowerCase]
          exact .inl (by rw [report, report, htext])
      | blank | requirement | nameless | predicate | unknownRule => cases h
  | blank | requirement | nameless | predicate =>
      -- these are their own small letters, so the other refusal is the same one
      cases b <;> cases h
      exact .inl rfl

end Refusal

/-! ### What is refused in small letters -/

section

variable (isFile : String → Bool) (record : Value) (field : String)

theorem Check.refusal?_lowerCase (value : Value) (check : Check) :
    check.lowerCase.refusal? isFile field value =
      (check.refusal? isFile field value).map Refusal.lowerCase := by
  cases check with
  | custom predicate =>
      by_cases hfalse : predicate value = some false <;>
        simp [lowerCase, refusal?, hfalse, Refusal.lowerCase]
  | standard d =>
      simp only [lowerCase, Directive.lowerCase, refusal?, Text.lowerCase_eq_empty_iff,
        Builtin.lookup?_lowerCase]
      by_cases hname : d.name = ""
      · simp [hname, Refusal.lowerCase]
      · cases Builtin.lookup? d.name with
        | none => simp [hname, Refusal.lowerCase]
        | some rule =>
            rw [if_neg hname, if_neg hname, Option.map_map]
            rfl

theorem requirementRefusal?_map_lowerCase (checks : List Check) :
    requirementRefusal? record field (checks.map Check.lowerCase) =
      (requirementRefusal? record field checks).map Refusal.lowerCase := by
  have htrials : requirementTrials record field (checks.map Check.lowerCase) =
      requirementTrials record field checks := by
    simp [requirementTrials, Function.comp_def]
  rw [requirementRefusal?, htrials, requirementRefusal?, Option.map_map]
  rfl

theorem fieldRefusal?_map_lowerCase (checks : List Check) :
    fieldRefusal? isFile record field (checks.map Check.lowerCase) =
      (fieldRefusal? isFile record field checks).map Refusal.lowerCase := by
  have hcheck (value : Value) : Check.refusal? isFile field value ∘ Check.lowerCase =
      fun check => (check.refusal? isFile field value).map Refusal.lowerCase :=
    funext fun check => check.refusal?_lowerCase isFile field value
  rw [fieldRefusal?, fieldRefusal?, requirementRefusal?_map_lowerCase, Option.map_or]
  congr 1
  rw [checkRefusal?, checkRefusal?]
  cases record.resolve? field with
  | none => rfl
  | some value =>
      simp only [Check.filter_isOrdinary_map_lowerCase, List.findSome?_map, hcheck, List.map_findSome?]
      rfl

end

theorem Check.eq_of_refusal?_eq_unknownRule {isFile : String → Bool} {field f name : String}
    {value : Value} {check : Check}
    (h : check.refusal? isFile field value = some (.unknownRule f name)) :
    field = f ∧ ∃ d, check = .standard d ∧ d.name = name := by
  cases check with
  | custom predicate => simp [refusal?] at h
  | standard d =>
      rw [refusal?] at h
      split at h
      · cases h
      · split at h
        · obtain ⟨hfield, hname⟩ := Refusal.unknownRule.inj (Option.some.inj h)
          exact ⟨hfield, d, rfl, hname⟩
        · obtain ⟨m, -, hm⟩ := Option.map_eq_some_iff.1 h
          cases hm

/-! ### The same rules -/

/-- Entries that differ at most in the letter case of the rule's name, which is what stands before
the first colon of a directive. -/
inductive Entry.SameRule : Entry → Entry → Prop
  | predicate (p : Predicate) : SameRule (predicate p) (predicate p)
  | named {name other : String} (noColon : ':' ∉ name.toList)
      (sameLetters : Text.sameLetters name other = true) :
      SameRule (directive name) (directive other)
  | withParam {name other : String} (param : String) (noColon : ':' ∉ name.toList)
      (sameLetters : Text.sameLetters name other = true) :
      SameRule (directive (name ++ ":" ++ param)) (directive (other ++ ":" ++ param))

namespace Entry.SameRule

theorem map_check?_eq {entry other : Entry} (h : SameRule entry other) :
    entry.check?.map Check.lowerCase = other.check?.map Check.lowerCase := by
  have htrim {a b : String} (same : Text.sameLetters a b = true) :
      Text.lowerCase (String.ofList (Text.trim a.toList)) =
        Text.lowerCase (String.ofList (Text.trim b.toList)) := by
    rw [Text.lowerCase_trim, Text.sameLetters_iff.1 same, Text.lowerCase_trim]
  cases h with
  | predicate p => rfl
  | @named name other noColon same =>
      have hother := Text.notMem_of_sameLetters same (by decide) noColon
      rw [check?, check?, Directive.parse?_of_colon_notMem noColon,
        Directive.parse?_of_colon_notMem hother, Text.allBlank_of_sameLetters same]
      by_cases hblank : Text.allBlank other.toList = true
      · simp [hblank]
      · simp [hblank, Check.lowerCase, Directive.lowerCase, htrim same]
  | withParam param noColon same =>
      have hother := Text.notMem_of_sameLetters same (by decide) noColon
      rw [check?, check?, Directive.parse?_append_colon noColon,
        Directive.parse?_append_colon hother]
      simp [Check.lowerCase, Directive.lowerCase, htrim same]

theorem isBlank_eq {entry other : Entry} (h : SameRule entry other) :
    entry.isBlank = other.isBlank := by
  rw [Bool.eq_iff_iff, ← check?_eq_none_iff, ← check?_eq_none_iff,
    ← Option.map_eq_none_iff (f := Check.lowerCase), h.map_check?_eq, Option.map_eq_none_iff]

end Entry.SameRule

section

variable {entries others : List Entry}

theorem map_lowerCase_checks_eq (h : List.Forall₂ Entry.SameRule entries others) :
    (entries.filterMap Entry.check?).map Check.lowerCase =
      (others.filterMap Entry.check?).map Check.lowerCase := by
  rw [List.map_filterMap, List.map_filterMap]
  induction h with
  | nil => rfl
  | cons hentry _ ih => rw [List.filterMap_cons, List.filterMap_cons, hentry.map_check?_eq, ih]

theorem any_isBlank_eq (h : List.Forall₂ Entry.SameRule entries others) :
    entries.any Entry.isBlank = others.any Entry.isBlank := by
  induction h with
  | nil => rfl
  | cons hentry _ ih => rw [List.any_cons, List.any_cons, hentry.isBlank_eq, ih]

end

/-- The same fields in the same order, with entries that differ at most in the letter case of their
rules' names. -/
def SameFields (fields others : List (String × List Entry)) : Prop :=
  List.Forall₂ (fun e f => e.1 = f.1 ∧ List.Forall₂ Entry.SameRule e.2 f.2) fields others

namespace SameFields

variable {fields others : List (String × List Entry)}

theorem blank_eq (h : SameFields fields others) :
    (fields.find? fun e => e.2.any Entry.isBlank).map Prod.fst =
      (others.find? fun e => e.2.any Entry.isBlank).map Prod.fst := by
  induction h with
  | nil => rfl
  | cons hfield _ ih =>
      rw [List.find?_cons, List.find?_cons, any_isBlank_eq hfield.2]
      split
      · exact congrArg some hfield.1
      · exact ih

theorem map_fieldsRefusal?_eq (h : SameFields fields others) (isFile : String → Bool)
    (record : Value) :
    (fieldsRefusal? isFile record fields).map Refusal.lowerCase =
      (fieldsRefusal? isFile record others).map Refusal.lowerCase := by
  induction h with
  | nil => rfl
  | cons hfield _ ih =>
      rw [fieldsRefusal?_cons, fieldsRefusal?_cons, Option.map_or, Option.map_or, ih,
        ← fieldRefusal?_map_lowerCase, ← fieldRefusal?_map_lowerCase, hfield.1,
        map_lowerCase_checks_eq hfield.2]

end SameFields

namespace Specs

theorem map_refusal?_eq {specs other : Specs} (h : SameFields specs.fields other.fields)
    (isFile : String → Bool) (record : Value) :
    (specs.refusal? isFile record).map Refusal.lowerCase =
      (other.refusal? isFile record).map Refusal.lowerCase := by
  rw [refusal?, refusal?, blankField?, blankField?, h.blank_eq, Option.map_or, Option.map_or,
    h.map_fieldsRefusal?_eq]

/-- The field has a directive in which that name is written. -/
def Writes (specs : Specs) (field name : String) : Prop :=
  ∃ e ∈ specs.fields, e.1 = field ∧
    ∃ raw d, .directive raw ∈ e.2 ∧ Directive.parse? raw = some d ∧ d.name = name

/-- A name of no rule is reported as a directive of the field has it. -/
theorem writes_of_refusal? {specs : Specs} {isFile : String → Bool} {record : Value}
    {field name : String} (h : specs.refusal? isFile record = some (.unknownRule field name)) :
    specs.Writes field name := by
  rcases cases_of_refusal? h with ⟨f, -, hf⟩ | ⟨-, before, e, after, hfields, -, he⟩
  · cases hf
  rcases cases_of_fieldRefusal? he with ⟨fault, -, hfault⟩ | ⟨value, -, check, hcheck, hrefusal⟩
  · cases hfault
  obtain ⟨hfield, d, rfl, hname⟩ := Check.eq_of_refusal?_eq_unknownRule hrefusal
  obtain ⟨entry, hentry, hread⟩ := List.mem_filterMap.1 (List.mem_of_mem_filter hcheck)
  have hmem : e ∈ specs.fields := hfields ▸ List.mem_append_right before List.mem_cons_self
  cases entry with
  | predicate p => cases hread
  | directive raw =>
      obtain ⟨d', hparse, hd⟩ := Option.map_eq_some_iff.1 hread
      cases hd
      exact ⟨e, hmem, hfield, raw, d, hentry, hparse, hname⟩

end Specs

namespace Validator

/-- Letter case in the names of rules does not matter, in directives or in custom messages. -/
theorem validate_result_of_sameFields (localizers : List Localizer)
    (calls otherCalls : List (Call localizers.length)) (i : Fin localizers.length)
    (isFile : String → Bool) (specs other : Specs) (messages others : List (String × String))
    (record : Value) (hspecs : SameFields specs.fields other.fields)
    (hmessages : CustomMessages.SameMessages messages others) :
    let result := (validate isFile ⟨specs, .ofList messages⟩ record
      (((Pool.new localizers).after calls).session i)).result
    let otherResult := (validate isFile ⟨other, .ofList others⟩ record
      (((Pool.new localizers).after otherCalls).session i)).result
    result = otherResult ∨
      ∃ field name otherName, specs.Writes field name ∧ other.Writes field otherName ∧
        Text.sameLetters name otherName = true ∧
        result = .error ((Message.unknownRule name).fault.onField field) ∧
        otherResult = .error ((Message.unknownRule otherName).fault.onField field) := by
  intro result otherResult
  have hnew := Pool.sound_new localizers
  have hresult : result = ending _ _ record _ :=
    (hnew.after calls).validate_result_eq_ending i isFile ⟨specs, .ofList messages⟩ record
  have hother : otherResult = ending _ _ record _ :=
    (hnew.after otherCalls).validate_result_eq_ending i isFile ⟨other, .ofList others⟩ record
  have hrefusal := Specs.map_refusal?_eq hspecs isFile record
  rw [← hmessages.ofList_eq] at hother
  cases ha : specs.refusal? isFile record with
  | none =>
      rw [ha, Option.map_none, eq_comm, Option.map_eq_none_iff] at hrefusal
      exact .inl (by rw [hresult, hother, ha, hrefusal])
  | some a =>
      rw [ha, Option.map_some, eq_comm, Option.map_eq_some_iff] at hrefusal
      obtain ⟨b, hb, hsame⟩ := hrefusal
      rw [ha] at hresult
      rw [hb] at hother
      rcases Refusal.report_eq_or_of_lowerCase_eq hsame.symm (.ofList messages)
        (localizers.get i) with hreport | ⟨field, name, otherName, hname, rfl, rfl⟩
      · exact .inl (by rw [hresult, hother, ending, ending, hreport])
      · exact .inr ⟨field, name, otherName, Specs.writes_of_refusal? ha,
          Specs.writes_of_refusal? hb, hname, hresult, hother⟩

/-- A required year with a bound, all in small letters and all in odd ones, with a custom message for
the bound. -/
theorem validate_result_of_odd_letters :
    let specs := Specs.ofList
      [("born.year", [.directive "required", .directive " min : 1900", .directive "leap"])]
    let other := Specs.ofList
      [("born.year", [.directive "ReQuired", .directive " MIN : 1900", .directive "LEAP"])]
    let record := Value.object [("born", .object [("year", .string "1899")])]
    let result := (validate (fun _ => false) ⟨specs, .ofList [("born.year.Min", "Too old.")]⟩ record
      ((Pool.new [.english]).session 0)).result
    let otherResult := (validate (fun _ => false)
      ⟨other, .ofList [("born.year.mIN", "Too old.")]⟩ record
      (((Pool.new [.english]).after [(⟨0, .create "MiN"⟩ : Call 1)]).session 0)).result
    SameFields specs.fields other.fields ∧
      CustomMessages.SameMessages [("born.year.Min", "Too old.")] [("born.year.mIN", "Too old.")] ∧
      (result = otherResult ∨
        ∃ field name otherName, specs.Writes field name ∧ other.Writes field otherName ∧
          Text.sameLetters name otherName = true ∧
          result = .error ((Message.unknownRule name).fault.onField field) ∧
          otherResult = .error ((Message.unknownRule otherName).fault.onField field)) := by
  intro specs other record
  have hmin : Entry.SameRule (.directive " min : 1900") (.directive " MIN : 1900") :=
    @Entry.SameRule.withParam " min " " MIN " " 1900" (by decide) (by decide)
  have hspecs : SameFields specs.fields other.fields :=
    .cons ⟨rfl, .cons (.named (by decide) (by decide)) (.cons hmin
      (.cons (.named (by decide) (by decide)) .nil))⟩ .nil
  have hkey : SameKey "born.year.Min" "born.year.mIN" :=
    @SameKey.recased "born.year" "Min" "mIN" (by decide) (by decide)
  have hmessages : CustomMessages.SameMessages [("born.year.Min", "Too old.")]
      [("born.year.mIN", "Too old.")] := .cons ⟨hkey, rfl⟩ .nil
  exact ⟨hspecs, hmessages, validate_result_of_sameFields [.english] [] [⟨0, .create "MiN"⟩] 0
    (fun _ => false) specs other _ _ record hspecs hmessages⟩

end Validator

end RecordRules
