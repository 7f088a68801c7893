import RecordRules.Proofs.Keyed
import RecordRules.Proofs.Validation.Verdict
import Mathlib.Data.List.Forall2

/-!
Compiled specifications. Every entry is compiled on its own: a predicate stays what it is, and a
directive is read. So a specification is compiled field by field and entry by entry, in its own
order and with nothing added or left out, and a field is found in it under the same path as before.
It is not compiled exactly if some entry is a directive of nothing but blanks, and then the first
field that has one is reported.
-/

namespace RecordRules

/-- The check that an entry is compiled to. -/
inductive Entry.CompilesTo : Entry → Check → Prop
  | predicate (p : Predicate) : CompilesTo (predicate p) (.custom p)
  | directive {raw : String} {d : Directive} (read : Directive.parse raw = .ok d) :
      CompilesTo (directive raw) (.standard d)

/-- The same field, with a check for each entry. -/
def FieldCompilesTo (e : String × List Entry) (c : String × List Check) : Prop :=
  e.1 = c.1 ∧ List.Forall₂ Entry.CompilesTo e.2 c.2

section

variable {α β : Type} {field : String} {entry : Entry} {entries : List Entry} {check : Check}
variable {checks : List Check} {fields : List (String × List Entry)}
variable {compiled : List (String × List Check)} {fault : Fault}

theorem bind_eq_ok_iff {x : Except Fault α} {f : α → Except Fault β} {b : β} :
    (x >>= f) = .ok b ↔ ∃ a, x = .ok a ∧ f a = .ok b := by
  cases x <;> simp [bind, Except.bind]

/-! ### Entries and fields -/

theorem Check.ofEntry_eq_ok_iff :
    Check.ofEntry field entry = .ok check ↔ entry.CompilesTo check := by
  constructor
  · intro h
    cases entry with
    | predicate p =>
        cases h
        exact .predicate p
    | directive raw =>
        rw [Check.ofEntry] at h
        cases hread : Directive.parse raw with
        | error fault =>
            rw [hread] at h
            cases h
        | ok d =>
            rw [hread] at h
            cases h
            exact .directive hread
  · intro h
    cases h with
    | predicate p => rfl
    | directive hread => rw [Check.ofEntry, hread]

theorem compileEntries_eq_ok_iff :
    compileEntries field entries = .ok checks ↔ List.Forall₂ Entry.CompilesTo entries checks := by
  induction entries generalizing checks with
  | nil =>
      rw [compileEntries, List.forall₂_nil_left_iff, Except.ok.injEq, eq_comm]
  | cons entry entries ih =>
      rw [compileEntries, List.forall₂_cons_left_iff]
      simp only [bind_eq_ok_iff, Check.ofEntry_eq_ok_iff, ih]
      constructor
      · rintro ⟨check, hcheck, rest, hrest, hchecks⟩
        exact ⟨check, rest, hcheck, hrest, (Except.ok.inj hchecks).symm⟩
      · rintro ⟨check, rest, hcheck, hrest, rfl⟩
        exact ⟨check, hcheck, rest, hrest, rfl⟩

theorem compileFields_eq_ok_iff :
    compileFields fields = .ok compiled ↔ List.Forall₂ FieldCompilesTo fields compiled := by
  induction fields generalizing compiled with
  | nil =>
      rw [compileFields, List.forall₂_nil_left_iff, Except.ok.injEq, eq_comm]
  | cons e fields ih =>
      rw [compileFields, List.forall₂_cons_left_iff]
      simp only [bind_eq_ok_iff, compileEntries_eq_ok_iff, ih]
      constructor
      · rintro ⟨checks, hchecks, rest, hrest, hcompiled⟩
        exact ⟨(e.1, checks), rest, ⟨rfl, hchecks⟩, hrest, (Except.ok.inj hcompiled).symm⟩
      · rintro ⟨⟨field, checks⟩, rest, ⟨rfl, hchecks⟩, hrest, rfl⟩
        exact ⟨checks, hchecks, rest, hrest, rfl⟩

theorem compileFields_eq_error_iff :
    compileFields fields = .error fault ↔
      ∃ before e after, fields = before ++ e :: after ∧
        (∀ f ∈ before, ∀ entry ∈ f.2, entry.isBlank = false) ∧
        (∃ entry ∈ e.2, entry.isBlank = true) ∧
        fault = Message.emptyDirective.fault.onField e.1 := by
  rw [compileFields_eq]
  constructor
  · intro h
    cases hfind : fields.find? fun e => e.2.any Entry.isBlank with
    | none =>
        rw [hfind] at h
        cases h
    | some e =>
        rw [hfind] at h
        obtain ⟨hblank, before, after, hfields, hbefore⟩ := List.find?_eq_some_iff_append.1 hfind
        refine ⟨before, e, after, hfields, fun f hf => ?_, List.any_eq_true.1 hblank,
          (Except.error.inj h).symm⟩
        simpa using hbefore f hf
  · rintro ⟨before, e, after, hfields, hbefore, hblank, rfl⟩
    have hfind : (fields.find? fun e => e.2.any Entry.isBlank) = some e := by
      refine List.find?_eq_some_iff_append.2
        ⟨List.any_eq_true.2 hblank, before, after, hfields, fun f hf => ?_⟩
      simpa using hbefore f hf
    rw [hfind]

theorem exists_compileFields_iff : (∃ compiled, compileFields fields = .ok compiled) ↔
    ¬ ∃ e ∈ fields, ∃ entry ∈ e.2, entry.isBlank = true := by
  constructor
  · rintro ⟨compiled, hcompiled⟩ ⟨e, he, hblank⟩
    rw [compileFields_eq] at hcompiled
    cases hfind : fields.find? fun e => e.2.any Entry.isBlank with
    | none => exact List.find?_eq_none.1 hfind e he (List.any_eq_true.2 hblank)
    | some f =>
        rw [hfind] at hcompiled
        cases hcompiled
  · intro h
    cases hcompiled : compileFields fields with
    | ok compiled => exact ⟨compiled, rfl⟩
    | error fault =>
        obtain ⟨before, e, after, rfl, -, hblank, -⟩ := compileFields_eq_error_iff.1 hcompiled
        exact absurd ⟨e, by simp, hblank⟩ h

end

/-- A specification with a blank directive is refused, and the first field that has one is named.
Any other is compiled to the same fields in the same order, each with one check for each of its
entries, and exactly the declared paths are found in it, with the checks of their fields. -/
theorem Specs.compile_keeps_entries (specs : Specs) :
    if ∃ e ∈ specs.fields, ∃ entry ∈ e.2, entry.isBlank = true then
      ∃ before e after, specs.fields = before ++ e :: after ∧
        (∀ f ∈ before, ∀ entry ∈ f.2, entry.isBlank = false) ∧
        (∃ entry ∈ e.2, entry.isBlank = true) ∧
        specs.compile =
          .error ⟨.configuration, some e.1, "Rule must be a non-empty string."⟩
    else
      ∃ compiled, specs.compile = .ok compiled ∧
        List.Forall₂ FieldCompilesTo specs.fields compiled ∧
        (∀ path checks, Keyed.find? path compiled = some checks ↔ (path, checks) ∈ compiled) ∧
        ∀ path, Keyed.find? path compiled = none ↔ specs.get? path = none := by
  by_cases hblank : ∃ e ∈ specs.fields, ∃ entry ∈ e.2, entry.isBlank = true
  · rw [if_pos hblank]
    cases hcompile : specs.compile with
    | ok compiled => exact absurd hblank (exists_compileFields_iff.1 ⟨compiled, hcompile⟩)
    | error fault =>
        obtain ⟨before, e, after, hfields, hbefore, he, rfl⟩ :=
          compileFields_eq_error_iff.1 hcompile
        exact ⟨before, e, after, hfields, hbefore, he, rfl⟩
  · rw [if_neg hblank]
    obtain ⟨compiled, hcompile⟩ := exists_compileFields_iff.2 hblank
    have hkeys : Keyed.keys compiled = Keyed.keys specs.fields := keys_compiled hcompile
    have hnodup : (Keyed.keys compiled).Nodup := hkeys ▸ specs.nodup
    refine ⟨compiled, hcompile, compileFields_eq_ok_iff.1 hcompile,
      fun path checks => Keyed.find?_eq_some_iff_mem hnodup, fun path => ?_⟩
    rw [get?, Keyed.find?_eq_none_iff, Keyed.find?_eq_none_iff, hkeys]

/-- The second of two blank directives is not reached. -/
example : (Specs.ofList [("mail", [.directive " email : "]), ("age", [.predicate fun _ => none,
    .directive "\u3000"]), ("name", [.directive ""])]).compile =
    .error (Message.emptyDirective.fault.onField "age") := by
  rfl

end RecordRules
