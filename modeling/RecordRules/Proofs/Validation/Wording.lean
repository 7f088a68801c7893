import RecordRules.Proofs.Validation.Refusal

/-!
Texts and decisions. Custom messages and localizers word the report of a refusal and do nothing else:
whether a record is accepted, and if not the kind and the field of the fault, is the same in all
words. Only the objections of built-in rules are worded anew, by the custom message for the field and
the name by which the rule was called, or else by the localizer.
-/

namespace RecordRules

namespace Refusal

variable (messages others : CustomMessages) (localizer another : Localizer) (refusal : Refusal)

theorem kind_report_eq :
    (refusal.report messages localizer).kind = (refusal.report others another).kind := by
  cases refusal <;> rfl

theorem field_report_eq :
    (refusal.report messages localizer).field = (refusal.report others another).field := by
  cases refusal <;> rfl

end Refusal

namespace Validator

/-- Texts never change what is decided: a validation ends like one without custom messages in
English, but for the text of an objection. -/
theorem validate_result_in_any_words (localizers : List Localizer)
    (calls : List (Call localizers.length)) (i : Fin localizers.length) (isFile : String → Bool)
    (specs : Specs) (messages : CustomMessages) (record : Value) :
    let result := (validate isFile ⟨specs, messages⟩ record
      (((Pool.new localizers).after calls).session i)).result
    let plain := (validateOnce isFile specs .empty record).result
    (result = .ok record ∧ plain = .ok record ∨
      ∃ fault plainFault, result = .error fault ∧ plain = .error plainFault ∧
        fault.kind = plainFault.kind ∧ fault.field = plainFault.field) ∧
      match specs.refusal? isFile record with
      | none => result = .ok record
      | some (.objection field name m) =>
        result = .error ⟨m.kind, m.field,
          match messages.get? field name with
          | some text => text
          | none =>
            match (localizers.get i).translate m with
            | some text => text
            | none => m.english⟩
      | some _ => ∃ fault, result = .error fault ∧ plain = .error fault := by
  intro result plain
  have hresult : result = ending messages (localizers.get i) record _ :=
    ((Pool.sound_new localizers).after calls).validate_result_eq_ending i isFile _ record
  have hplain : plain = ending .empty .english record _ :=
    validate_result_eq_ending isFile ⟨specs, .empty⟩ record (Session.sound_new .english)
  cases hrefusal : specs.refusal? isFile record with
  | none =>
      rw [hrefusal] at hresult hplain
      exact ⟨.inl ⟨hresult, hplain⟩, hresult⟩
  | some refusal =>
      rw [hrefusal] at hresult hplain
      have hdecision := And.intro
        (refusal.kind_report_eq messages .empty (localizers.get i) .english)
        (refusal.field_report_eq messages .empty (localizers.get i) .english)
      refine ⟨.inr ⟨_, _, hresult, hplain, hdecision⟩, ?_⟩
      cases refusal with
      | objection field name m =>
          rw [ending, Refusal.report, Message.reported] at hresult
          dsimp only
          rw [hresult]
          cases messages.get? field name <;> cases (localizers.get i).translate m <;> rfl
      | blank | requirement | nameless | unknownRule | predicate => exact ⟨_, hresult, hplain⟩

example :
    (validateOnce (fun _ => false) (Specs.ofList [("age", [.directive "Integer"])])
      (CustomMessages.ofList [("age.INTEGER", "Whole years, please.")])
      (.object [("age", .string "seven")])).result =
        .error ⟨.ruleViolation, some "age", "Whole years, please."⟩ := by
  rfl

end Validator

end RecordRules
