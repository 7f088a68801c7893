import RecordRules.Proofs.Registry.History

/-!
What a registry has been used for is not seen in a validation. Through every registry, after every
history, a validation comes to the verdict of the registry's language. So to keep rules saves the
making of rules and nothing else: a validation through a new registry, be it one of the caller's or
one that is made for this validation alone, ends in the same way.
-/

namespace RecordRules

theorem Pool.Sound.validate_result {localizers : List Localizer} {pool : Pool}
    (hp : pool.Sound localizers) (i : Fin localizers.length) (isFile : String → Bool)
    (validator : Validator) (record : Value) :
    (validator.validate isFile record (pool.session i)).result =
      validator.verdict isFile (localizers.get i) record := by
  have hresult := (validator.validate_meets isFile record (hp.session_sound i)).result_eq
  rw [Pool.session_registry, hp.localizer_eq] at hresult
  exact hresult

namespace Validator

variable (localizers : List Localizer) (calls : List (Call localizers.length))
variable (i : Fin localizers.length) (isFile : String → Bool) (validator : Validator)
variable (record : Value)

theorem validate_result_after :
    (validator.validate isFile record (((Pool.new localizers).after calls).session i)).result =
      validator.verdict isFile (localizers.get i) record :=
  ((Pool.sound_new localizers).after calls).validate_result i isFile validator record

/-- A used registry is as good as a new one, and one that speaks English as good as none. -/
theorem validate_result_after_eq_new :
    (validator.validate isFile record (((Pool.new localizers).after calls).session i)).result =
        (validator.validate isFile record (.new (localizers.get i))).result ∧
      (localizers.get i = .english →
        (validateOnce isFile validator.specs validator.messages record).result =
          (validator.validate isFile record
            (((Pool.new localizers).after calls).session i)).result) := by
  have hused := ((Pool.sound_new localizers).after calls).validate_result i isFile validator record
  have hnew (localizer : Localizer) :=
    (validator.validate_meets isFile record (Session.sound_new localizer)).result_eq
  refine ⟨hused.trans (hnew (localizers.get i)).symm, fun henglish => ?_⟩
  rw [hused, henglish]
  exact hnew .english

/-- An English registry that has been asked for a rule in odd letters. -/
theorem validateOnce_result_eq_after_create :
    [Localizer.english][0] = .english ∧
      (validateOnce (fun _ => false) (Specs.ofList [("age", [.directive "integer"])]) .empty
          (.object [("age", .string "seven")])).result =
        (validate (fun _ => false) ⟨Specs.ofList [("age", [.directive "integer"])], .empty⟩
          (.object [("age", .string "seven")])
          (((Pool.new [.english]).after [(⟨0, .create "InTeGeR"⟩ : Call 1)]).session 0)).result :=
  ⟨rfl, (validate_result_after_eq_new [.english] [⟨0, .create "InTeGeR"⟩] 0 (fun _ => false)
    ⟨Specs.ofList [("age", [.directive "integer"])], .empty⟩
    (.object [("age", .string "seven")])).2 rfl⟩

end Validator

end RecordRules
