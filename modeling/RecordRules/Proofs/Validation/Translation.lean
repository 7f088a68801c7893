import RecordRules.Proofs.Validation.Refusal

/-!
Which faults a localizer gets to see. A fault is translated if its text is what the localizer makes
of some message whose English text an English run reports. A rule's own objection is translated by
every localizer. No other fault is: requirements, unknown and blank names and predicates report in
English whatever the localizer, so one that changes every text finds none of its words in them.
-/

namespace RecordRules

/-- A built-in rule objects, to a value or to its own parameter. -/
def Refusal.isObjection : Refusal → Bool
  | objection .. => true
  | _ => false

/-- A localizer that leaves no text as it is. -/
def Localizer.bracketing : Localizer :=
  ⟨"xx", fun m => some ("<<" ++ m.english ++ ">>")⟩

/-- A failed run reports, in the words of the localizer, a message that the plain run reports in
English. -/
def Translated (localizer : Localizer) (result plain : Except Fault Value) : Prop :=
  ∀ fault, result = .error fault → ∃ m : Message,
    plain = .error ⟨fault.kind, fault.field, m.english⟩ ∧ fault.message = m.render localizer

theorem Message.render_bracketing_ne (m : Message) : m.render .bracketing ≠ m.english := by
  intro h
  have hlength := congrArg String.length h
  rw [render, Localizer.bracketing, Option.getD_some, String.length_append, String.length_append]
    at hlength
  have hopening : "<<".length = 2 := rfl
  omega

/-- Only objections are reported in a localizer's own words. -/
theorem Refusal.report_eq_of_not_objection {refusal : Refusal} (h : refusal.isObjection = false)
    (messages others : CustomMessages) (localizer another : Localizer) :
    refusal.report messages localizer = refusal.report others another := by
  cases refusal with
  | objection => cases h
  | blank | requirement | nameless | unknownRule | predicate => rfl

namespace Validator

variable {record : Value} {refusal : Refusal}

theorem translated_ending_of_objection (h : refusal.isObjection = true) (localizer : Localizer) :
    Translated localizer (ending .empty localizer record (some refusal))
      (ending .empty .english record (some refusal)) := by
  intro fault hfault
  cases refusal with
  | blank | requirement | nameless | unknownRule | predicate => cases h
  | objection field name m =>
      cases hfault
      exact ⟨m, rfl, rfl⟩

theorem not_translated_ending_of_not_objection (h : refusal.isObjection = false) :
    ¬ Translated .bracketing (ending .empty .bracketing record (some refusal))
      (ending .empty .english record (some refusal)) := by
  intro htranslated
  obtain ⟨m, hplain, hmessage⟩ := htranslated _ rfl
  have hsame := Except.error.inj hplain
  rw [refusal.report_eq_of_not_objection h .empty .empty .english .bracketing] at hsame
  exact m.render_bracketing_ne (hmessage.symm.trans (congrArg Fault.message hsame))

/-- Without custom messages every localizer gets to translate the fault of a record exactly if the
record is refused, if at all, by a rule's own objection. -/
theorem validate_translated_iff (isFile : String → Bool) (specs : Specs) (record : Value) :
    (∀ (localizers : List Localizer) (calls : List (Call localizers.length))
      (i : Fin localizers.length),
      Translated (localizers.get i)
        (validate isFile ⟨specs, .empty⟩ record
          (((Pool.new localizers).after calls).session i)).result
        (validateOnce isFile specs .empty record).result) ↔
      ∀ refusal, specs.refusal? isFile record = some refusal → refusal.isObjection = true := by
  have hplain : (validateOnce isFile specs .empty record).result =
      ending .empty .english record (specs.refusal? isFile record) :=
    validate_result_eq_ending isFile ⟨specs, .empty⟩ record (Session.sound_new .english)
  rw [hplain]
  constructor
  · intro h refusal hrefusal
    have hbracketing := h [.bracketing] [] 0
    rw [((Pool.sound_new _).after _).validate_result_eq_ending, hrefusal] at hbracketing
    rw [← Bool.not_eq_false]
    exact fun hnot => not_translated_ending_of_not_objection hnot hbracketing
  · intro h localizers calls i
    rw [((Pool.sound_new localizers).after calls).validate_result_eq_ending]
    cases hrefusal : specs.refusal? isFile record with
    | none => intro fault hfault; cases hfault
    | some refusal => exact translated_ending_of_objection (h refusal hrefusal) _

/-- A mail address that is required and absent is reported in English to everyone. -/
theorem validate_not_translated_of_absent_mail :
    let specs := Specs.ofList [("mail", [.directive "required"])]
    ¬ Translated .bracketing
      (validate (fun _ => false) ⟨specs, .empty⟩ (.object [])
        ((Pool.new [.bracketing]).session 0)).result
      (validateOnce (fun _ => false) specs .empty (.object [])).result :=
  @not_translated_ending_of_not_objection (.object [])
    (.requirement "mail" (Message.requiredFieldMissing "mail").fault) rfl

end Validator

end RecordRules
