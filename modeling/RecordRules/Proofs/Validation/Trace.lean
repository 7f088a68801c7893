import RecordRules.Proofs.Registry.Announcement
import RecordRules.Proofs.Registry.History
import RecordRules.Proofs.Validation.Stop

/-!
What the events of a validation tell. Between the first event and the last there is an account of
the run, field by field: a field that is passed is absent or has its rules used, and the field at
which the run stops has those rules used that come before the fault. Of the uses only the new ones
are reported.

A registry makes a rule once, so in a whole history of calls it announces no rule twice.
-/

namespace RecordRules

/-! ### Checks -/

section

variable (isFile : String → Bool) (messages : CustomMessages) (field : String) (value : Value)

theorem Check.run_quiet (check : Check) : (check.run isFile messages field value).Quiet := by
  cases check with
  | custom predicate => exact Run.quiet_failWith? _
  | standard d =>
      refine (Run.quiet_rule? d.name).bind fun rule? => ?_
      cases rule? with
      | none => exact Run.quiet_fail _
      | some rule => exact Run.quiet_failWith? _

theorem Check.runAll_quiet (checks : List Check) :
    (Check.runAll isFile messages field value checks).Quiet := by
  induction checks with
  | nil => exact Run.quiet_pure ()
  | cons check checks ih =>
      exact (check.run_quiet isFile messages field value).bind fun _ => ih

end

/-! ### Accounts of fields -/

section

variable (isFile : String → Bool) (localizer : Localizer) (messages : CustomMessages)
variable (record : Value)

/-- The rules that are used at a field, each use told as if it were the first. -/
def usesAt (e : String × List Check) : List Event :=
  (Trial.rulesUsed (fieldTrials isFile localizer messages record e.1 e.2)).map .instantiating

/-- What happens at a field that is passed. -/
def passing (e : String × List Check) : List Event :=
  if record.has e.1 then usesAt isFile localizer messages record e else [.absent e.1]

/-- What happens in a run that passes some fields and stops at another, if it stops. -/
def account (passed stopped : List (String × List Check)) : List Event :=
  passed.flatMap (passing isFile localizer messages record) ++
    stopped.flatMap (usesAt isFile localizer messages record)

end

section

variable {isFile : String → Bool} {localizer : Localizer} {messages : CustomMessages}
variable {record : Value} {e : String × List Check} {s : Session} {fault : Fault}

theorem usesAt_of_fault
    (h : Trial.firstFault? (requirementTrials record e.1 e.2) = some fault) :
    usesAt isFile localizer messages record e = [] := by
  rw [usesAt, fieldTrials, Trial.rulesUsed_append_of_eq_some h, rulesUsed_requirementTrials]
  rfl

theorem usesAt_of_pass (h : Trial.firstFault? (requirementTrials record e.1 e.2) = none) :
    usesAt isFile localizer messages record e =
      (Trial.rulesUsed (checkTrials isFile localizer messages record e.1 e.2)).map
        .instantiating := by
  rw [usesAt, fieldTrials, Trial.rulesUsed_append_of_eq_none h, rulesUsed_requirementTrials]
  rfl

theorem filterMap_announced?_usesAt (e : String × List Check) :
    (usesAt isFile localizer messages record e).filterMap Event.announced? =
      Trial.rulesUsed (fieldTrials isFile localizer messages record e.1 e.2) :=
  Event.filterMap_announced?_map_instantiating _

theorem filterMap_announced?_passing (e : String × List Check) :
    (passing isFile localizer messages record e).filterMap Event.announced? =
      Trial.rulesUsed (fieldTrials isFile localizer messages record e.1 e.2) := by
  rw [passing]
  cases hhas : record.has e.1 with
  | true => exact filterMap_announced?_usesAt e
  | false =>
      rw [fieldTrials, checkTrials_of_absent hhas, List.append_nil, rulesUsed_requirementTrials]
      rfl

theorem filterMap_absent?_usesAt (e : String × List Check) :
    (usesAt isFile localizer messages record e).filterMap Event.absent? = [] := by
  rw [usesAt, List.filterMap_map, List.filterMap_eq_nil_iff]
  exact fun _ _ => rfl

/-- The absent fields in an account are those among the passed ones. -/
theorem filterMap_absent?_account (passed stopped : List (String × List Check)) :
    (account isFile localizer messages record passed stopped).filterMap Event.absent? =
      (Keyed.keys passed).filter fun field => !record.has field := by
  have hstopped :
      (stopped.flatMap (usesAt isFile localizer messages record)).filterMap Event.absent? = [] := by
    rw [List.filterMap_flatMap, List.flatMap_eq_nil_iff]
    exact fun e _ => filterMap_absent?_usesAt e
  rw [account, List.filterMap_append, hstopped, List.append_nil]
  induction passed with
  | nil => rfl
  | cons e passed ih =>
      rw [List.flatMap_cons, List.filterMap_append, ih, passing, Keyed.keys, Keyed.keys,
        List.map_cons, List.filter_cons]
      cases record.has e.1 with
      | true =>
          rw [if_pos rfl, filterMap_absent?_usesAt]
          rfl
      | false => rfl

/-- The rules in an account of fields that are passed are those that their trials use. -/
theorem filterMap_announced?_passed {fields : List (String × List Check)}
    (h : Trial.firstFault?
      (fields.flatMap fun e => fieldTrials isFile localizer messages record e.1 e.2) = none) :
    (fields.flatMap (passing isFile localizer messages record)).filterMap Event.announced? =
      Trial.rulesUsed
        (fields.flatMap fun e => fieldTrials isFile localizer messages record e.1 e.2) := by
  induction fields with
  | nil => rfl
  | cons e fields ih =>
      rw [List.flatMap_cons, Trial.firstFault?_append, Option.or_eq_none_iff] at h
      rw [List.flatMap_cons, List.filterMap_append, filterMap_announced?_passing, ih h.2,
        List.flatMap_cons, Trial.rulesUsed_append_of_eq_none h.1]

/-! ### Events of fields -/

variable (isFile messages record e) in
/-- What is new in the account of a field is what the field reports. -/
theorem validateField_events (hs : s.Sound) :
    (validateField isFile messages record e.1 e.2 s).events =
      Event.fresh s.registry.kinds
        (match (validateField isFile messages record e.1 e.2 s).result with
          | .ok _ => passing isFile s.registry.localizer messages record e
          | .error _ => usesAt isFile s.registry.localizer messages record e) := by
  cases h : Trial.firstFault? (requirementTrials record e.1 e.2) with
  | some fault =>
      rw [validateField_of_fault _ _ h, usesAt_of_fault h]
      rfl
  | none =>
      rw [validateField_of_pass _ _ h, passing, usesAt_of_pass h, checkTrials, Value.has,
        ← Check.others_eq_filter]
      cases record.resolve? e.1 with
      | none => rfl
      | some value =>
          -- whether the checks pass or not, they report the rules that they use
          have hmeets := Check.runAll_follows isFile messages e.1 value (Check.others e.2) s hs
          have hevents := (Check.runAll_quiet isFile messages e.1 value _).events_eq hmeets
          simp only [Option.isSome_some, if_true]
          cases (Check.runAll isFile messages e.1 value (Check.others e.2) s).result with
          | ok _ => exact hevents
          | error _ => exact hevents

theorem validateFields_events_of_ok {fields : List (String × List Check)} (hs : s.Sound)
    (h : (validateFields isFile messages record fields s).result = .ok ()) :
    (validateFields isFile messages record fields s).events =
      Event.fresh s.registry.kinds
        (fields.flatMap (passing isFile s.registry.localizer messages record)) := by
  induction fields generalizing s with
  | nil => rfl
  | cons e fields ih =>
      cases hfield : (validateField isFile messages record e.1 e.2 s).result with
      | error fault =>
          rw [validateFields_cons_of_error hfield] at h
          cases h
      | ok _ =>
          have hmeets := validateField_follows isFile messages record e.1 e.2 s hs
          have hevents := validateField_events isFile messages record e hs
          rw [hfield] at hevents
          rw [validateFields_cons_of_ok hfield] at h ⊢
          simp only
          -- the account of the other fields is read with what this one has made
          rw [hevents, ih hmeets.sound h, hmeets.grown.localizer_eq, hmeets.kinds_eq,
            List.flatMap_cons, Event.fresh_append, filterMap_announced?_passing]

/-- A run that stops at a field reports the account of what it has done, and the fault. -/
theorem validateFields_events_of_stop {before after : List (String × List Check)} (hs : s.Sound)
    (hbefore : (validateFields isFile messages record before s).result = .ok ())
    (hfield : (validateField isFile messages record e.1 e.2
      (validateFields isFile messages record before s).session).result = .error fault) :
    (validateFields isFile messages record (before ++ e :: after) s).events =
      Event.fresh s.registry.kinds
        (account isFile s.registry.localizer messages record before [e]) ++
        [.failed e.1 fault.kind] := by
  have hfollows := validateFields_follows isFile messages record before
  have hmeets := hfollows s hs
  have hpassed := filterMap_announced?_passed ((hfollows.result_eq_ok_iff hs).1 hbefore)
  have hevents := validateField_events isFile messages record e hmeets.sound
  rw [hfield, hmeets.grown.localizer_eq, hmeets.kinds_eq] at hevents
  rw [validateFields_append_of_ok hbefore, validateFields_cons_of_error hfield]
  simp only
  rw [validateFields_events_of_ok hs hbefore, hevents, account, Event.fresh_append, hpassed,
    List.flatMap_singleton, List.append_assoc]

end

/-! ### Events of validations -/

namespace Validator

/-- How the run over the compiled fields ends: which fields are passed, at which one it stops, if it
does, with which result, and with which event. -/
inductive Finishes (isFile : String → Bool) (validator : Validator) (record : Value) (s : Session)
    (compiled : List (String × List Check)) :
    (passed stopped : List (String × List Check)) → Except Fault Value → Event → Prop
  | valid
      (passed_eq : (validateFields isFile validator.messages record compiled s).result = .ok ()) :
      Finishes isFile validator record s compiled compiled [] (.ok record)
        (.valid validator.specs.size)
  | failed {passed after : List (String × List Check)} {e : String × List Check} {fault : Fault}
      (cut : compiled = passed ++ e :: after)
      (passed_eq : (validateFields isFile validator.messages record passed s).result = .ok ())
      (stopped_eq : (validateField isFile validator.messages record e.1 e.2
        (validateFields isFile validator.messages record passed s).session).result =
          .error fault) :
      Finishes isFile validator record s compiled passed [e] (.error fault)
        (.failed e.1 fault.kind)

section

variable {isFile : String → Bool} {validator : Validator} {record : Value} {s : Session}
variable {compiled passed stopped : List (String × List Check)}
variable {result : Except Fault Value} {last : Event}

theorem rulesUsed_of_compiled (h : validator.specs.compile = .ok compiled)
    (localizer : Localizer) :
    validator.rulesUsed isFile localizer record =
      Trial.rulesUsed (compiled.flatMap fun e =>
        fieldTrials isFile localizer validator.messages record e.1 e.2) := by
  obtain ⟨hblank, hcompiled⟩ := Specs.compiled_eq h
  rw [rulesUsed, hblank, hcompiled, List.flatMap_map]
  rfl

theorem Finishes.announced?_last
    (h : validator.Finishes isFile record s compiled passed stopped result last) :
    last.announced? = none := by
  cases h with
  | valid | failed => rfl

/-- The rules in the account of the run are those that the validation uses. -/
theorem Finishes.filterMap_announced?_account (hs : s.Sound)
    (hcompiled : validator.specs.compile = .ok compiled)
    (h : validator.Finishes isFile record s compiled passed stopped result last) :
    (account isFile s.registry.localizer validator.messages record passed stopped).filterMap
        Event.announced? =
      validator.rulesUsed isFile s.registry.localizer record := by
  have hfollows := validateFields_follows isFile validator.messages record
  rw [rulesUsed_of_compiled hcompiled, account, List.filterMap_append]
  cases h with
  | valid passed_eq =>
      have hpassed := ((hfollows _).result_eq_ok_iff hs).1 passed_eq
      rw [filterMap_announced?_passed hpassed]
      exact List.append_nil _
  | @failed passed after e fault cut passed_eq stopped_eq =>
      have hpassed := ((hfollows _).result_eq_ok_iff hs).1 passed_eq
      have hmeets := hfollows passed s hs
      have hfield := validateField_follows isFile validator.messages record e.1 e.2
      have hstopped := (hfield.result_eq_error_iff hmeets.sound).1 stopped_eq
      rw [hmeets.grown.localizer_eq] at hstopped
      rw [filterMap_announced?_passed hpassed, List.flatMap_singleton, filterMap_announced?_usesAt,
        cut, List.flatMap_append, List.flatMap_cons, Trial.rulesUsed_append_of_eq_none hpassed,
        Trial.rulesUsed_append_of_eq_some hstopped]

variable (isFile record) in
/-- A validation of a compiled specification finishes, and in between it reports the account. -/
theorem exists_finishes (hs : s.Sound) (hcompiled : validator.specs.compile = .ok compiled) :
    ∃ passed stopped last,
      validator.Finishes isFile record s compiled passed stopped
        (validator.validate isFile record s).result last ∧
        (validator.validate isFile record s).events =
          .validating validator.specs.size ::
            Event.fresh s.registry.kinds
              (account isFile s.registry.localizer validator.messages record passed stopped) ++
            [last] := by
  rw [validate_of_compiled hcompiled, Specs.length_compiled hcompiled]
  cases hfields : (validateFields isFile validator.messages record compiled s).result with
  | ok _ =>
      refine ⟨compiled, [], .valid validator.specs.size, ?_, ?_⟩
      · rw [Run.bind_of_ok hfields]
        exact .valid hfields
      · rw [Run.bind_of_ok hfields, validateFields_events_of_ok hs hfields, account,
          List.flatMap_nil, List.append_nil]
        rfl
  | error fault =>
      obtain ⟨passed, e, after, rfl, hpassed, hstopped, -⟩ := validateFields_stops hfields
      refine ⟨passed, [e], .failed e.1 fault.kind, ?_, ?_⟩
      · rw [Run.bind_of_error hfields]
        exact .failed rfl hpassed hstopped
      · rw [Run.bind_of_error hfields, validateFields_events_of_stop hs hpassed hstopped]
        rfl

theorem validate_announces (isFile : String → Bool) (validator : Validator) (record : Value)
    (hs : s.Sound) : (validator.validate isFile record).Announces s := by
  rw [Run.Announces]
  cases hcompile : validator.specs.compile with
  | error fault =>
      rw [validate_of_compile_eq_error hcompile]
      exact (List.append_nil _).symm
  | ok compiled =>
      obtain ⟨passed, stopped, last, hfinishes, hevents⟩ :=
        exists_finishes isFile record hs hcompile
      have hlast : [last].filterMap Event.announced? = [] :=
        List.filterMap_cons_none hfinishes.announced?_last
      -- the new uses are what is made, and in the account they are what is announced
      rw [(validator.validate_meets isFile record hs).kinds_eq, addUses_eq_append, hevents,
        List.filterMap_append, hlast, List.append_nil,
        ← hfinishes.filterMap_announced?_account hs hcompile, ← Event.filterMap_announced?_fresh]
      rfl

end

end Validator

/-! ### Announcements in histories -/

theorem Action.announces (action : Action) {s : Session} (hs : s.Sound) :
    action.run.Announces s := by
  have hanswer {α : Type} (answer : α → Answer) (a : α) :
      (pure (answer a) : Run Answer).Quiet := Run.quiet_pure _
  cases action with
  | create name => exact ((Run.quiet_rule? name).bind (hanswer Answer.rule)).announces s
  | predicates => exact (Run.quiet_predicates.bind (hanswer Answer.predicates)).announces s
  | validate isFile validator record =>
      exact (validator.validate_announces isFile record hs).bind (hanswer Answer.record)

def Step.announced {count : Nat} (step : Step count) : List Builtin :=
  (step.before.run step.call.registry step.call.action.run).2.1.filterMap Event.announced?

namespace Pool

/-- The rules that some calls announce in a registry, in their order. -/
def announced {count : Nat} (pool : Pool) (i : Fin count) (calls : List (Call count)) :
    List Builtin :=
  ((pool.steps calls).filter fun step => step.call.registry = i).flatMap Step.announced

variable {localizers : List Localizer} {pool : Pool}

theorem kinds_call_eq_append (c : Call localizers.length) (hp : pool.Sound localizers) :
    ((pool.call c).registry c.registry).kinds =
      (pool.registry c.registry).kinds ++ Step.announced ⟨pool, c⟩ := by
  rw [call_registry_self c hp]
  exact c.action.announces (hp.session_sound c.registry)

/-- A registry has made what it has announced. -/
theorem kinds_after_eq_append (hp : pool.Sound localizers)
    (calls : List (Call localizers.length)) (i : Fin localizers.length) :
    ((pool.after calls).registry i).kinds =
      (pool.registry i).kinds ++ pool.announced i calls := by
  induction calls generalizing pool with
  | nil => exact (List.append_nil _).symm
  | cons c calls ih =>
      rw [after_cons, ih (hp.call c), announced, announced, steps, List.filter_cons]
      by_cases hi : c.registry = i
      · rw [if_pos (decide_eq_true hi), List.flatMap_cons, ← List.append_assoc, ← hi,
          kinds_call_eq_append c hp]
      · rw [if_neg (by simpa using hi), call_registry_of_ne c hi]

/-- What a registry has made are the rules that its calls have used. -/
theorem mem_kinds_after_new_iff (calls : List (Call localizers.length))
    (i : Fin localizers.length) (rule : Builtin) :
    rule ∈ (((new localizers).after calls).registry i).kinds ↔
      rule ∈ rulesUsed (localizers.get i) i calls := by
  rw [kinds_after_new, mem_addUses]
  simp

theorem nodup_announced (calls : List (Call localizers.length)) (i : Fin localizers.length) :
    ((new localizers).announced i calls).Nodup := by
  have hp := sound_new localizers
  have hkinds := kinds_after_eq_append hp calls i
  rw [kinds_new, List.nil_append] at hkinds
  exact hkinds ▸ ((hp.after calls).session_sound i).coherent.nodup_kinds

end Pool

/-- The events of a validation tell its run, whatever the registry has been asked for before. A
specification that cannot be compiled reports nothing. Otherwise the first event tells how many
fields there are and the last one how the run ends, and in between comes the account of the fields:
one event for each field before the end that is absent, and one for each rule that is used and has
not been used in the registry before. So a registry announces no rule twice. -/
theorem Validator.validate_tells_run (localizers : List Localizer)
    (calls : List (Call localizers.length)) (i : Fin localizers.length) :
    (∀ (isFile : String → Bool) (validator : Validator) (record : Value),
      let localizer := localizers.get i
      let earlier := Pool.rulesUsed localizer i calls
      let s := ((Pool.new localizers).after calls).session i
      let outcome := validator.validate isFile record s
      match validator.specs.compile with
      | .error _ => outcome.events = []
      | .ok compiled => Keyed.keys compiled = Keyed.keys validator.specs.fields ∧
        ∃ passed stopped between last,
          validator.Finishes isFile record s compiled passed stopped outcome.result last ∧
            outcome.events = .validating validator.specs.size :: between ++ [last] ∧
            between = Event.fresh earlier
              (account isFile localizer validator.messages record passed stopped) ∧
            between.filterMap Event.absent? =
              (Keyed.keys passed).filter (fun field => !record.has field) ∧
            between.filterMap Event.announced? =
              newUses earlier (validator.rulesUsed isFile localizer record)) ∧
      ((Pool.new localizers).announced i calls).Nodup := by
  refine ⟨?_, Pool.nodup_announced calls i⟩
  intro isFile validator record localizer earlier s outcome
  have hp := (Pool.sound_new localizers).after calls
  have hs : s.Sound := hp.session_sound i
  have hlocalizer : s.registry.localizer = localizer := hp.localizer_eq i
  have hmade : ∀ rule, rule ∈ s.registry.kinds ↔ rule ∈ earlier :=
    Pool.mem_kinds_after_new_iff calls i
  cases hcompile : validator.specs.compile with
  | error fault => exact congrArg Outcome.events (validate_of_compile_eq_error hcompile)
  | ok compiled =>
      obtain ⟨passed, stopped, last, hfinishes, hevents⟩ :=
        exists_finishes isFile record hs hcompile
      have huses := hfinishes.filterMap_announced?_account hs hcompile
      rw [Event.fresh_congr hmade, hlocalizer] at hevents
      rw [hlocalizer] at huses
      refine ⟨Specs.keys_compiled hcompile, ?_⟩
      refine ⟨passed, stopped, _, last, hfinishes, hevents, rfl, ?_, ?_⟩
      · rw [Event.filterMap_absent?_fresh, filterMap_absent?_account]
      · rw [Event.filterMap_announced?_fresh, huses]

/-- The second validation uses two rules and announces the one that the first has not come to. -/
example :
    let specs := Specs.ofList [("nick", [.directive "string"]), ("age", [.directive "integer"])]
    let validate := Validator.validate (fun _ => false) ⟨specs, .empty⟩
    let first := validate (.object [("age", .string "x")]) (.new .english)
    let second := validate (.object [("age", .string "21"), ("nick", .string "Ann")]) first.session
    first.events =
        [.validating 2, .absent "nick", .instantiating .integer, .failed "age" .ruleViolation] ∧
      second.events = [.validating 2, .instantiating .string, .valid 2] := by
  decide +kernel

end RecordRules
