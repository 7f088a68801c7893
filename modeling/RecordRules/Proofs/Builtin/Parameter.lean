import RecordRules.Proofs.Builtin.Bound
import RecordRules.Registry

/-!
Parameters of rules. Six rules compare the value of a field with a parameter. They look at the value
first: what does not suit the rule is a violation, whatever the parameter is. They look at the
parameter next, and at the two together last, where all that can come of it is another violation. So
whether a rule is misconfigured depends on its parameter and on nothing else: an unusable parameter
is refused with one fault on every value that suits the rule, and a usable one on none. In neither
case does a misconfigured rule let a value pass.
-/

namespace RecordRules

/-- Numbers, and texts that write a number. -/
inductive Value.Numberlike : Value → Prop
  | integer (n : WholeNumber) : Numberlike (.integer n)
  | double (d : Double) : Numberlike (.double d)
  | string {s : String} {q : ℚ} (writes : Numeral.Writes s q) : Numberlike (.string s)

namespace Builtin

/-- The rules whose parameter is a bound. -/
def bounds : List Builtin := [min, max, minLength, maxLength]

/-- The rules that compare a value with their parameter. -/
def comparing : List Builtin := regex :: datetime :: bounds

/-- The values that the rule can compare with a parameter. -/
def Suits : Builtin → Value → Prop
  | min, value | max, value => value.Numberlike
  | _, value => ∃ s, value = .string s

/-- What the rule objects to in a value that does not suit it. -/
def misfit (field : String) : Builtin → Message
  | min | max => .notNumeric field
  | _ => .notString field

/-- The parameters that the rule can compare a value with. -/
def Usable : Builtin → String → Prop
  | regex, p => p ≠ "" ∧ (Pattern.compile? p).isSome = true
  | datetime, p => p ≠ "" ∧ (Calendar.formatItems? p.toList).isSome = true
  | _, p => ∃ q, Numeral.Writes p q

/-- What the rule objects to in a parameter that it cannot use. -/
def demand : Builtin → Message
  | regex => .patternRequired regex.name
  | datetime => .datetimeFormatRequired datetime.name
  | rule => .numericParamRequired rule.name

/-- What comes of looking at the value first, at the parameter next and at the two together last. -/
inductive Judged (suits usable : Prop) (misfit demand : Message) : Option Message → Prop
  | misfit (unsuited : ¬ suits) : Judged suits usable misfit demand (some misfit)
  | demand (suited : suits) (unusable : ¬ usable) : Judged suits usable misfit demand (some demand)
  | compared {found : Option Message} (suited : suits) (fit : usable)
      (violation : ∀ m ∈ found, m.kind = .ruleViolation) : Judged suits usable misfit demand found

namespace Judged

variable {suits usable : Prop} {misfit demand : Message} {found : Option Message}

theorem eq_misfit (h : Judged suits usable misfit demand found) (unsuited : ¬ suits) :
    found = some misfit := by
  cases h with
  | misfit => rfl
  | demand suited | compared suited => exact absurd suited unsuited

theorem eq_demand (h : Judged suits usable misfit demand found) (suited : suits)
    (unusable : ¬ usable) : found = some demand := by
  cases h with
  | misfit unsuited => exact absurd suited unsuited
  | demand => rfl
  | compared _ fit => exact absurd fit unusable

theorem kind_eq (h : Judged suits usable misfit demand found) (suited : suits) (fit : usable) :
    ∀ m ∈ found, m.kind = .ruleViolation := by
  cases h with
  | misfit unsuited => exact absurd suited unsuited
  | demand _ unusable => exact absurd fit unusable
  | compared _ _ violation => exact violation

end Judged

section Judging

variable {rule : Builtin} {field p : String} {value : Value} {param : Option String}
variable {complaint : String → Message} {within : Double → Double → Bool}

/-! ### Values and parameters -/

theorem usable?_eq_some_iff : usable? param = some p ↔ param = some p ∧ p ≠ "" := by
  simp [usable?, Option.filter_eq_some_iff]

theorem isSome_numberOfText?_iff {s : String} :
    (numberOfText? s).isSome = true ↔ ∃ q, Numeral.Writes s q :=
  isSome_numberOfText?.trans
    ⟨fun ⟨w, hw⟩ => ⟨w.value, w, hw, rfl⟩, fun ⟨_, w, hw, _⟩ => ⟨w, hw⟩⟩

theorem isSome_number?_iff (value : Value) :
    value.number?.isSome = true ↔ value.Numberlike := by
  cases value with
  | integer n => exact iff_of_true rfl (.integer n)
  | double d => exact iff_of_true rfl (.double d)
  | string s =>
      refine isSome_numberOfText?_iff.trans ⟨fun ⟨q, hq⟩ => .string hq, fun h => ?_⟩
      cases h with
      | string hq => exact ⟨_, hq⟩
  | null | bool | array | object => exact iff_of_false Bool.false_ne_true nofun

theorem isSome_bound?_iff (param : Option String) :
    (bound? param).isSome = true ↔ ∃ p ∈ param, ∃ q, Numeral.Writes p q := by
  cases param with
  | none => simp [bound?]
  | some p => simp [bound?, isSome_numberOfText?_iff]

theorem not_usable_empty (rule : Builtin) : ¬ rule.Usable "" := by
  have hnumber : ¬ ∃ q, Numeral.Writes "" q := fun h =>
    absurd (isSome_numberOfText?_iff.2 h) (by decide)
  cases rule with
  | regex | datetime => exact fun h => h.1 rfl
  | _ => exact hnumber

theorem usable_iff_of_mem_bounds (h : rule ∈ bounds) (p : String) :
    rule.Usable p ↔ ∃ q, Numeral.Writes p q := by
  cases rule with
  | min | max | minLength | maxLength => exact Iff.rfl
  | array | datetime | email | file | integer | numeric | regex | string =>
      exact absurd h (by decide)

/-! ### Looking at both -/

theorem kind_of_mem_ifNot {m found : Message} {passed : Bool} (hm : m.kind = .ruleViolation)
    (h : found ∈ m.ifNot passed) : found.kind = .ruleViolation := by
  cases passed with
  | true => cases h
  | false =>
      obtain rfl : m = found := Option.some.inj h
      exact hm

theorem judged_textObjection? {unusable : Message} {judge : String → String → Option Bool}
    {usable : String → Prop} (hjudge : ∀ s p, (judge s p).isSome = true ↔ usable p)
    (hcomplaint : ∀ p, (complaint p).kind = .ruleViolation) :
    Judged (∃ s, value = .string s) (∃ p ∈ param, p ≠ "" ∧ usable p) (.notString field) unusable
      (textObjection? field value param unusable judge complaint) := by
  cases value with
  | string s =>
      simp only [textObjection?]
      cases hparam : usable? param with
      | none =>
          refine .demand ⟨s, rfl⟩ ?_
          rintro ⟨p, hp, hne, -⟩
          rw [usable?_eq_some_iff.2 ⟨hp, hne⟩] at hparam
          cases hparam
      | some p =>
          obtain ⟨hp, hne⟩ := usable?_eq_some_iff.1 hparam
          have husable := hjudge s p
          dsimp only
          generalize judge s p = passed at husable ⊢
          cases passed with
          | none =>
              refine .demand ⟨s, rfl⟩ ?_
              rintro ⟨other, hother, -, hfit⟩
              obtain rfl : p = other := Option.some.inj (hp.symm.trans hother)
              exact Bool.false_ne_true (husable.2 hfit)
          | some passed =>
              exact .compared ⟨s, rfl⟩ ⟨p, hp, hne, husable.1 rfl⟩
                fun m => kind_of_mem_ifNot (hcomplaint p)
  | null | bool | integer | double | array | object => exact .misfit nofun

/-- All rules with a bound look at the bound alike, once the value suits them. -/
theorem judged_bound {suits : Prop} {misfit unusable : Message} {passes : Double → Bool}
    (suited : suits) (hcomplaint : ∀ p, (complaint p).kind = .ruleViolation) :
    Judged suits (∃ p ∈ param, ∃ q, Numeral.Writes p q) misfit unusable
      (match bound? param with
        | none => some unusable
        | some (bound, raw) => (complaint raw).ifNot (passes bound)) := by
  have hbound := isSome_bound?_iff param
  generalize bound? param = b at hbound ⊢
  cases b with
  | none => exact .demand suited fun h => Bool.false_ne_true (hbound.2 h)
  | some found =>
      exact .compared suited (hbound.1 rfl) fun m => kind_of_mem_ifNot (hcomplaint found.2)

theorem judged_boundObjection? (hcomplaint : ∀ p, (complaint p).kind = .ruleViolation) :
    Judged value.Numberlike (∃ p ∈ param, ∃ q, Numeral.Writes p q) (.notNumeric field)
      (.numericParamRequired rule.name)
      (boundObjection? rule field value param within complaint) := by
  rw [boundObjection?]
  have hnumber := isSome_number?_iff value
  generalize value.number? = number at hnumber ⊢
  cases number with
  | none => exact .misfit fun h => Bool.false_ne_true (hnumber.2 h)
  | some d => exact judged_bound (hnumber.1 rfl) hcomplaint

theorem judged_lengthObjection? (hcomplaint : ∀ p, (complaint p).kind = .ruleViolation) :
    Judged (∃ s, value = .string s) (∃ p ∈ param, ∃ q, Numeral.Writes p q) (.notString field)
      (.numericParamRequired rule.name)
      (lengthObjection? rule field value param within complaint) := by
  cases value with
  | string s => exact judged_bound ⟨s, rfl⟩ hcomplaint
  | null | bool | integer | double | array | object => exact .misfit nofun

theorem judged_objection? (h : rule ∈ comparing) (isFile : String → Bool) (field : String)
    (value : Value) (param : Option String) :
    Judged (rule.Suits value) (∃ p ∈ param, rule.Usable p) (rule.misfit field) rule.demand
      (rule.objection? isFile field value param) := by
  cases rule with
  | regex =>
      refine judged_textObjection? (fun s p => ?_) fun p => ?_
      · simp [Pattern.matches?]
      · rfl
  | datetime =>
      refine judged_textObjection? (fun s p => ?_) fun p => ?_
      · simp [Calendar.matches?]
      · rfl
  | min | max => exact judged_boundObjection? fun p => rfl
  | minLength | maxLength =>
      rw [objection?]
      exact judged_lengthObjection? fun p => rfl
  | array | email | file | integer | numeric | string => exact absurd h (by decide)

end Judging

/-- Some value suits the rule. -/
theorem exists_suits (rule : Builtin) : ∃ value, rule.Suits value := by
  cases rule with
  | min | max => exact ⟨.integer default, .integer default⟩
  | _ => exact ⟨.string "", "", rfl⟩

end Builtin

namespace Rule

/-- Every value that suits the rule is refused with one fault of configuration, in all fields. -/
def Misconfigured (rule : Rule) (param : Option String) : Prop :=
  ∃ fault : Fault, fault.kind = .configuration ∧ ∀ isFile field value, rule.kind.Suits value →
    rule.fault? isFile field value param = some fault

/-- No value that suits the rule is refused with a fault of configuration. -/
def Configured (rule : Rule) (param : Option String) : Prop :=
  ∀ isFile field value, rule.kind.Suits value →
    ∀ fault ∈ rule.fault? isFile field value param, fault.kind ≠ .configuration

section

variable {rule : Rule} {param : Option String}

theorem fault?_of_not_suits (h : rule.kind ∈ Builtin.comparing) {value : Value}
    (hvalue : ¬ rule.kind.Suits value) (isFile : String → Bool) (field : String) :
    rule.fault? isFile field value param =
      some ((rule.kind.misfit field).localizedFault rule.localizer) := by
  have hjudged := Builtin.judged_objection? h isFile field value param
  rw [fault?, hjudged.eq_misfit hvalue, Option.map_some]

theorem misconfigured_of_unusable (h : rule.kind ∈ Builtin.comparing)
    (hparam : ¬ ∃ p ∈ param, rule.kind.Usable p) : rule.Misconfigured param := by
  refine ⟨rule.kind.demand.localizedFault rule.localizer, ?_, ?_⟩
  · cases rule.kind <;> rfl
  · intro isFile field value hvalue
    have hjudged := Builtin.judged_objection? h isFile field value param
    rw [fault?, hjudged.eq_demand hvalue hparam, Option.map_some]

theorem configured_of_usable (h : rule.kind ∈ Builtin.comparing)
    (hparam : ∃ p ∈ param, rule.kind.Usable p) : rule.Configured param := by
  intro isFile field value hvalue fault hfault
  have hjudged := Builtin.judged_objection? h isFile field value param
  obtain ⟨m, hm, rfl⟩ := Option.map_eq_some_iff.1 hfault
  have hkind : (m.localizedFault rule.localizer).kind = .ruleViolation :=
    hjudged.kind_eq hvalue hparam m hm
  rw [hkind]
  decide

theorem Misconfigured.not_configured (h : rule.Misconfigured param) : ¬ rule.Configured param := by
  intro hconfigured
  obtain ⟨fault, hkind, hall⟩ := h
  obtain ⟨value, hvalue⟩ := rule.kind.exists_suits
  have hfault := hall (fun _ => false) "" value hvalue
  exact hconfigured _ _ value hvalue fault hfault hkind

theorem misconfigured_iff (h : rule.kind ∈ Builtin.comparing) :
    rule.Misconfigured param ↔ ¬ ∃ p ∈ param, rule.kind.Usable p := by
  refine ⟨fun hmis husable => ?_, misconfigured_of_unusable h⟩
  exact hmis.not_configured (configured_of_usable h husable)

/-- A misconfigured rule lets no value pass. -/
theorem Misconfigured.fault?_ne_none (h : rule.kind ∈ Builtin.comparing)
    (hmis : rule.Misconfigured param) (isFile : String → Bool) (field : String) (value : Value) :
    rule.fault? isFile field value param ≠ none := by
  by_cases hvalue : rule.kind.Suits value
  · obtain ⟨fault, -, hall⟩ := hmis
    simp [hall isFile field value hvalue]
  · simp [fault?_of_not_suits h hvalue isFile field]

end

/-- A rule with a parameter refuses what does not suit it as a violation. Of all other values the
parameter decides alone: either the rule is misconfigured and they all have the same fault of
configuration, or it is configured and none has one. It is misconfigured if the parameter is missing
or empty, and one with a bound exactly if the bound is no number. A misconfigured rule lets no value
pass. -/
theorem misconfigured_by_param (rule : Rule) (param : Option String)
    (h : rule.kind ∈ Builtin.comparing) :
    (∀ isFile field value, ¬ rule.kind.Suits value →
      rule.fault? isFile field value param =
          some ((rule.kind.misfit field).localizedFault rule.localizer) ∧
        (rule.kind.misfit field).kind = .ruleViolation) ∧
    (rule.Misconfigured param ↔ ¬ rule.Configured param) ∧
    (rule.Misconfigured param ↔ ¬ ∃ p ∈ param, rule.kind.Usable p) ∧
    (param = none ∨ param = some "" → rule.Misconfigured param) ∧
    (rule.kind ∈ Builtin.bounds →
      (rule.Misconfigured param ↔ ¬ ∃ p ∈ param, ∃ q, Numeral.Writes p q)) ∧
    (rule.Misconfigured param → ∀ isFile field value,
      rule.fault? isFile field value param ≠ none) := by
  refine ⟨fun isFile field value hvalue => ⟨fault?_of_not_suits h hvalue isFile field, ?_⟩, ?_,
    misconfigured_iff h, fun hparam => ?_, fun hbound => ?_, fun hmis => hmis.fault?_ne_none h⟩
  · cases rule.kind <;> rfl
  · refine ⟨fun hmis => hmis.not_configured, fun hconfigured => ?_⟩
    rw [misconfigured_iff h]
    exact fun husable => hconfigured (configured_of_usable h husable)
  · refine misconfigured_of_unusable h ?_
    rintro ⟨p, hp, husable⟩
    rcases hparam with rfl | rfl
    · cases hp
    · obtain rfl : "" = p := Option.some.inj hp
      exact rule.kind.not_usable_empty husable
  · simp only [misconfigured_iff h, Builtin.usable_iff_of_mem_bounds hbound]

/-- A minimum in words is refused on a number that could meet it, and a boolean is no number
whatever the minimum is. -/
theorem misconfigured_by_param_of_ten :
    let rule : Rule := ⟨0, .min, 1, .english⟩
    let fault? (value : Value) := rule.fault? (fun _ => false) "age" value (some "ten")
    rule.kind ∈ Builtin.comparing ∧ rule.kind ∈ Builtin.bounds ∧
      rule.Misconfigured (some "ten") ∧ ¬ rule.Configured (some "ten") ∧
      fault? (.string "12") ≠ none ∧
      fault? (.bool true) = some (Message.notNumeric "age").fault := by
  intro rule fault?
  have hcomparing : rule.kind ∈ Builtin.comparing := by decide
  have hbound : rule.kind ∈ Builtin.bounds := by decide
  have hwords : ¬ ∃ p ∈ some "ten", ∃ q, Numeral.Writes p q := fun h =>
    absurd ((Builtin.isSome_bound?_iff (some "ten")).2 h) (by decide)
  have hbool : ¬ (Value.bool true).Numberlike := nofun
  obtain ⟨hmisfit, hexclusive, -, -, hnumeric, hrefuses⟩ :=
    misconfigured_by_param rule (some "ten") hcomparing
  have hmis : rule.Misconfigured (some "ten") := (hnumeric hbound).2 hwords
  exact ⟨hcomparing, hbound, hmis, hexclusive.1 hmis, hrefuses hmis _ _ _,
    (hmisfit _ "age" (.bool true) hbool).1⟩

end Rule

end RecordRules
