import RecordRules.Proofs.Registry.History
import Mathlib.Data.List.Dedup

/-!
What is shared. In every history a registry gives one rule for all the names of a built-in rule, its
own name in any letter case, and another registry gives another one; whatever shows the shared
predicates of a registry shows the same ones, and those of another registry are others. A registry
holds as many rules as its calls have used, and a name that has no rule changes nothing.

All this is read off the last pool of the history: what a call has shown is still held there, a rule
under its name and the predicates in their place, and that pool is sound.
-/

namespace RecordRules

/-! ### What an answer tells of the action -/

namespace Action

variable {action : Action} {s : Session}

theorem exists_of_result_rule {rule : Option Rule}
    (h : (action.run s).result = .ok (.rule rule)) : ∃ name, action = create name := by
  cases action with
  | create name => exact ⟨name, rfl⟩
  | predicates =>
      obtain ⟨p, hanswer, -⟩ := Run.exists_of_map_eq_ok h
      cases hanswer
  | validate isFile validator record =>
      obtain ⟨value, hanswer, -⟩ := Run.exists_of_map_eq_ok h
      cases hanswer

theorem eq_of_result_predicates {p : Nat} (h : (action.run s).result = .ok (.predicates p)) :
    action = predicates := by
  cases action with
  | create name =>
      obtain ⟨rule, hanswer, -⟩ := Run.exists_of_map_eq_ok h
      cases hanswer
  | predicates => rfl
  | validate isFile validator record =>
      obtain ⟨value, hanswer, -⟩ := Run.exists_of_map_eq_ok h
      cases hanswer

/-- The predicates that are shown are those of the registry from then on. -/
theorem predicates_of_result {p : Nat} (h : (action.run s).result = .ok (.predicates p)) :
    (action.run s).session.registry.predicates = some p := by
  cases eq_of_result_predicates h
  rw [run, Run.bind_eq, Run.predicates_eq] at h ⊢
  cases Except.ok.inj h
  exact s.withPredicates_predicates

/-- A rule that is given is one of the name, and the registry holds it from then on. -/
theorem mem_rules_of_result {name : String} {rule : Rule} (hs : s.Sound)
    (h : ((create name).run s).result = .ok (.rule (some rule))) :
    Builtin.lookup? name = some rule.kind ∧
      (Text.lowerCase name, rule) ∈ ((create name).run s).session.registry.rules := by
  cases hlookup : Builtin.lookup? name with
  | none =>
      have hresult := (create_meets_of_eq_none hlookup hs).result_eq.symm.trans h
      split at hresult <;> cases hresult
  | some kind =>
      obtain ⟨made, hmeets, hkind, hmem⟩ := create_meets_of_eq_some hlookup hs
      cases hmeets.result_eq.symm.trans h
      rw [hkind]
      exact ⟨rfl, hmem⟩

end Action

/-! ### What the steps of a history show -/

namespace Pool

variable {localizers : List Localizer} {pool : Pool} {calls : List (Call localizers.length)}
variable {step : Step localizers.length}

theorem rule_mem_of_creates (hp : pool.Sound localizers) (hstep : step ∈ pool.steps calls)
    {name : String} {rule : Rule} (h : step.Creates name rule) :
    Builtin.lookup? name = some rule.kind ∧
      (Text.lowerCase name, rule) ∈ ((pool.after calls).registry step.call.registry).rules := by
  have hbefore := hp.before hstep
  have hgrown := grown_of_mem_steps hp hstep step.call.registry
  obtain ⟨haction, hresult⟩ := h
  have hsession := call_session_self step.call hbefore
  rw [step.result_eq, haction] at hresult
  rw [haction] at hsession
  obtain ⟨hlookup, hmem⟩ :=
    Action.mem_rules_of_result (hbefore.session_sound step.call.registry) hresult
  refine ⟨hlookup, hgrown.rules_prefix.subset ?_⟩
  rw [Step.after, hsession]
  exact hmem

theorem predicates_of_shows (hp : pool.Sound localizers) (hstep : step ∈ pool.steps calls)
    {p : Nat} (h : step.Shows p) :
    ((pool.after calls).registry step.call.registry).predicates = some p := by
  rcases h with hresult | ⟨rule, hresult, rfl⟩
  · have hgrown := grown_of_mem_steps hp hstep step.call.registry
    refine hgrown.predicates_eq p ?_
    rw [Step.after, call_session_self step.call (hp.before hstep)]
    exact Action.predicates_of_result hresult
  · obtain ⟨name, haction⟩ := Action.exists_of_result_rule hresult
    obtain ⟨-, hmem⟩ := rule_mem_of_creates hp hstep ⟨haction, hresult⟩
    have hsound := (hp.after calls).session_sound step.call.registry
    exact hsound.coherent.predicates_eq _ hmem

/-- Rules of a sound pool that have the same serial number are held by the same registry, and they
are the same entry there. -/
theorem Sound.entry_eq_of_serial_eq (hp : pool.Sound localizers) {i j : Fin localizers.length}
    {e f : String × Rule} (he : e ∈ (pool.registry i).rules) (hf : f ∈ (pool.registry j).rules)
    (h : e.2.serial = f.2.serial) : i = j ∧ e = f := by
  have hserial (k : Fin localizers.length) {e : String × Rule} (he : e ∈ (pool.registry k).rules) :
      e.2.serial ∈ (pool.registry k).serials :=
    List.mem_append_right _ (List.mem_map_of_mem he)
  have hij : i = j := by
    by_contra hne
    refine hp.disjoint_serials i j hne (hserial i he) ?_
    rw [h]
    exact hserial j hf
  subst hij
  have hnodup := (List.nodup_append.1 (hp.session_sound i).nodup_serials).2.1
  exact ⟨rfl, List.inj_on_of_nodup_map hnodup he hf h⟩

theorem Sound.predicates_ne (hp : pool.Sound localizers) {i j : Fin localizers.length}
    (hij : i ≠ j) {p q : Nat} (hi : (pool.registry i).predicates = some p)
    (hj : (pool.registry j).predicates = some q) : p ≠ q := by
  have hserial (k : Fin localizers.length) {n : Nat} (h : (pool.registry k).predicates = some n) :
      n ∈ (pool.registry k).serials := by
    rw [Registry.serials, h]
    exact List.mem_cons_self
  rintro rfl
  exact hp.disjoint_serials i j hij (hserial i hi) (hserial j hj)

/-- Rules that are given are the same one if the registry and the kind are the same. -/
theorem serial_eq_iff (hp : pool.Sound localizers) {other : Step localizers.length}
    (hstep : step ∈ pool.steps calls) (hother : other ∈ pool.steps calls)
    {name otherName : String} {rule otherRule : Rule} (h : step.Creates name rule)
    (h' : other.Creates otherName otherRule) :
    rule.serial = otherRule.serial ↔ step.call.registry = other.call.registry ∧
      Builtin.lookup? name = Builtin.lookup? otherName := by
  obtain ⟨hkind, hmem⟩ := rule_mem_of_creates hp hstep h
  obtain ⟨hkind', hmem'⟩ := rule_mem_of_creates hp hother h'
  have hafter := hp.after calls
  rw [hkind, hkind', Option.some.injEq]
  constructor
  · intro hserial
    obtain ⟨hregistry, hentry⟩ := hafter.entry_eq_of_serial_eq hmem hmem' hserial
    exact ⟨hregistry, congrArg (fun e => e.2.kind) hentry⟩
  · rintro ⟨hregistry, hsame⟩
    rw [hregistry] at hmem
    have hcoherent := (hafter.session_sound other.call.registry).coherent
    have hentry := hcoherent.eq_of_kind_eq hmem hmem' hsame
    exact congrArg (fun e => e.2.serial) hentry

theorem length_rules_after (localizers : List Localizer) (calls : List (Call localizers.length))
    (i : Fin localizers.length) :
    (((new localizers).after calls).registry i).rules.length =
      (rulesUsed (localizers.get i) i calls).dedup.length := by
  have hperm : (addUses [] (rulesUsed (localizers.get i) i calls)).Perm
      (rulesUsed (localizers.get i) i calls).dedup := by
    refine (List.perm_ext_iff_of_nodup (nodup_addUses List.nodup_nil _) (List.nodup_dedup _)).2 ?_
    intro kind
    rw [mem_addUses, List.mem_dedup]
    simp
  rw [← hperm.length_eq, ← kinds_after_new, Registry.kinds, List.length_map]

theorem create_of_eq_some (hp : pool.Sound localizers) (hstep : step ∈ pool.steps calls)
    {name : String} {kind : Builtin} (haction : step.call.action = .create name)
    (h : Builtin.lookup? name = some kind) :
    ∃ rule, step.Creates name rule ∧ rule.kind = kind ∧
      rule.localizer = localizers.get step.call.registry := by
  have hs := (hp.before hstep).session_sound step.call.registry
  obtain ⟨rule, hmeets, hkind, -⟩ := Action.create_meets_of_eq_some h hs
  have hcreates : step.Creates name rule := by
    refine ⟨haction, ?_⟩
    rw [step.result_eq, haction]
    exact hmeets.result_eq
  obtain ⟨-, hmem⟩ := rule_mem_of_creates hp hstep hcreates
  have hafter := hp.after calls
  refine ⟨rule, hcreates, hkind, ?_⟩
  exact ((hafter.session_sound step.call.registry).coherent.localizer_eq _ hmem).trans
    (hafter.localizer_eq step.call.registry)

theorem create_of_eq_none (hp : pool.Sound localizers) (hstep : step ∈ pool.steps calls)
    {name : String} (haction : step.call.action = .create name)
    (h : Builtin.lookup? name = none) :
    step.result = (if name = "" then .error Message.emptyDirective.fault else .ok (.rule none)) ∧
      step.after = step.before := by
  have hbefore := hp.before hstep
  have hs := hbefore.session_sound step.call.registry
  constructor
  · rw [step.result_eq, haction]
    exact (Action.create_meets_of_eq_none h hs).result_eq
  · rw [step.after_eq, haction, Action.create_session_of_eq_none h]
    exact update_session (hbefore.lt_length step.call.registry)

end Pool

/-! ### What is shared -/

/-- What the calls on new registries have come to share. -/
structure Sharing (localizers : List Localizer) (calls : List (Call localizers.length)) : Prop where
  /-- The names of a built-in rule are its own name in any letter case. -/
  named : ∀ name kind, Builtin.lookup? name = some kind ↔ Text.sameLetters kind.name name = true
  /-- A name of a rule is given a rule of that kind in the language of the registry. -/
  created : ∀ step ∈ (Pool.new localizers).steps calls, ∀ name kind,
    step.call.action = .create name → Builtin.lookup? name = some kind →
      ∃ rule, step.Creates name rule ∧ rule.kind = kind ∧
        rule.localizer = localizers.get step.call.registry
  /-- Any other name is given none, and everything stays as it is. -/
  refused : ∀ step ∈ (Pool.new localizers).steps calls, ∀ name,
    step.call.action = .create name → Builtin.lookup? name = none →
      step.result = (if name = "" then .error Message.emptyDirective.fault else .ok (.rule none)) ∧
        step.after = step.before
  /-- Two rules that were given are the same one if the registry and the kind are the same. -/
  same_rule_iff : ∀ step ∈ (Pool.new localizers).steps calls,
    ∀ other ∈ (Pool.new localizers).steps calls, ∀ name rule otherName otherRule,
      step.Creates name rule → other.Creates otherName otherRule →
        (rule.serial = otherRule.serial ↔ step.call.registry = other.call.registry ∧
          Builtin.lookup? name = Builtin.lookup? otherName)
  /-- So they are if the registry is the same and the names differ in letter case at most. -/
  same_rule_iff_sameLetters : ∀ step ∈ (Pool.new localizers).steps calls,
    ∀ other ∈ (Pool.new localizers).steps calls, ∀ name rule otherName otherRule,
      step.Creates name rule → other.Creates otherName otherRule →
        (rule.serial = otherRule.serial ↔ step.call.registry = other.call.registry ∧
          Text.sameLetters name otherName = true)
  /-- The predicates can always be asked for. -/
  shown : ∀ step ∈ (Pool.new localizers).steps calls, step.call.action = .predicates →
    ∃ p, step.result = .ok (.predicates p)
  /-- What is shown of the predicates is the same if the registry is the same. -/
  same_predicates_iff : ∀ step ∈ (Pool.new localizers).steps calls,
    ∀ other ∈ (Pool.new localizers).steps calls, ∀ p q, step.Shows p → other.Shows q →
      (p = q ↔ step.call.registry = other.call.registry)
  /-- All rules that a registry holds have the predicates that it shows. -/
  predicates_eq : ∀ i : Fin localizers.length,
    ∀ e ∈ (((Pool.new localizers).after calls).registry i).rules,
      (((Pool.new localizers).after calls).registry i).predicates = some e.2.predicates
  shows_held : ∀ step ∈ (Pool.new localizers).steps calls, ∀ p, step.Shows p →
    (((Pool.new localizers).after calls).registry step.call.registry).predicates = some p
  /-- No registry holds what another one has made. -/
  disjoint : ∀ i j : Fin localizers.length, i ≠ j →
    (((Pool.new localizers).after calls).registry i).serials.Disjoint
      (((Pool.new localizers).after calls).registry j).serials
  /-- A registry holds one rule for each that its calls have used. -/
  length_rules : ∀ i : Fin localizers.length,
    (((Pool.new localizers).after calls).registry i).rules.length =
      (Pool.rulesUsed (localizers.get i) i calls).dedup.length

theorem sharing (localizers : List Localizer) (calls : List (Call localizers.length)) :
    Sharing localizers calls := by
  have hp := Pool.sound_new localizers
  have hafter := hp.after calls
  constructor
  case named =>
      intro name kind
      rw [Builtin.lookup?_eq_some_iff, Text.sameLetters_iff]
  case created => exact fun step hstep name kind => Pool.create_of_eq_some hp hstep
  case refused => exact fun step hstep name => Pool.create_of_eq_none hp hstep
  case same_rule_iff =>
      intro step hstep other hother name rule otherName otherRule hcreates hcreates'
      exact Pool.serial_eq_iff hp hstep hother hcreates hcreates'
  case same_rule_iff_sameLetters =>
      intro step hstep other hother name rule otherName otherRule hcreates hcreates'
      obtain ⟨hkind, -⟩ := Pool.rule_mem_of_creates hp hstep hcreates
      rw [Pool.serial_eq_iff hp hstep hother hcreates hcreates',
        Builtin.lookup?_eq_iff_sameLetters hkind]
  case shown =>
      intro step hstep haction
      have hs := (hp.before hstep).session_sound step.call.registry
      refine ⟨(step.before.session step.call.registry).sharedPredicates, ?_⟩
      rw [step.result_eq, haction]
      exact ((Run.meets_predicates hs).map Answer.predicates).result_eq
  case same_predicates_iff =>
      intro step hstep other hother p q hshows hshows'
      have hheld := Pool.predicates_of_shows hp hstep hshows
      have hheld' := Pool.predicates_of_shows hp hother hshows'
      constructor
      · intro hpq
        by_contra hregistry
        exact hafter.predicates_ne hregistry hheld hheld' hpq
      · intro hregistry
        rw [hregistry, hheld'] at hheld
        exact (Option.some.inj hheld).symm
  case predicates_eq => exact fun i => (hafter.session_sound i).coherent.predicates_eq
  case shows_held => exact fun step hstep p => Pool.predicates_of_shows hp hstep
  case disjoint => exact hafter.disjoint_serials
  case length_rules => exact Pool.length_rules_after localizers calls

/-- Three spellings of one name, of which the first registry is asked for two. -/
theorem sharing_of_spellings :
    let calls : List (Call 2) :=
      [⟨0, .create "InTeGeR"⟩, ⟨0, .create "integer"⟩, ⟨1, .create "INTEGER"⟩]
    ∃ first second third, (Pool.new [.english, .english]).steps calls = [first, second, third] ∧
      ∃ rule same other, first.Creates "InTeGeR" rule ∧ second.Creates "integer" same ∧
        third.Creates "INTEGER" other ∧ rule.kind = .integer ∧ rule.serial = same.serial ∧
          rule.serial ≠ other.serial := by
  intro calls
  have h := sharing [.english, .english] calls
  obtain ⟨first, second, third, hsteps, hfirst, hsecond, hthird⟩ : ∃ first second third,
      (Pool.new [.english, .english]).steps calls = [first, second, third] ∧
        first.call = ⟨0, .create "InTeGeR"⟩ ∧ second.call = ⟨0, .create "integer"⟩ ∧
          third.call = ⟨1, .create "INTEGER"⟩ :=
    ⟨_, _, _, rfl, rfl, rfl, rfl⟩
  have hmem : ∀ step ∈ [first, second, third], step ∈ (Pool.new [.english, .english]).steps calls :=
    fun step hstep => hsteps ▸ hstep
  simp only [List.forall_mem_cons, List.not_mem_nil, false_imp_iff, implies_true, and_true] at hmem
  obtain ⟨hmem, hmem', hmem''⟩ := hmem
  have hnamed (name : String) (hname : Text.sameLetters "integer" name = true) :
      Builtin.lookup? name = some .integer :=
    (h.named name .integer).2 hname
  obtain ⟨rule, hrule, hkind, -⟩ := h.created first hmem "InTeGeR" .integer
    (congrArg Call.action hfirst) (hnamed _ (by decide +kernel))
  obtain ⟨same, hsame, -⟩ := h.created second hmem' "integer" .integer
    (congrArg Call.action hsecond) (hnamed _ (by decide +kernel))
  obtain ⟨other, hother, -⟩ := h.created third hmem'' "INTEGER" .integer
    (congrArg Call.action hthird) (hnamed _ (by decide +kernel))
  refine ⟨first, second, third, hsteps, rule, same, other, hrule, hsame, hother, hkind, ?_, ?_⟩
  · have hletters : Text.sameLetters "InTeGeR" "integer" = true := by decide +kernel
    exact (h.same_rule_iff_sameLetters first hmem second hmem' _ _ _ _ hrule hsame).2
      ⟨by rw [hfirst, hsecond], hletters⟩
  · intro heq
    have hregistry :=
      ((h.same_rule_iff_sameLetters first hmem third hmem'' _ _ _ _ hrule hother).1 heq).1
    rw [hfirst, hthird] at hregistry
    cases hregistry

end RecordRules
