import RecordRules.Proofs.Validation.Verdict
import RecordRules.Registry.Pool

/-!
Histories: what several registries have been asked for, call by call. A call asks one registry for a
rule, for the shared predicates, or for the validation of a record. Whatever the calls, the pool they
leave is sound: the session of every registry is sound and speaks its own language, and no serial
number belongs to two registries. What a registry has made is what its calls have used, each rule
once.
-/

namespace RecordRules

/-- What a registry can be asked for. -/
inductive Action where
  | create (name : String)
  | predicates
  | validate (isFile : String → Bool) (validator : Validator) (record : Value)

inductive Answer where
  | rule (rule : Option Rule)
  | predicates (serial : Nat)
  | record (record : Value)

namespace Action

def run : Action → Run Answer
  | create name => do return .rule (← Run.rule? name)
  | predicates => do return .predicates (← Run.predicates)
  | validate isFile validator record => do return .record (← validator.validate isFile record)

/-- The built-in rules that are found on the way. -/
def rulesUsed (localizer : Localizer) : Action → List Builtin
  | create name => (Builtin.lookup? name).toList
  | predicates => []
  | validate isFile validator record => validator.rulesUsed isFile localizer record

theorem create_meets_of_eq_none {name : String} (h : Builtin.lookup? name = none) {s : Session}
    (hs : s.Sound) :
    (create name).run.Meets s
      (if name = "" then .error Message.emptyDirective.fault else .ok (.rule none)) [] := by
  have hrun := (Run.meets_rule?_of_eq_none h hs).map Answer.rule
  by_cases hname : name = ""
  · rw [if_pos hname] at hrun ⊢
    exact hrun
  · rw [if_neg hname] at hrun ⊢
    exact hrun

theorem create_meets_of_eq_some {name : String} {kind : Builtin}
    (h : Builtin.lookup? name = some kind) {s : Session} (hs : s.Sound) :
    ∃ rule, (create name).run.Meets s (.ok (.rule (some rule))) [kind] ∧ rule.kind = kind ∧
      (Text.lowerCase name, rule) ∈ ((create name).run s).session.registry.rules := by
  obtain ⟨rule, hmeets, hkind, hmem⟩ := Run.meets_rule?_of_eq_some h hs
  refine ⟨rule, hmeets.map Answer.rule, hkind, ?_⟩
  have hsession : ((create name).run s).session = (Run.rule? name s).session := by
    rw [run, Run.bind_eq, hmeets.result_eq]
    rfl
  rw [hsession]
  exact hmem

theorem create_session_of_eq_none {name : String} (h : Builtin.lookup? name = none)
    (s : Session) : ((create name).run s).session = s := by
  rw [run, Run.bind_eq, Run.rule?_of_lookup?_eq_none h]
  by_cases hname : name = ""
  · rw [if_pos hname]
  · rw [if_neg hname]
    rfl

theorem run_meets (action : Action) {s : Session} (hs : s.Sound) :
    ∃ result, action.run.Meets s result (action.rulesUsed s.registry.localizer) := by
  cases action with
  | create name =>
      rw [rulesUsed]
      cases h : Builtin.lookup? name with
      | none => exact ⟨_, create_meets_of_eq_none h hs⟩
      | some kind =>
          obtain ⟨rule, hmeets, -, -⟩ := create_meets_of_eq_some h hs
          exact ⟨_, hmeets⟩
  | predicates => exact ⟨_, (Run.meets_predicates hs).map Answer.predicates⟩
  | validate isFile validator record =>
      exact ⟨_, (validator.validate_meets isFile record hs).map Answer.record⟩

end Action

/-- A call on one of so many registries. -/
structure Call (count : Nat) where
  registry : Fin count
  action : Action

namespace Pool

def registry (pool : Pool) (index : Nat) : Registry :=
  pool.registries.getD index default

def call {count : Nat} (pool : Pool) (c : Call count) : Pool :=
  (pool.run c.registry c.action.run).2.2

def after {count : Nat} (pool : Pool) (calls : List (Call count)) : Pool :=
  calls.foldl call pool

end Pool

/-- A call in a history, with the pool that it finds. -/
structure Step (count : Nat) where
  before : Pool
  call : Call count

namespace Step

variable {count : Nat}

def result (step : Step count) : Except Fault Answer :=
  (step.before.run step.call.registry step.call.action.run).1

def after (step : Step count) : Pool :=
  step.before.call step.call

theorem result_eq (step : Step count) :
    step.result = (step.call.action.run (step.before.session step.call.registry)).result := rfl

theorem after_eq (step : Step count) :
    step.after = step.before.update step.call.registry
      (step.call.action.run (step.before.session step.call.registry)).session := rfl

/-- The call asks for a rule of that name and is given this one. -/
def Creates (step : Step count) (name : String) (rule : Rule) : Prop :=
  step.call.action = .create name ∧ step.result = .ok (.rule (some rule))

/-- The call shows that serial number as that of the shared predicates. -/
def Shows (step : Step count) (serial : Nat) : Prop :=
  step.result = .ok (.predicates serial) ∨
    ∃ rule, step.result = .ok (.rule (some rule)) ∧ rule.predicates = serial

end Step

/-- The calls of a history, each with the pool that it finds. -/
def Pool.steps {count : Nat} (pool : Pool) : List (Call count) → List (Step count)
  | [] => []
  | c :: calls => ⟨pool, c⟩ :: (pool.call c).steps calls

namespace Pool

/-! ### Sound pools -/

section

variable {count : Nat} {pool : Pool}

@[simp] theorem session_registry (pool : Pool) (index : Nat) :
    (pool.session index).registry = pool.registry index := rfl

theorem registry_update_self {index : Nat} (h : index < pool.registries.length) (s : Session) :
    (pool.update index s).registry index = s.registry := by
  simp [registry, update, h]

theorem registry_update_of_ne {index other : Nat} (h : index ≠ other) (s : Session) :
    (pool.update index s).registry other = pool.registry other := by
  simp [registry, update, List.getElem?_set_ne h]

theorem update_session {index : Nat} (h : index < pool.registries.length) :
    pool.update index (pool.session index) = pool := by
  simp [update, session, h]

end

structure Sound (localizers : List Localizer) (pool : Pool) : Prop where
  length_eq : pool.registries.length = localizers.length
  session_sound : ∀ i : Fin localizers.length, (pool.session i).Sound
  localizer_eq : ∀ i : Fin localizers.length, (pool.registry i).localizer = localizers.get i
  disjoint_serials : ∀ i j : Fin localizers.length, i ≠ j →
    (pool.registry i).serials.Disjoint (pool.registry j).serials

theorem registry_new {localizers : List Localizer} (i : Fin localizers.length) :
    (new localizers).registry i = Registry.new (localizers.get i) := by
  simp [new, registry]

theorem sound_new (localizers : List Localizer) : (new localizers).Sound localizers where
  length_eq := List.length_map _
  session_sound := by
    intro i
    have hsession : (new localizers).session i = Session.new (localizers.get i) := by
      rw [Session.new, ← registry_new]
      rfl
    rw [hsession]
    exact Session.sound_new _
  localizer_eq := by
    intro i
    rw [registry_new]
    rfl
  disjoint_serials := by
    intro i j _
    rw [registry_new]
    simp [Registry.serials, Registry.new]

/-! ### One call -/

section

variable {localizers : List Localizer} {pool : Pool} (c : Call localizers.length)

theorem Sound.lt_length (hp : pool.Sound localizers) (i : Fin localizers.length) :
    (i : Nat) < pool.registries.length :=
  hp.length_eq.symm ▸ i.isLt

theorem call_registry_self (hp : pool.Sound localizers) :
    (pool.call c).registry c.registry =
      (c.action.run (pool.session c.registry)).session.registry :=
  registry_update_self (hp.lt_length c.registry) _

theorem call_registry_of_ne {i : Fin localizers.length} (h : c.registry ≠ i) :
    (pool.call c).registry i = pool.registry i :=
  registry_update_of_ne (fun heq => h (Fin.ext heq)) _

theorem call_session_self (hp : pool.Sound localizers) :
    (pool.call c).session c.registry = (c.action.run (pool.session c.registry)).session := by
  rw [session, ← registry, call_registry_self c hp]
  rfl

/-- A call lets the session of every registry grow, if only by the serial numbers given. -/
theorem grown_call (hp : pool.Sound localizers) (i : Fin localizers.length) :
    (pool.session i).Grown ((pool.call c).session i) := by
  obtain ⟨result, hmeets⟩ := c.action.run_meets (hp.session_sound c.registry)
  by_cases hi : c.registry = i
  · rw [← hi, call_session_self c hp]
    exact hmeets.grown
  · -- the other registries stay as they are while the supply of serial numbers goes on
    exact Session.Grown.of_registry_eq (call_registry_of_ne c hi) hmeets.grown.nextSerial_le

/-- The serial numbers that a call gives out in a registry are new to the whole pool. -/
theorem serials_call (hp : pool.Sound localizers) {i : Fin localizers.length} {n : Nat}
    (h : n ∈ ((pool.call c).registry i).serials) :
    n ∈ (pool.registry i).serials ∨ c.registry = i ∧ pool.nextSerial ≤ n := by
  by_cases hi : c.registry = i
  · exact ((grown_call c hp i).fresh n h).imp_right fun hle => ⟨hi, hle⟩
  · rw [call_registry_of_ne c hi] at h
    exact .inl h

theorem Sound.call (hp : pool.Sound localizers) : (pool.call c).Sound localizers := by
  have hlt (i : Fin localizers.length) : ∀ n ∈ (pool.registry i).serials, n < pool.nextSerial :=
    (hp.session_sound i).serials_lt
  refine ⟨?_, ?_, ?_, ?_⟩
  · rw [Pool.call, run, update, List.length_set]
    exact hp.length_eq
  · intro i
    by_cases hi : c.registry = i
    · obtain ⟨result, hmeets⟩ := c.action.run_meets (hp.session_sound c.registry)
      rw [← hi, call_session_self c hp]
      exact hmeets.sound
    · have hregistry : ((pool.call c).session i).registry = (pool.session i).registry :=
        call_registry_of_ne c hi
      refine ⟨?_, ?_, ?_⟩ <;> rw [hregistry]
      · exact (hp.session_sound i).coherent
      · intro n hn
        exact Nat.lt_of_lt_of_le (hlt i n hn) (grown_call c hp i).nextSerial_le
      · exact (hp.session_sound i).nodup_serials
  · intro i
    exact (grown_call c hp i).localizer_eq.trans (hp.localizer_eq i)
  · -- a serial number that two registries hold is old in one of them, where it is too small to be
    -- new in the other, and no call is on both
    intro i j hij n hi hj
    rcases serials_call c hp hi with hi | ⟨rfl, hle⟩
    · rcases serials_call c hp hj with hj | ⟨rfl, hle⟩
      · exact hp.disjoint_serials i j hij hi hj
      · exact absurd (hlt i n hi) (Nat.not_lt_of_le hle)
    · rcases serials_call c hp hj with hj | ⟨heq, -⟩
      · exact absurd (hlt j n hj) (Nat.not_lt_of_le hle)
      · exact hij heq

theorem kinds_call (hp : pool.Sound localizers) (i : Fin localizers.length) :
    ((pool.call c).registry i).kinds =
      if c.registry = i then addUses (pool.registry i).kinds (c.action.rulesUsed (localizers.get i))
      else (pool.registry i).kinds := by
  by_cases hi : c.registry = i
  · obtain ⟨result, hmeets⟩ := c.action.run_meets (hp.session_sound c.registry)
    have hkinds := hmeets.kinds_eq
    rw [session_registry, hp.localizer_eq] at hkinds
    rw [if_pos hi, ← hi, call_registry_self c hp]
    exact hkinds
  · rw [if_neg hi, call_registry_of_ne c hi]

end

/-! ### Several calls -/

/-- The rules that some calls use in a registry, in their order. -/
def rulesUsed {count : Nat} (localizer : Localizer) (i : Fin count) (calls : List (Call count)) :
    List Builtin :=
  (calls.filter fun c => c.registry = i).flatMap fun c => c.action.rulesUsed localizer

section

variable {localizers : List Localizer} {pool : Pool}

@[simp] theorem after_cons (c : Call localizers.length) (calls : List (Call localizers.length)) :
    pool.after (c :: calls) = (pool.call c).after calls := rfl

theorem after_append (calls more : List (Call localizers.length)) :
    pool.after (calls ++ more) = (pool.after calls).after more :=
  List.foldl_append

theorem Sound.after (hp : pool.Sound localizers) (calls : List (Call localizers.length)) :
    (pool.after calls).Sound localizers := by
  induction calls generalizing pool with
  | nil => exact hp
  | cons c calls ih => exact ih (hp.call c)

theorem grown_after (hp : pool.Sound localizers) (calls : List (Call localizers.length))
    (i : Fin localizers.length) : (pool.session i).Grown ((pool.after calls).session i) := by
  induction calls generalizing pool with
  | nil => exact Session.Grown.refl _
  | cons c calls ih => exact (grown_call c hp i).trans (ih (hp.call c))

/-- A registry has made what its calls have used. -/
theorem kinds_after (hp : pool.Sound localizers) (calls : List (Call localizers.length))
    (i : Fin localizers.length) :
    ((pool.after calls).registry i).kinds =
      addUses (pool.registry i).kinds (rulesUsed (localizers.get i) i calls) := by
  induction calls generalizing pool with
  | nil => rfl
  | cons c calls ih =>
      rw [after_cons, ih (hp.call c), kinds_call c hp, rulesUsed, rulesUsed, List.filter_cons]
      by_cases hi : c.registry = i
      · rw [if_pos hi, if_pos (decide_eq_true hi), List.flatMap_cons, addUses_append]
      · rw [if_neg hi, if_neg (by simpa using hi)]

theorem kinds_new (i : Fin localizers.length) : ((new localizers).registry i).kinds = [] := by
  rw [registry_new]
  rfl

theorem kinds_after_new (calls : List (Call localizers.length)) (i : Fin localizers.length) :
    (((new localizers).after calls).registry i).kinds =
      addUses [] (rulesUsed (localizers.get i) i calls) := by
  rw [kinds_after (sound_new localizers), kinds_new]

/-- A step stands between the calls that came earlier and those that come later. -/
theorem exists_of_mem_steps {calls : List (Call localizers.length)}
    {step : Step localizers.length} (h : step ∈ pool.steps calls) :
    ∃ earlier later, calls = earlier ++ step.call :: later ∧ step.before = pool.after earlier := by
  induction calls generalizing pool with
  | nil => cases h
  | cons c calls ih =>
      rw [steps, List.mem_cons] at h
      rcases h with rfl | h
      · exact ⟨[], calls, rfl, rfl⟩
      · obtain ⟨earlier, later, hcalls, hbefore⟩ := ih h
        exact ⟨c :: earlier, later, by rw [hcalls, List.cons_append], hbefore⟩

theorem Sound.before {calls : List (Call localizers.length)} {step : Step localizers.length}
    (hp : pool.Sound localizers) (h : step ∈ pool.steps calls) :
    step.before.Sound localizers := by
  obtain ⟨earlier, later, -, hbefore⟩ := exists_of_mem_steps h
  rw [hbefore]
  exact hp.after earlier

theorem grown_of_mem_steps {calls : List (Call localizers.length)}
    {step : Step localizers.length} (hp : pool.Sound localizers) (h : step ∈ pool.steps calls)
    (i : Fin localizers.length) :
    (step.after.session i).Grown ((pool.after calls).session i) := by
  obtain ⟨earlier, later, hcalls, hbefore⟩ := exists_of_mem_steps h
  have hafter : pool.after calls = step.after.after later := by
    rw [hcalls, after_append, ← hbefore]
    rfl
  rw [hafter]
  exact grown_after ((hp.before h).call step.call) later i

end

end Pool

end RecordRules
