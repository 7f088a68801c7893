import RecordRules.Proofs.Builtin
import RecordRules.Proofs.Keyed
import RecordRules.Run

/-!
Sound sessions. In a sound session every rule of the registry stands under its own name in small
letters, speaks the registry's language and shares the registry's predicates; no rule is made twice,
and no serial number is given twice. A session only ever grows: what has been made stays as it is
and keeps its place, and what is made later has a later serial number.

Both are kept by the two things that a session can make, the shared predicates and a rule.
-/

namespace RecordRules

namespace Registry

/-- The serial numbers of all that the registry has made. -/
def serials (r : Registry) : List Nat :=
  r.predicates.toList ++ r.rules.map fun e => e.2.serial

/-- The built-in rules that the registry has made, in the order in which it made them. -/
def kinds (r : Registry) : List Builtin :=
  r.rules.map fun e => e.2.kind

structure Coherent (r : Registry) : Prop where
  key_eq : ∀ e ∈ r.rules, e.1 = Text.lowerCase e.2.kind.name
  localizer_eq : ∀ e ∈ r.rules, e.2.localizer = r.localizer
  predicates_eq : ∀ e ∈ r.rules, r.predicates = some e.2.predicates
  nodup_kinds : r.kinds.Nodup

theorem coherent_new (localizer : Localizer) : (new localizer).Coherent where
  key_eq := by simp [new]
  localizer_eq := by simp [new]
  predicates_eq := by simp [new]
  nodup_kinds := by simp [new, kinds]

theorem Coherent.kind_mem_kinds_iff {r : Registry} (hr : r.Coherent) {kind : Builtin} :
    kind ∈ r.kinds ↔ Text.lowerCase kind.name ∈ Keyed.keys r.rules := by
  constructor
  · intro h
    obtain ⟨e, he, rfl⟩ := List.mem_map.1 h
    rw [← hr.key_eq e he]
    exact List.mem_map_of_mem he
  · intro h
    obtain ⟨e, he, hkey⟩ := List.mem_map.1 h
    rw [hr.key_eq e he] at hkey
    rw [← Builtin.lowerCase_name_inj hkey]
    exact List.mem_map_of_mem he

/-- Rules that were made of the same kind are the same entry. -/
theorem Coherent.eq_of_kind_eq {r : Registry} (hr : r.Coherent) {e f : String × Rule}
    (he : e ∈ r.rules) (hf : f ∈ r.rules) (h : e.2.kind = f.2.kind) : e = f :=
  List.inj_on_of_nodup_map hr.nodup_kinds he hf h

end Registry

namespace Session

structure Sound (s : Session) : Prop where
  coherent : s.registry.Coherent
  serials_lt : ∀ n ∈ s.registry.serials, n < s.nextSerial
  nodup_serials : s.registry.serials.Nodup

theorem sound_new (localizer : Localizer) : (new localizer).Sound where
  coherent := Registry.coherent_new localizer
  serials_lt := by simp [new, Registry.new, Registry.serials]
  nodup_serials := by simp [new, Registry.new, Registry.serials]

/-- The session `t` is what `s` has grown to. -/
structure Grown (s t : Session) : Prop where
  localizer_eq : t.registry.localizer = s.registry.localizer
  rules_prefix : s.registry.rules <+: t.registry.rules
  predicates_eq : ∀ p, s.registry.predicates = some p → t.registry.predicates = some p
  nextSerial_le : s.nextSerial ≤ t.nextSerial
  fresh : ∀ n ∈ t.registry.serials, n ∈ s.registry.serials ∨ s.nextSerial ≤ n

theorem Grown.refl (s : Session) : s.Grown s :=
  ⟨rfl, List.prefix_rfl, fun _ h => h, Nat.le_refl _, fun _ h => .inl h⟩

theorem Grown.of_registry_eq {s t : Session} (h : t.registry = s.registry)
    (hle : s.nextSerial ≤ t.nextSerial) : s.Grown t := by
  obtain ⟨r, next⟩ := t
  cases h
  exact ⟨rfl, List.prefix_rfl, fun _ h => h, hle, fun _ h => .inl h⟩

theorem Grown.trans {s t u : Session} (h : s.Grown t) (h' : t.Grown u) : s.Grown u where
  localizer_eq := h'.localizer_eq.trans h.localizer_eq
  rules_prefix := h.rules_prefix.trans h'.rules_prefix
  predicates_eq := fun p hp => h'.predicates_eq p (h.predicates_eq p hp)
  nextSerial_le := Nat.le_trans h.nextSerial_le h'.nextSerial_le
  fresh := by
    intro n hn
    rcases h'.fresh n hn with hn | hn
    · exact h.fresh n hn
    · exact .inr (Nat.le_trans h.nextSerial_le hn)

/-! ### Making the shared predicates -/

/-- The serial number of the shared predicates, if need be the next one. -/
def sharedPredicates (s : Session) : Nat :=
  s.registry.predicates.getD s.nextSerial

/-- The session once the shared predicates are made. -/
def withPredicates (s : Session) : Session :=
  match s.registry.predicates with
  | some _ => s
  | none => ⟨{ s.registry with predicates := some s.nextSerial }, s.nextSerial + 1⟩

theorem withPredicates_predicates (s : Session) :
    s.withPredicates.registry.predicates = some s.sharedPredicates := by
  cases h : s.registry.predicates with
  | none => simp [withPredicates, sharedPredicates, h]
  | some p => simp [withPredicates, sharedPredicates, h]

@[simp] theorem withPredicates_rules (s : Session) :
    s.withPredicates.registry.rules = s.registry.rules := by
  cases h : s.registry.predicates <;> simp [withPredicates, h]

@[simp] theorem withPredicates_localizer (s : Session) :
    s.withPredicates.registry.localizer = s.registry.localizer := by
  cases h : s.registry.predicates <;> simp [withPredicates, h]

/-- Without predicates there are no rules either. -/
theorem Sound.rules_eq_nil {s : Session} (hs : s.Sound) (h : s.registry.predicates = none) :
    s.registry.rules = [] := by
  refine List.eq_nil_iff_forall_not_mem.2 fun e he => ?_
  have hp := hs.coherent.predicates_eq e he
  rw [h] at hp
  cases hp

theorem grown_withPredicates (s : Session) : s.Grown s.withPredicates := by
  cases h : s.registry.predicates with
  | some p =>
      have hsame : s.withPredicates = s := by simp [withPredicates, h]
      rw [hsame]
      exact Grown.refl s
  | none =>
      refine ⟨by simp, by simp, by simp [h], by simp [withPredicates, h], ?_⟩
      intro n hn
      simp only [Registry.serials, withPredicates, h, Option.toList_some, List.singleton_append,
        List.mem_cons] at hn
      rcases hn with rfl | hn
      · exact .inr (Nat.le_refl _)
      · exact .inl (List.mem_append_right _ hn)

theorem Sound.withPredicates {s : Session} (hs : s.Sound) : s.withPredicates.Sound := by
  cases h : s.registry.predicates with
  | some p =>
      have hsame : s.withPredicates = s := by simp [Session.withPredicates, h]
      rw [hsame]
      exact hs
  | none =>
      have hrules := hs.rules_eq_nil h
      refine ⟨⟨?_, ?_, ?_, ?_⟩, ?_, ?_⟩ <;>
        simp [Session.withPredicates, Registry.serials, Registry.kinds, h, hrules]

/-! ### Making a rule -/

/-- The rule that is made next. -/
def nextRule (s : Session) (kind : Builtin) : Rule :=
  ⟨s.withPredicates.nextSerial, kind, s.sharedPredicates, s.registry.localizer⟩

/-- The session once that rule is made and kept under a name. -/
def withRule (s : Session) (kind : Builtin) (name : String) : Session :=
  ⟨{ s.withPredicates.registry with
      rules := Keyed.put name (s.nextRule kind) s.withPredicates.registry.rules },
    s.withPredicates.nextSerial + 1⟩

section

variable {s : Session} {kind : Builtin} {name : String}

theorem withRule_rules (hnew : name ∉ Keyed.keys s.registry.rules) :
    (s.withRule kind name).registry.rules = s.registry.rules ++ [(name, s.nextRule kind)] := by
  rw [← s.withPredicates_rules] at hnew ⊢
  exact Keyed.put_of_notMem hnew _

theorem withRule_kinds (hnew : name ∉ Keyed.keys s.registry.rules) :
    (s.withRule kind name).registry.kinds = s.registry.kinds ++ [kind] := by
  rw [Registry.kinds, withRule_rules hnew, List.map_append]
  rfl

theorem withRule_serials (hnew : name ∉ Keyed.keys s.registry.rules) :
    (s.withRule kind name).registry.serials =
      s.withPredicates.registry.serials ++ [s.withPredicates.nextSerial] := by
  simp only [Registry.serials, withRule_rules hnew, withPredicates_rules, List.map_append,
    ← List.append_assoc]
  rfl

theorem grown_withRule (hnew : name ∉ Keyed.keys s.registry.rules) :
    s.Grown (s.withRule kind name) := by
  refine (grown_withPredicates s).trans ⟨rfl, ?_, fun _ h => h, Nat.le_succ _, ?_⟩
  · rw [withRule_rules hnew, withPredicates_rules]
    exact List.prefix_append _ _
  · intro n hn
    rw [withRule_serials hnew, List.mem_append, List.mem_singleton] at hn
    exact hn.imp_right fun h => Nat.le_of_eq h.symm

theorem Sound.withRule (hs : s.Sound) (hname : name = Text.lowerCase kind.name)
    (hnew : name ∉ Keyed.keys s.registry.rules) : (s.withRule kind name).Sound := by
  have ht := hs.withPredicates
  have hrules : (s.withRule kind name).registry.rules = _ := withRule_rules hnew
  have hserials : (s.withRule kind name).registry.serials = _ := withRule_serials hnew
  have hp : (s.withRule kind name).registry.predicates = some s.sharedPredicates :=
    s.withPredicates_predicates
  refine ⟨⟨?_, ?_, ?_, ?_⟩, ?_, ?_⟩
  · intro e he
    rw [hrules, List.mem_append, List.mem_singleton] at he
    rcases he with he | rfl
    · exact hs.coherent.key_eq e he
    · exact hname
  · intro e he
    rw [hrules, List.mem_append, List.mem_singleton] at he
    rcases he with he | rfl
    · exact (hs.coherent.localizer_eq e he).trans s.withPredicates_localizer.symm
    · exact s.withPredicates_localizer.symm
  · intro e he
    rw [hrules, List.mem_append, List.mem_singleton] at he
    rcases he with he | rfl
    · rw [← s.withPredicates_rules] at he
      exact ht.coherent.predicates_eq e he
    · exact hp
  · have hkind : kind ∉ s.registry.kinds := by
      rwa [hs.coherent.kind_mem_kinds_iff, ← hname]
    rw [withRule_kinds hnew, ← List.concat_eq_append]
    exact hs.coherent.nodup_kinds.concat hkind
  · intro n hn
    rw [hserials, List.mem_append, List.mem_singleton] at hn
    rcases hn with hn | rfl
    · exact Nat.lt_succ_of_lt (ht.serials_lt n hn)
    · exact Nat.lt_succ_self _
  · -- the serial number of the new rule is above all that were given before
    have hfresh : s.withPredicates.nextSerial ∉ s.withPredicates.registry.serials :=
      fun hmem => Nat.lt_irrefl _ (ht.serials_lt _ hmem)
    rw [hserials, ← List.concat_eq_append]
    exact ht.nodup_serials.concat hfresh

end

end Session

end RecordRules
