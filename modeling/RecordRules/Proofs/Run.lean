import RecordRules.Proofs.Registry.Sound

/-!
How runs are reasoned about. `x.Meets s result uses` says of a run `x` on the session `s` how it
ends, which built-in rules it uses on the way, and that the session it leaves is sound and has grown
from `s`. Runs that follow each other add up their uses, so a statement about a long run is put
together from statements about its parts, and no proof has to look at a session twice.
-/

namespace RecordRules

/-- The rules that have been made after some more uses: each that is new comes to the end. -/
def addUses (made uses : List Builtin) : List Builtin :=
  uses.foldl (fun made kind => if kind ∈ made then made else made ++ [kind]) made

@[simp] theorem addUses_nil (made : List Builtin) : addUses made [] = made := rfl

theorem addUses_cons (made : List Builtin) (kind : Builtin) (uses : List Builtin) :
    addUses made (kind :: uses) =
      addUses (if kind ∈ made then made else made ++ [kind]) uses := rfl

theorem addUses_append (made uses more : List Builtin) :
    addUses made (uses ++ more) = addUses (addUses made uses) more :=
  List.foldl_append

theorem mem_addUses {made uses : List Builtin} {kind : Builtin} :
    kind ∈ addUses made uses ↔ kind ∈ made ∨ kind ∈ uses := by
  induction uses generalizing made with
  | nil => simp
  | cons use uses ih =>
      rw [addUses_cons, ih]
      by_cases h : use ∈ made
      · rw [if_pos h, List.mem_cons]
        constructor
        · exact fun hk => hk.imp_right .inr
        · rintro (hk | rfl | hk)
          · exact .inl hk
          · exact .inl h
          · exact .inr hk
      · rw [if_neg h, List.mem_append, List.mem_singleton, List.mem_cons, or_assoc]

theorem nodup_addUses {made : List Builtin} (h : made.Nodup) (uses : List Builtin) :
    (addUses made uses).Nodup := by
  induction uses generalizing made with
  | nil => exact h
  | cons use uses ih =>
      rw [addUses_cons]
      by_cases hu : use ∈ made
      · rw [if_pos hu]
        exact ih h
      · rw [if_neg hu, ← List.concat_eq_append]
        exact ih (h.concat hu)

namespace Run

variable {α β : Type}

/-- What a run does that goes on with the result of another. -/
theorem bind_eq (x : Run α) (f : α → Run β) (s : Session) :
    (x >>= f) s =
      match (x s).result with
      | .ok a => ⟨(f a (x s).session).result, (f a (x s).session).session,
          (x s).events ++ (f a (x s).session).events⟩
      | .error fault => ⟨.error fault, (x s).session, (x s).events⟩ := rfl

theorem bind_of_ok {x : Run α} {s : Session} {a : α} (h : (x s).result = .ok a) (f : α → Run β) :
    (x >>= f) s = ⟨(f a (x s).session).result, (f a (x s).session).session,
      (x s).events ++ (f a (x s).session).events⟩ := by
  rw [bind_eq, h]

theorem bind_of_error {x : Run α} {s : Session} {fault : Fault} (h : (x s).result = .error fault)
    (f : α → Run β) : (x >>= f) s = ⟨.error fault, (x s).session, (x s).events⟩ := by
  rw [bind_eq, h]

theorem ofExcept_ok_bind (a : α) (f : α → Run β) : (ofExcept (.ok a) >>= f) = f a := rfl

theorem reportingFaults_of_ok {x : Run α} {s : Session} {a : α} (h : (x s).result = .ok a)
    (event : Fault → Event) : x.reportingFaults event s = x s := by
  rw [reportingFaults, h]

theorem reportingFaults_of_error {x : Run α} {s : Session} {fault : Fault}
    (h : (x s).result = .error fault) (event : Fault → Event) :
    x.reportingFaults event s =
      ⟨.error fault, (x s).session, (x s).events ++ [event fault]⟩ := by
  simp only [reportingFaults, h]

structure Meets (x : Run α) (s : Session) (result : Except Fault α) (uses : List Builtin) :
    Prop where
  result_eq : (x s).result = result
  sound : (x s).session.Sound
  grown : s.Grown (x s).session
  kinds_eq : (x s).session.registry.kinds = addUses s.registry.kinds uses

/-! ### Runs that leave the session as it is -/

theorem Meets.of_session_eq {x : Run α} {s : Session} (hs : s.Sound)
    (h : (x s).session = s) : x.Meets s (x s).result [] where
  result_eq := rfl
  sound := h.symm ▸ hs
  grown := h.symm ▸ Session.Grown.refl s
  kinds_eq := by rw [h, addUses_nil]

theorem meets_pure {s : Session} (hs : s.Sound) (a : α) : (pure a : Run α).Meets s (.ok a) [] :=
  .of_session_eq hs rfl

theorem meets_fail {s : Session} (hs : s.Sound) (fault : Fault) :
    (fail fault : Run α).Meets s (.error fault) [] :=
  .of_session_eq hs rfl

theorem meets_report {s : Session} (hs : s.Sound) (event : Event) :
    (report event).Meets s (.ok ()) [] :=
  .of_session_eq hs rfl

theorem meets_ofExcept {s : Session} (hs : s.Sound) (result : Except Fault α) :
    (ofExcept result).Meets s result [] := by
  cases result with
  | ok a => exact meets_pure hs a
  | error fault => exact meets_fail hs fault

theorem meets_failWith? {s : Session} (hs : s.Sound) (fault? : Option Fault) :
    (failWith? fault?).Meets s
      (match fault? with
        | some fault => .error fault
        | none => .ok ()) [] := by
  cases fault? with
  | some fault => exact meets_fail hs fault
  | none => exact meets_pure hs ()

/-! ### Runs that follow each other -/

theorem Meets.bind {x : Run α} {f : α → Run β} {s : Session} {a : α} {result : Except Fault β}
    {uses more : List Builtin} (hx : x.Meets s (.ok a) uses)
    (hf : (f a).Meets (x s).session result more) : (x >>= f).Meets s result (uses ++ more) := by
  have hrun := bind_of_ok hx.result_eq f
  refine ⟨?_, ?_, ?_, ?_⟩
  · rw [hrun]
    exact hf.result_eq
  · rw [hrun]
    exact hf.sound
  · rw [hrun]
    exact hx.grown.trans hf.grown
  · rw [hrun, addUses_append, ← hx.kinds_eq]
    exact hf.kinds_eq

theorem Meets.andThen {x : Run α} {y : Run β} {s : Session} {a : α} {result : Except Fault β}
    {uses more : List Builtin} (hx : x.Meets s (.ok a) uses)
    (hy : y.Meets (x s).session result more) :
    (x >>= fun _ => y).Meets s result (uses ++ more) :=
  hx.bind hy

theorem Meets.bind_error {x : Run α} {s : Session} {fault : Fault} {uses : List Builtin}
    (hx : x.Meets s (.error fault) uses) (f : α → Run β) :
    (x >>= f).Meets s (.error fault) uses := by
  have hrun := bind_of_error hx.result_eq f
  refine ⟨?_, ?_, ?_, ?_⟩ <;> rw [hrun]
  · exact hx.sound
  · exact hx.grown
  · exact hx.kinds_eq

theorem Meets.map {x : Run α} {s : Session} {result : Except Fault α} {uses : List Builtin}
    (hx : x.Meets s result uses) (g : α → β) :
    (x >>= fun a => pure (g a)).Meets s (result.map g) uses := by
  cases result with
  | error fault => exact hx.bind_error _
  | ok a =>
      have hrun := hx.bind (f := fun a => pure (g a)) (meets_pure hx.sound (g a))
      rw [List.append_nil] at hrun
      exact hrun

theorem exists_of_map_eq_ok {x : Run α} {g : α → β} {s : Session} {b : β}
    (h : ((x >>= fun a => pure (g a)) s).result = .ok b) : ∃ a, b = g a ∧ (x s).result = .ok a := by
  rw [bind_eq] at h
  cases hx : (x s).result with
  | error fault =>
      rw [hx] at h
      cases h
  | ok a =>
      rw [hx] at h
      exact ⟨a, (Except.ok.inj h).symm, rfl⟩

/-- What is reported of a fault changes neither the result nor the session. -/
theorem Meets.reportingFaults {x : Run α} {s : Session} {result : Except Fault α}
    {uses : List Builtin} (hx : x.Meets s result uses) (event : Fault → Event) :
    (x.reportingFaults event).Meets s result uses := by
  have hresult : (x.reportingFaults event s).result = (x s).result := by
    cases h : (x s).result with
    | ok a => rw [reportingFaults_of_ok h, h]
    | error fault => rw [reportingFaults_of_error h]
  have hsession : (x.reportingFaults event s).session = (x s).session := by
    cases h : (x s).result with
    | ok a => rw [reportingFaults_of_ok h]
    | error fault => rw [reportingFaults_of_error h]
  refine ⟨hresult.trans hx.result_eq, ?_, ?_, ?_⟩ <;> rw [hsession]
  · exact hx.sound
  · exact hx.grown
  · exact hx.kinds_eq

/-! ### Making and finding things -/

theorem predicates_eq (s : Session) :
    predicates s = ⟨.ok s.sharedPredicates, s.withPredicates, []⟩ := by
  rw [predicates, bind_eq]
  cases h : s.registry.predicates with
  | none =>
      simp only [registry, h, Session.sharedPredicates, Session.withPredicates]
      rfl
  | some p =>
      simp only [registry, h, Session.sharedPredicates, Session.withPredicates]
      rfl

theorem meets_predicates {s : Session} (hs : s.Sound) :
    predicates.Meets s (.ok s.sharedPredicates) [] := by
  refine ⟨?_, ?_, ?_, ?_⟩ <;> rw [predicates_eq]
  · exact hs.withPredicates
  · exact s.grown_withPredicates
  · rw [Registry.kinds, s.withPredicates_rules]
    rfl

theorem makeRule_eq (kind : Builtin) (name : String) (s : Session) :
    makeRule kind name s = ⟨.ok (s.nextRule kind), s.withRule kind name, [.instantiating kind]⟩ := by
  simp only [makeRule, bind_eq, report, predicates_eq, Session.nextRule, Session.withRule,
    ← s.withPredicates_localizer]
  rfl

/-- An empty name is a fault, and a name of no rule is none. The session stays as it is. -/
theorem rule?_of_lookup?_eq_none {name : String} (h : Builtin.lookup? name = none) (s : Session) :
    rule? name s =
      ⟨if name = "" then .error Message.emptyDirective.fault else .ok none, s, []⟩ := by
  by_cases hname : name = ""
  · rw [rule?, if_pos (String.isEmpty_iff.2 hname), if_pos hname]
    rfl
  · rw [rule?, if_neg (mt String.isEmpty_iff.1 hname), h, if_neg hname]
    rfl

theorem meets_rule?_of_eq_none {name : String} (h : Builtin.lookup? name = none) {s : Session}
    (hs : s.Sound) :
    (rule? name).Meets s
      (if name = "" then .error Message.emptyDirective.fault else .ok none) [] := by
  have hrun := rule?_of_lookup?_eq_none h s
  refine ⟨?_, ?_, ?_, ?_⟩ <;> rw [hrun]
  · exact hs
  · exact Session.Grown.refl s
  · rfl

theorem rule?_of_lookup?_eq_some {name : String} {kind : Builtin}
    (h : Builtin.lookup? name = some kind) (s : Session) :
    rule? name s =
      match Keyed.find? (Text.lowerCase name) s.registry.rules with
      | some rule => ⟨.ok (some rule), s, []⟩
      | none => ⟨.ok (some (s.nextRule kind)), s.withRule kind (Text.lowerCase name),
          [.instantiating kind]⟩ := by
  have hname : ¬ name.isEmpty = true := by
    intro hempty
    rw [String.isEmpty_iff.1 hempty, Builtin.lookup?_empty] at h
    cases h
  rw [rule?, if_neg hname, h]
  simp only [bind_eq, registry]
  cases Keyed.find? (Text.lowerCase name) s.registry.rules with
  | some rule => rfl
  | none =>
      simp only [bind_eq, makeRule_eq]
      rfl

/-- A name of a rule finds a rule of that kind, which the registry holds from then on. -/
theorem meets_rule?_of_eq_some {name : String} {kind : Builtin} (h : Builtin.lookup? name = some kind)
    {s : Session} (hs : s.Sound) :
    ∃ rule, (rule? name).Meets s (.ok (some rule)) [kind] ∧ rule.kind = kind ∧
      (Text.lowerCase name, rule) ∈ (rule? name s).session.registry.rules := by
  have hkey := Builtin.lookup?_eq_some_iff.1 h
  have hrun := rule?_of_lookup?_eq_some h s
  cases hfound : Keyed.find? (Text.lowerCase name) s.registry.rules with
  | some rule =>
      rw [hfound] at hrun
      have hmem := Keyed.mem_of_find?_eq_some hfound
      have hkind : rule.kind = kind :=
        Builtin.lowerCase_name_inj ((hs.coherent.key_eq _ hmem).symm.trans hkey.symm)
      have hmade : kind ∈ s.registry.kinds := hkind ▸ List.mem_map_of_mem hmem
      refine ⟨rule, ⟨?_, ?_, ?_, ?_⟩, hkind, ?_⟩ <;> rw [hrun]
      · exact hs
      · exact Session.Grown.refl s
      · rw [addUses_cons, if_pos hmade, addUses_nil]
      · exact hmem
  | none =>
      rw [hfound] at hrun
      have hnew := Keyed.find?_eq_none_iff.1 hfound
      have hmade : kind ∉ s.registry.kinds := by
        rwa [hs.coherent.kind_mem_kinds_iff, hkey]
      refine ⟨s.nextRule kind, ⟨?_, ?_, ?_, ?_⟩, rfl, ?_⟩ <;> rw [hrun]
      · exact hs.withRule hkey.symm hnew
      · exact Session.grown_withRule hnew
      · rw [addUses_cons, if_neg hmade, addUses_nil]
        exact Session.withRule_kinds hnew
      · rw [Session.withRule_rules hnew]
        exact List.mem_append_right _ List.mem_cons_self

end Run

end RecordRules
