import RecordRules.Proofs.Run

/-!
What registries announce. A rule is announced when it is made, so of all the uses of a rule only the
first can announce it, and only if the registry has not made it before. An account of a run tells
every use of a rule as if it were the first; what the run reports is that account without the
announcements of what is there already.

A quiet run reports nothing but what it makes. If it is known which rules a quiet run uses, it is
known what it reports.
-/

namespace RecordRules

namespace Event

def announced? : Event → Option Builtin
  | instantiating rule => some rule
  | _ => none

def absent? : Event → Option String
  | absent field => some field
  | _ => none

/-- The events of an account without the announcements of rules that are made by then. -/
def fresh (made : List Builtin) : List Event → List Event
  | [] => []
  | instantiating rule :: events =>
    if rule ∈ made then fresh made events else instantiating rule :: fresh (made ++ [rule]) events
  | event :: events => event :: fresh made events

end Event

/-- The rules among some uses that are not made yet, in the order of their first use. -/
def newUses (made uses : List Builtin) : List Builtin :=
  (uses.filter (· ∉ made)).eraseDups

/-! ### New uses -/

section

variable {made : List Builtin} {rule : Builtin} {event : Event}

theorem newUses_cons_of_mem (h : rule ∈ made) (uses : List Builtin) :
    newUses made (rule :: uses) = newUses made uses := by
  rw [newUses, List.filter_cons_of_neg (by simpa using h), newUses]

theorem newUses_cons_of_notMem (h : rule ∉ made) (uses : List Builtin) :
    newUses made (rule :: uses) = rule :: newUses (made ++ [rule]) uses := by
  rw [newUses, List.filter_cons_of_pos (by simpa using h), List.eraseDups_cons, List.filter_filter,
    newUses]
  refine congrArg (fun uses => rule :: uses.eraseDups) (List.filter_congr fun kind _ => ?_)
  by_cases hkind : kind = rule <;> simp [hkind]

theorem addUses_eq_append (made uses : List Builtin) :
    addUses made uses = made ++ newUses made uses := by
  induction uses generalizing made with
  | nil => exact (List.append_nil made).symm
  | cons rule uses ih =>
      rw [addUses_cons]
      by_cases h : rule ∈ made
      · rw [if_pos h, newUses_cons_of_mem h, ih]
      · rw [if_neg h, newUses_cons_of_notMem h, ih, List.append_assoc]
        rfl

/-! ### Accounts -/

namespace Event

theorem fresh_cons_of_mem (h : rule ∈ made) (events : List Event) :
    fresh made (instantiating rule :: events) = fresh made events := by
  rw [fresh, if_pos h]

theorem fresh_cons_of_notMem (h : rule ∉ made) (events : List Event) :
    fresh made (instantiating rule :: events) =
      instantiating rule :: fresh (made ++ [rule]) events := by
  rw [fresh, if_neg h]

theorem fresh_cons_of_eq_none (h : event.announced? = none) (events : List Event) :
    fresh made (event :: events) = event :: fresh made events := by
  cases event with
  | instantiating rule => cases h
  | validating | absent | failed | valid => rfl

/-- The account of what comes later is read with the rules that are made by then. -/
theorem fresh_append (made : List Builtin) (events more : List Event) :
    fresh made (events ++ more) =
      fresh made events ++ fresh (addUses made (events.filterMap announced?)) more := by
  induction events generalizing made with
  | nil => rfl
  | cons event events ih =>
      rw [List.cons_append, List.filterMap_cons]
      cases hrule : event.announced? with
      | none => rw [fresh_cons_of_eq_none hrule, fresh_cons_of_eq_none hrule, ih, List.cons_append]
      | some rule =>
          cases event with
          | instantiating kind =>
              obtain rfl : kind = rule := Option.some.inj hrule
              rw [addUses_cons]
              by_cases h : kind ∈ made
              · rw [fresh_cons_of_mem h, fresh_cons_of_mem h, if_pos h, ih]
              · rw [fresh_cons_of_notMem h, fresh_cons_of_notMem h, if_neg h, ih, List.cons_append]
          | validating | absent | failed | valid => cases hrule

/-- What is announced are the new rules among those of the account. -/
theorem filterMap_announced?_fresh (made : List Builtin) (events : List Event) :
    (fresh made events).filterMap announced? =
      newUses made (events.filterMap announced?) := by
  induction events generalizing made with
  | nil => rfl
  | cons event events ih =>
      cases event with
      | instantiating rule =>
          rw [List.filterMap_cons]
          by_cases h : rule ∈ made
          · rw [fresh_cons_of_mem h, ih]
            exact (newUses_cons_of_mem h _).symm
          · rw [fresh_cons_of_notMem h, List.filterMap_cons]
            exact (congrArg (rule :: ·) (ih _)).trans (newUses_cons_of_notMem h _).symm
      | validating | absent | failed | valid => exact ih made

theorem filterMap_absent?_fresh (made : List Builtin) (events : List Event) :
    (fresh made events).filterMap absent? = events.filterMap absent? := by
  induction events generalizing made with
  | nil => rfl
  | cons event events ih =>
      cases event with
      | instantiating rule =>
          by_cases h : rule ∈ made
          · rw [fresh_cons_of_mem h]
            exact ih made
          · rw [fresh_cons_of_notMem h]
            exact ih _
      | absent field => exact congrArg (field :: ·) (ih made)
      | validating | failed | valid => exact ih made

/-- Of what is made it only matters which rules they are. -/
theorem fresh_congr {other : List Builtin} (h : ∀ rule, rule ∈ made ↔ rule ∈ other)
    (events : List Event) : fresh made events = fresh other events := by
  induction events generalizing made other with
  | nil => rfl
  | cons event events ih =>
      cases event with
      | instantiating rule =>
          by_cases hmade : rule ∈ made
          · rw [fresh_cons_of_mem hmade, fresh_cons_of_mem ((h rule).1 hmade), ih h]
          · rw [fresh_cons_of_notMem hmade, fresh_cons_of_notMem (mt (h rule).2 hmade)]
            refine congrArg (instantiating rule :: ·) (ih fun kind => ?_)
            rw [List.mem_append, List.mem_append, h]
      | validating | absent | failed | valid => exact congrArg (_ :: ·) (ih h)

@[simp] theorem filterMap_announced?_map_instantiating (uses : List Builtin) :
    (uses.map instantiating).filterMap announced? = uses := by
  rw [List.filterMap_map]
  exact List.filterMap_some

theorem fresh_map_instantiating (made uses : List Builtin) :
    fresh made (uses.map instantiating) = (newUses made uses).map instantiating := by
  induction uses generalizing made with
  | nil => rfl
  | cons rule uses ih =>
      rw [List.map_cons]
      by_cases h : rule ∈ made
      · rw [fresh_cons_of_mem h, newUses_cons_of_mem h, ih]
      · rw [fresh_cons_of_notMem h, newUses_cons_of_notMem h, ih, List.map_cons]

end Event

end

/-! ### Quiet runs -/

namespace Run

variable {α β : Type}

/-- Whatever the session, the run reports the rules that it makes and nothing else. -/
def Quiet (x : Run α) : Prop :=
  ∀ s : Session, ∃ made, (x s).session.registry.kinds = s.registry.kinds ++ made ∧
    (x s).events = made.map .instantiating

theorem quiet_of_unchanged {x : Run α}
    (h : ∀ s, (x s).session.registry.kinds = s.registry.kinds ∧ (x s).events = []) : x.Quiet :=
  fun s => ⟨[], by rw [(h s).1, List.append_nil], (h s).2⟩

theorem quiet_pure (a : α) : (pure a : Run α).Quiet :=
  quiet_of_unchanged fun _ => ⟨rfl, rfl⟩

theorem quiet_fail (fault : Fault) : (fail fault : Run α).Quiet :=
  quiet_of_unchanged fun _ => ⟨rfl, rfl⟩

theorem quiet_failWith? (fault? : Option Fault) : (failWith? fault?).Quiet := by
  cases fault? with
  | some fault => exact quiet_fail fault
  | none => exact quiet_pure ()

theorem Quiet.bind {x : Run α} {f : α → Run β} (hx : x.Quiet) (hf : ∀ a, (f a).Quiet) :
    (x >>= f).Quiet := by
  intro s
  obtain ⟨made, hkinds, hevents⟩ := hx s
  cases hresult : (x s).result with
  | error fault =>
      rw [bind_of_error hresult]
      exact ⟨made, hkinds, hevents⟩
  | ok a =>
      obtain ⟨more, hmore, hreported⟩ := hf a (x s).session
      rw [bind_of_ok hresult]
      refine ⟨made ++ more, ?_, ?_⟩
      · rw [hmore, hkinds, List.append_assoc]
      · rw [hevents, hreported, List.map_append]

theorem quiet_predicates : predicates.Quiet := by
  refine quiet_of_unchanged fun s => ?_
  rw [predicates_eq, Registry.kinds, s.withPredicates_rules]
  exact ⟨rfl, rfl⟩

theorem quiet_rule? (name : String) : (rule? name).Quiet := by
  cases hlookup : Builtin.lookup? name with
  | none =>
      refine quiet_of_unchanged fun s => ?_
      rw [rule?_of_lookup?_eq_none hlookup]
      exact ⟨rfl, rfl⟩
  | some kind =>
      -- that a rule which is found is of this kind does not matter here, so any session will do
      intro s
      rw [rule?_of_lookup?_eq_some hlookup]
      cases hfound : Keyed.find? (Text.lowerCase name) s.registry.rules with
      | some rule => exact ⟨[], (List.append_nil _).symm, rfl⟩
      | none => exact ⟨[kind], Session.withRule_kinds (Keyed.find?_eq_none_iff.1 hfound), rfl⟩

/-- A quiet run reports the new rules among those that it uses. -/
theorem Quiet.events_eq {x : Run α} {s : Session} {result : Except Fault α} {uses : List Builtin}
    (hx : x.Quiet) (hmeets : x.Meets s result uses) :
    (x s).events = Event.fresh s.registry.kinds (uses.map .instantiating) := by
  obtain ⟨made, hkinds, hevents⟩ := hx s
  -- the registry has grown by what was announced and by what was used, so these are the same
  have hmade : s.registry.kinds ++ made = s.registry.kinds ++ newUses s.registry.kinds uses := by
    rw [← hkinds, hmeets.kinds_eq, addUses_eq_append]
  rw [hevents, List.append_cancel_left hmade, Event.fresh_map_instantiating]

/-- A run announces what it makes. -/
def Announces (x : Run α) (s : Session) : Prop :=
  (x s).session.registry.kinds =
    s.registry.kinds ++ (x s).events.filterMap Event.announced?

theorem Quiet.announces {x : Run α} (hx : x.Quiet) (s : Session) : x.Announces s := by
  obtain ⟨made, hkinds, hevents⟩ := hx s
  rw [Announces, hkinds, hevents, Event.filterMap_announced?_map_instantiating]

theorem Announces.bind {x : Run α} {f : α → Run β} {s : Session} (hx : x.Announces s)
    (hf : ∀ a, (f a).Quiet) : (x >>= f).Announces s := by
  rw [Announces] at hx ⊢
  cases hresult : (x s).result with
  | error fault =>
      rw [bind_of_error hresult]
      exact hx
  | ok a =>
      have hrest := (hf a).announces (x s).session
      rw [bind_of_ok hresult, List.filterMap_append, ← List.append_assoc, ← hx]
      exact hrest

end Run

end RecordRules
