import RecordRules.Config
import RecordRules.Proofs.Keyed

/-!
What documents of configurations say. A specification and its messages can be written as a document,
and the document is read as that specification, field by field and directive by directive, and as
those messages. A document that is read describes one specification and one list of messages; any
other document is faulty, and what is reported is the first thing that is wrong with it.
-/

namespace RecordRules

namespace Specs

variable {fields : List (String × List Entry)}

theorem fields_foldl_insert (specs : Specs) (h : (Keyed.keys (specs.fields ++ fields)).Nodup) :
    (fields.foldl (fun specs e => specs.insert e.1 e.2) specs).fields = specs.fields ++ fields := by
  induction fields generalizing specs with
  | nil => exact (List.append_nil _).symm
  | cons e fields ih =>
      have hnew : e.1 ∉ Keyed.keys specs.fields := by
        intro hmem
        rw [Keyed.keys, List.map_append, List.map_cons, List.nodup_append] at h
        exact h.2.2 e.1 hmem e.1 List.mem_cons_self rfl
      have hput : (specs.insert e.1 e.2).fields = specs.fields ++ [e] :=
        Keyed.put_of_notMem hnew e.2
      rw [List.foldl_cons, ih _ (by rwa [hput, List.append_assoc]), hput, List.append_assoc]
      rfl

/-- Fields of different names are declared in the order in which they are given. -/
theorem fields_ofList (h : (Keyed.keys fields).Nodup) : (ofList fields).fields = fields :=
  fields_foldl_insert empty h

end Specs

namespace Config

/-! ### Documents -/

/-- The rules of a field as a document gives them: a directive, or a list of directives. -/
inductive FieldRules where
  | single (raw : String)
  | list (raws : List String)

namespace FieldRules

def raws : FieldRules → List String
  | single raw => [raw]
  | list raws => raws

def value : FieldRules → Value
  | single raw => .string raw
  | list raws => .array (raws.map .string)

def entries (rules : FieldRules) : List Entry :=
  rules.raws.map .directive

end FieldRules

def written {α : Type} (write : α → Value) (contents : List (String × α)) :
    List (String × Value) :=
  contents.map fun e => (e.1, write e.2)

def document (rules : List (String × FieldRules)) (messages : List (String × String)) : Value :=
  .object [("rules", .object (written FieldRules.value rules)),
    ("messages", .object (written .string messages))]

def build (rules : List (String × FieldRules)) (messages : List (String × String)) : Config :=
  ⟨Specs.ofList (rules.map fun e => (e.1, e.2.entries)), CustomMessages.ofList messages⟩

/-- The member of that name is an object of these contents. Where it is missing there are none. -/
def Holds (key : String) (members contents : List (String × Value)) : Prop :=
  Keyed.find? key members = some (.object contents) ∨
    Keyed.find? key members = none ∧ contents = []

/-- All members are ones that a document may have. -/
def Known (members : List (String × Value)) : Prop :=
  ∀ key ∈ Keyed.keys members, key = "rules" ∨ key = "messages"

/-- The members describe rules and messages. -/
structure Describes (members : List (String × Value)) (rules : List (String × FieldRules))
    (messages : List (String × String)) : Prop where
  known : Known members
  rules : Holds "rules" members (written FieldRules.value rules)
  messages : Holds "messages" members (written .string messages)

/-- What is wrong with the member of a document under that key, in which all contents are to be
written in one way: it is no object, or it is one and the first member that is written otherwise
gives rise to a complaint. -/
inductive Wrong {α : Type} (key : String) (write : α → Value) (complaint : String → Fault)
    (members : List (String × Value)) : Fault → Prop
  | mapping {v : Value} (found : Keyed.find? key members = some v)
      (noObject : ∀ contents, v ≠ .object contents) :
      Wrong key write complaint members
        ⟨.configuration, none, "'" ++ key ++ "' must be a mapping"⟩
  | entry {before : List (String × α)} {name : String} {v : Value} {after : List (String × Value)}
      (found : Keyed.find? key members =
        some (.object (written write before ++ (name, v) :: after)))
      (misfit : ∀ a, v ≠ write a) :
      Wrong key write complaint members (complaint name)

def rulesComplaint (field : String) : Fault :=
  ⟨.configuration, some field,
    "rules for field '" ++ field ++ "' must be a string or a list of strings"⟩

def messageComplaint (key : String) : Fault :=
  ⟨.configuration, none, "message '" ++ key ++ "' must be a string"⟩

/-- What is wrong with a document, in the order in which it is reported: the document itself, its
first unknown key, its rules, and its messages. -/
inductive Faulty : Value → Fault → Prop
  | root {v : Value} (noObject : ∀ members, v ≠ .object members) :
      Faulty v ⟨.configuration, none, "configuration root must be a mapping"⟩
  | key {before after : List (String × Value)} {key : String} {v : Value} (known : Known before)
      (notRules : key ≠ "rules") (notMessages : key ≠ "messages") :
      Faulty (.object (before ++ (key, v) :: after))
        ⟨.configuration, none, "unknown configuration key: " ++ key⟩
  | rules {members : List (String × Value)} {fault : Fault} (known : Known members)
      (wrong : Wrong "rules" FieldRules.value rulesComplaint members fault) :
      Faulty (.object members) fault
  | messages {members : List (String × Value)} {rules : List (String × FieldRules)} {fault : Fault}
      (known : Known members) (rules : Holds "rules" members (written FieldRules.value rules))
      (wrong : Wrong "messages" .string messageComplaint members fault) :
      Faulty (.object members) fault

/-! ### Rules and messages -/

theorem directives?_eq_some_iff {items : List Value} {found : List Entry} :
    directives? items = some found ↔
      ∃ raws : List String, items = raws.map .string ∧ found = raws.map .directive := by
  induction items generalizing found with
  | nil =>
      constructor
      · intro h
        cases h
        exact ⟨[], rfl, rfl⟩
      · rintro ⟨raws, hitems, rfl⟩
        rw [List.map_eq_nil_iff.1 hitems.symm]
        rfl
  | cons item items ih =>
      constructor
      · intro h
        cases item with
        | string raw =>
            obtain ⟨rest, hrest, rfl⟩ := Option.map_eq_some_iff.1 h
            obtain ⟨raws, rfl, rfl⟩ := ih.1 hrest
            exact ⟨raw :: raws, rfl, rfl⟩
        | null | bool | integer | double | array | object => cases h
      · rintro ⟨raws, hitems, rfl⟩
        cases raws with
        | nil => cases hitems
        | cons raw raws =>
            obtain ⟨rfl, rfl⟩ := List.cons.inj hitems
            exact Option.map_eq_some_iff.2 ⟨_, ih.2 ⟨raws, rfl, rfl⟩, rfl⟩

theorem entries_value (field : String) (rules : FieldRules) :
    entries field rules.value = .ok rules.entries := by
  cases rules with
  | single raw => rfl
  | list raws =>
      have hfound := directives?_eq_some_iff.2 ⟨raws, rfl, rfl⟩
      rw [FieldRules.value, entries, hfound]
      rfl

theorem entries_of_misfit {v : Value} (h : ∀ rules : FieldRules, v ≠ rules.value)
    (field : String) : entries field v = .error (rulesComplaint field) := by
  cases v with
  | string raw => exact absurd rfl (h (.single raw))
  | array items =>
      cases hfound : directives? items with
      | none =>
          rw [entries, hfound]
          rfl
      | some found =>
          obtain ⟨raws, rfl, -⟩ := directives?_eq_some_iff.1 hfound
          exact absurd rfl (h (.list raws))
  | null | bool | integer | double | object => rfl

theorem readRules_written_append (specs : Specs) (rules : List (String × FieldRules))
    (rest : List (String × Value)) :
    readRules specs (written FieldRules.value rules ++ rest) =
      readRules ((rules.map fun e => (e.1, e.2.entries)).foldl
        (fun specs e => specs.insert e.1 e.2) specs) rest := by
  induction rules generalizing specs with
  | nil => rfl
  | cons e rules ih =>
      rw [written, List.map_cons, List.cons_append, readRules, entries_value]
      exact ih _

theorem readRules_written (rules : List (String × FieldRules)) :
    readRules .empty (written FieldRules.value rules) =
      .ok (Specs.ofList (rules.map fun e => (e.1, e.2.entries))) := by
  simpa [readRules, Specs.ofList] using readRules_written_append .empty rules []

theorem readRules_of_misfit {v : Value} (h : ∀ rules : FieldRules, v ≠ rules.value)
    (before : List (String × FieldRules)) (field : String) (after : List (String × Value)) :
    readRules .empty (written FieldRules.value before ++ (field, v) :: after) =
      .error (rulesComplaint field) := by
  rw [readRules_written_append, readRules, entries_of_misfit h]

theorem readMessages_written_append (store : CustomMessages) (messages : List (String × String))
    (rest : List (String × Value)) :
    readMessages store (written .string messages ++ rest) =
      readMessages (messages.foldl (fun store e => store.insert e.1 e.2) store) rest := by
  induction messages generalizing store with
  | nil => rfl
  | cons e messages ih => exact ih _

theorem readMessages_written (messages : List (String × String)) :
    readMessages .empty (written .string messages) = .ok (CustomMessages.ofList messages) := by
  simpa [readMessages, CustomMessages.ofList] using readMessages_written_append .empty messages []

theorem readMessages_of_misfit {v : Value} (h : ∀ text, v ≠ .string text)
    (before : List (String × String)) (key : String) (after : List (String × Value)) :
    readMessages .empty (written .string before ++ (key, v) :: after) =
      .error (messageComplaint key) := by
  rw [readMessages_written_append]
  cases v with
  | string text => exact absurd rfl (h text)
  | null | bool | integer | double | array | object => rfl

/-! ### Members -/

section Members

variable {α β : Type} {key : String} {write : α → Value} {complaint : String → Fault}
  {members : List (String × Value)} {fault : Fault}

theorem memberObject_of_holds {contents : List (String × Value)} (h : Holds key members contents) :
    memberObject key members = .ok contents := by
  rcases h with hfound | ⟨hnone, rfl⟩
  · rw [memberObject, hfound]
  · rw [memberObject, hnone]

/-- A member that is not as it should be ends the reading of the document. -/
theorem Wrong.bind_eq_error {read : List (String × Value) → Except Fault β}
    (h : Wrong key write complaint members fault)
    (hread : ∀ v, (∀ a, v ≠ write a) → ∀ before name after,
      read (written write before ++ (name, v) :: after) = .error (complaint name)) :
    (memberObject key members >>= read) = .error fault := by
  cases h with
  | @mapping v found noObject =>
      have hwrong : memberObject key members =
          .error (Fault.configuration ("'" ++ key ++ "' must be a mapping")) := by
        rw [memberObject, found]
        cases v with
        | object contents => exact absurd rfl (noObject contents)
        | null | bool | integer | double | string | array => rfl
      rw [hwrong]
      rfl
  | entry found misfit =>
      rw [memberObject_of_holds (.inl found)]
      exact hread _ misfit _ _ _

/-- A list of members is written throughout, or it has a first one that is not. -/
theorem written_or_misfit (write : α → Value) (contents : List (String × Value)) :
    (∃ rest, contents = written write rest) ∨
      ∃ before name v after, contents = written write before ++ (name, v) :: after ∧
        ∀ a, v ≠ write a := by
  induction contents with
  | nil => exact .inl ⟨[], rfl⟩
  | cons e contents ih =>
      by_cases hfit : ∃ a, e.2 = write a
      · obtain ⟨a, ha⟩ := hfit
        have he : e = (e.1, write a) := by rw [← ha]
        rcases ih with ⟨rest, rfl⟩ | ⟨before, name, v, after, rfl, misfit⟩
        · exact .inl ⟨(e.1, a) :: rest, congrArg (· :: _) he⟩
        · exact .inr ⟨(e.1, a) :: before, name, v, after, congrArg (· :: _) he, misfit⟩
      · exact .inr ⟨[], e.1, e.2, contents, rfl, not_exists.1 hfit⟩

theorem holds_or_wrong (key : String) (write : α → Value) (complaint : String → Fault)
    (members : List (String × Value)) :
    (∃ contents, Holds key members (written write contents)) ∨
      ∃ fault, Wrong key write complaint members fault := by
  cases hfound : Keyed.find? key members with
  | none => exact .inl ⟨[], .inr ⟨hfound, rfl⟩⟩
  | some v =>
      by_cases hobject : ∃ contents, v = .object contents
      · obtain ⟨contents, rfl⟩ := hobject
        rcases written_or_misfit write contents with ⟨rest, rfl⟩ | ⟨_, _, _, _, rfl, misfit⟩
        · exact .inl ⟨rest, .inl hfound⟩
        · exact .inr ⟨_, .entry hfound misfit⟩
      · exact .inr ⟨_, .mapping hfound (not_exists.1 hobject)⟩

end Members

/-! ### Reading a document -/

section Reading

variable {members : List (String × Value)} {rules : List (String × FieldRules)}
  {messages : List (String × String)} {v : Value} {fault : Fault}

theorem isKey_iff {key : String} : isKey key = true ↔ key = "rules" ∨ key = "messages" := by
  simp [isKey]

theorem find?_not_isKey_of_known (known : Known members) :
    (Keyed.keys members).find? (fun key => !isKey key) = none := by
  rw [List.find?_eq_none]
  intro key hkey
  simp [isKey_iff.2 (known key hkey)]

theorem known_or_unknown (members : List (String × Value)) :
    Known members ∨ ∃ before key v after, members = before ++ (key, v) :: after ∧ Known before ∧
      key ≠ "rules" ∧ key ≠ "messages" := by
  induction members with
  | nil => exact .inl fun key hkey => absurd hkey List.not_mem_nil
  | cons e members ih =>
      by_cases he : e.1 = "rules" ∨ e.1 = "messages"
      · have hcons {others : List (String × Value)} (h : Known others) : Known (e :: others) := by
          intro key hkey
          rcases List.mem_cons.1 hkey with rfl | hkey
          · exact he
          · exact h key hkey
        rcases ih with known | ⟨before, key, v, after, rfl, known, hkey⟩
        · exact .inl (hcons known)
        · exact .inr ⟨e :: before, key, v, after, rfl, hcons known, hkey⟩
      · exact .inr ⟨[], e.1, e.2, members, rfl, fun key hkey => absurd hkey List.not_mem_nil,
          not_or.1 he⟩

/-- Without unknown keys a document is read part by part, the rules first. -/
theorem ofValue_object (known : Known members) :
    ofValue (.object members) =
      ((memberObject "rules" members >>= readRules .empty) >>= fun specs =>
        (memberObject "messages" members >>= readMessages .empty) >>= fun messages =>
          .ok ⟨specs, messages⟩) := by
  simp only [ofValue, find?_not_isKey_of_known known, bind_assoc]
  rfl

theorem Describes.ofValue_eq (h : Describes members rules messages) :
    ofValue (.object members) = .ok (build rules messages) := by
  rw [ofValue_object h.known, memberObject_of_holds h.rules, memberObject_of_holds h.messages]
  change (readRules .empty _ >>= fun specs => readMessages .empty _ >>= fun messages => _) = _
  rw [readRules_written, readMessages_written]
  rfl

theorem Faulty.ofValue_eq (h : Faulty v fault) : ofValue v = .error fault := by
  cases h with
  | root noObject =>
      cases v with
      | object members => exact absurd rfl (noObject members)
      | null | bool | integer | double | string | array => rfl
  | @key before after key v known notRules notMessages =>
      have hfirst : (Keyed.keys (before ++ (key, v) :: after)).find? (fun key => !isKey key) =
          some key := by
        have hunknown : isKey key = false := by simp [isKey, notRules, notMessages]
        rw [Keyed.keys, List.map_append, List.find?_append, ← Keyed.keys,
          find?_not_isKey_of_known known]
        simp [hunknown]
      simp only [ofValue, hfirst]
      rfl
  | rules known wrong =>
      rw [ofValue_object known, wrong.bind_eq_error fun v misfit => readRules_of_misfit misfit]
      rfl
  | messages known rules wrong =>
      -- the rules can be read, so it is the messages that end the reading
      rw [ofValue_object known, memberObject_of_holds rules,
        wrong.bind_eq_error fun v misfit => readMessages_of_misfit misfit]
      change (readRules .empty _ >>= fun specs => Except.error fault) = _
      rw [readRules_written]
      rfl

theorem describes_or_faulty (v : Value) :
    (∃ members rules messages, v = .object members ∧ Describes members rules messages) ∨
      ∃ fault, Faulty v fault := by
  -- the cases are split in the order in which faults are reported
  by_cases hobject : ∃ members, v = .object members
  · obtain ⟨members, rfl⟩ := hobject
    rcases known_or_unknown members with known | ⟨_, _, _, _, rfl, known, hrules, hmessages⟩
    · rcases holds_or_wrong "rules" FieldRules.value rulesComplaint members with
        ⟨rules, hrules⟩ | ⟨fault, wrong⟩
      · rcases holds_or_wrong "messages" Value.string messageComplaint members with
          ⟨messages, hmessages⟩ | ⟨fault, wrong⟩
        · exact .inl ⟨members, rules, messages, rfl, known, hrules, hmessages⟩
        · exact .inr ⟨fault, .messages known hrules wrong⟩
      · exact .inr ⟨fault, .rules known wrong⟩
    · exact .inr ⟨_, .key known hrules hmessages⟩
  · exact .inr ⟨_, .root (not_exists.1 hobject)⟩

theorem ofValue_eq_ok_iff {config : Config} :
    ofValue v = .ok config ↔ ∃ members rules messages, v = .object members ∧
      Describes members rules messages ∧ config = build rules messages := by
  constructor
  · intro h
    rcases describes_or_faulty v with ⟨members, rules, messages, rfl, described⟩ | ⟨fault, faulty⟩
    · rw [described.ofValue_eq] at h
      exact ⟨members, rules, messages, rfl, described, (Except.ok.inj h).symm⟩
    · rw [faulty.ofValue_eq] at h
      cases h
  · rintro ⟨members, rules, messages, rfl, described, rfl⟩
    exact described.ofValue_eq

theorem ofValue_eq_error_iff : ofValue v = .error fault ↔ Faulty v fault := by
  constructor
  · intro h
    rcases describes_or_faulty v with ⟨members, rules, messages, rfl, described⟩ | ⟨other, faulty⟩
    · rw [described.ofValue_eq] at h
      cases h
    · rw [faulty.ofValue_eq] at h
      exact Except.error.inj h ▸ faulty
  · exact Faulty.ofValue_eq

theorem describes_document (rules : List (String × FieldRules))
    (messages : List (String × String)) :
    Describes [("rules", .object (written FieldRules.value rules)),
      ("messages", .object (written .string messages))] rules messages := by
  refine ⟨?_, .inl rfl, .inl rfl⟩
  intro key hkey
  simpa [Keyed.keys] using hkey

/-- Documents and configurations correspond. What is written as a document is read again as it was,
the fields and the directives of each in their order; a document is read if it describes a
configuration, and as the one it describes; and the fault of any other is the first thing wrong with
it. -/
theorem ofValue_corresponds :
    (∀ (rules : List (String × FieldRules)) (messages : List (String × String)),
      (Keyed.keys rules).Nodup →
        ∃ config, ofValue (document rules messages) = .ok config ∧
          config.specs.fields = rules.map (fun e => (e.1, e.2.raws.map .directive)) ∧
          config.messages = CustomMessages.ofList messages) ∧
      (∀ v config, ofValue v = .ok config ↔ ∃ members rules messages, v = .object members ∧
        Describes members rules messages ∧ config = build rules messages) ∧
      ∀ v fault, ofValue v = .error fault ↔ Faulty v fault := by
  refine ⟨?_, fun v config => ofValue_eq_ok_iff, fun v fault => ofValue_eq_error_iff⟩
  intro rules messages hnodup
  refine ⟨build rules messages, (describes_document rules messages).ofValue_eq, ?_, rfl⟩
  refine Specs.fields_ofList ?_
  rwa [Keyed.keys, List.map_map]

/-- A directive that stands alone, and a list of two. -/
theorem ofValue_corresponds_mail_and_age :
    let rules : List (String × FieldRules) :=
      [("mail", .single "email"), ("age", .list ["integer", "min:18"])]
    (Keyed.keys rules).Nodup ∧
      ∃ config, ofValue (document rules [("age.MIN", "Adults only.")]) = .ok config ∧
        config.specs.fields =
          [("mail", [.directive "email"]),
            ("age", [.directive "integer", .directive "min:18"])] ∧
        config.messages = CustomMessages.ofList [("age.min", "Adults only.")] := by
  intro rules
  have hnodup : (Keyed.keys rules).Nodup := by decide
  obtain ⟨config, hread, hfields, hmessages⟩ :=
    ofValue_corresponds.1 rules [("age.MIN", "Adults only.")] hnodup
  exact ⟨hnodup, config, hread, hfields, hmessages.trans (by decide)⟩

end Reading

end Config

end RecordRules
