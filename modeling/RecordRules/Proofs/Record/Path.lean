import RecordRules.Proofs.Keyed
import RecordRules.Proofs.Text.Digits
import RecordRules.Record.Path
import Mathlib.Data.List.Forall2

/-!
Paths and what they lead to. From a value one step leads to what is directly inside it, to the
member of a name in an object or to the item at a position in a list, and several steps lead to what
is further inside. The pieces of a path between its dots write such steps: any piece is the name of
a member, and a piece of ASCII digits is also a position, however many zeros it starts with.

A path resolves to exactly the values to which the steps lead that it writes. So every value inside
a record has a path, provided that no name on the way has a dot in it.

Paths compose: what stands behind a dot starts from the value to which the part before it leads.
-/

namespace RecordRules

/-- One step down a record: to the member of that name, or to the item at that position. -/
inductive PathStep where
  | member (name : String)
  | item (position : Nat)
  deriving DecidableEq

namespace PathStep

def text : PathStep → String
  | member name => name
  | item position => toString position

/-- Whether a piece of a path writes the step. -/
def WrittenAs : PathStep → List Char → Prop
  | member name, piece => String.ofList piece = name
  | item position, piece =>
    piece ≠ [] ∧ (∀ c ∈ piece, c.isDigit = true) ∧ Nat.ofDigitChars 10 piece 0 = position

theorem writtenAs_text (step : PathStep) : step.WrittenAs step.text.toList := by
  cases step with
  | member name => exact String.ofList_toList
  | item position =>
      have hdigits : (text (item position)).toList = Nat.toDigits 10 position := by simp [text]
      rw [hdigits]
      refine ⟨Nat.toDigits_ne_nil, fun c hc => ?_, Nat.ofDigitChars_ten_toDigits⟩
      exact Nat.isDigit_of_mem_toDigits (by decide) (by decide) hc

theorem dot_notMem_text_item (position : Nat) : '.' ∉ (text (item position)).toList := by
  intro hdot
  have hdigit := (writtenAs_text (item position)).2.1 '.' hdot
  revert hdigit
  decide

end PathStep

namespace Value

/-- The step leads from the first value to the second, which is directly inside it. Of several
members of one name the first counts. -/
inductive Child : Value → PathStep → Value → Prop
  | member {before after : List (String × Value)} {name : String} {v : Value}
      (first : name ∉ Keyed.keys before) :
      Child (object (before ++ (name, v) :: after)) (.member name) v
  | item {before after : List Value} {v : Value} :
      Child (array (before ++ v :: after)) (.item before.length) v

/-- The steps lead from the first value to the second. -/
inductive Leads : Value → List PathStep → Value → Prop
  | here (v : Value) : Leads v [] v
  | down {u v w : Value} {step : PathStep} {steps : List PathStep} (child : u.Child step v)
      (rest : Leads v steps w) : Leads u (step :: steps) w

/-- The path writes steps that lead from the record to the value. -/
def Addresses (record : Value) (path : String) (v : Value) : Prop :=
  ∃ steps, List.Forall₂ PathStep.WrittenAs steps (path.toList.splitOn '.') ∧ record.Leads steps v

end Value

/-! ### Pieces and positions -/

theorem Text.splitAll_eq_splitOn (sep : Char) (cs : List Char) :
    splitAll sep cs = cs.splitOn sep := by
  induction cs with
  | nil => rfl
  | cons c cs ih =>
      rw [splitAll, List.splitOn_cons_eq_if_modifyHead, ih]
      by_cases hc : c = sep
      · simp [hc]
      · cases hpieces : cs.splitOn sep with
        | nil => exact absurd hpieces (List.splitOn_ne_nil sep cs)
        | cons piece pieces => simp [hc]

theorem position?_eq_some_iff {piece : List Char} {i : Nat} :
    position? piece = some i ↔ (PathStep.item i).WrittenAs piece := by
  rw [position?, Text.natOfDigits_eq_ofDigitChars]
  simp [PathStep.WrittenAs, and_assoc]

/-! ### Steps -/

namespace Value

variable {record u v : Value} {path : String}

theorem child_member_iff {members : List (String × Value)} {name : String} :
    (object members).Child (.member name) v ↔ Keyed.find? name members = some v := by
  rw [Keyed.find?_eq_some_iff_append]
  constructor
  · rintro ⟨hfirst⟩
    exact ⟨_, _, rfl, hfirst⟩
  · rintro ⟨before, after, rfl, hfirst⟩
    exact .member hfirst

theorem child_item_iff {items : List Value} {i : Nat} :
    (array items).Child (.item i) v ↔ items[i]? = some v := by
  constructor
  · rintro ⟨⟩
    simp
  · intro h
    obtain ⟨hlt, rfl⟩ := List.getElem?_eq_some_iff.1 h
    have hcut : items.take i ++ items[i] :: items.drop (i + 1) = items := by
      rw [← List.drop_eq_getElem_cons hlt, List.take_append_drop]
    have hchild : (array (items.take i ++ items[i] :: items.drop (i + 1))).Child
        (.item (items.take i).length) items[i] := .item
    rwa [hcut, List.length_take, Nat.min_eq_left (Nat.le_of_lt hlt)] at hchild

theorem step?_eq_some_iff {piece : List Char} :
    u.step? piece = some v ↔ ∃ step : PathStep, step.WrittenAs piece ∧ u.Child step v := by
  constructor
  · intro h
    cases u with
    | object members => exact ⟨.member (String.ofList piece), rfl, child_member_iff.2 h⟩
    | array items =>
        obtain ⟨i, hi, hv⟩ := Option.bind_eq_some_iff.1 h
        exact ⟨.item i, position?_eq_some_iff.1 hi, child_item_iff.2 hv⟩
    | null | bool | integer | double | string => cases h
  · rintro ⟨step, hwritten, hchild⟩
    cases u with
    | object members =>
        cases step with
        | member name => rw [step?, hwritten, child_member_iff.1 hchild]
        | item i => cases hchild
    | array items =>
        cases step with
        | member name => cases hchild
        | item i =>
            exact Option.bind_eq_some_iff.2
              ⟨i, position?_eq_some_iff.2 hwritten, child_item_iff.1 hchild⟩
    | null | bool | integer | double | string => cases hchild

theorem walk?_eq_some_iff {u v : Value} {pieces : List (List Char)} :
    walk? pieces u = some v ↔
      ∃ steps, List.Forall₂ PathStep.WrittenAs steps pieces ∧ u.Leads steps v := by
  induction pieces generalizing u with
  | nil =>
      constructor
      · intro h
        cases h
        exact ⟨[], .nil, .here _⟩
      · rintro ⟨steps, hwritten, hleads⟩
        cases hwritten
        cases hleads
        rfl
  | cons piece pieces ih =>
      constructor
      · intro h
        obtain ⟨w, hstep, hwalk⟩ := Option.bind_eq_some_iff.1 h
        obtain ⟨step, hwritten, hchild⟩ := step?_eq_some_iff.1 hstep
        obtain ⟨steps, hrest, hleads⟩ := ih.1 hwalk
        exact ⟨step :: steps, .cons hwritten hrest, .down hchild hleads⟩
      · rintro ⟨steps, hwritten, hleads⟩
        cases hwritten with
        | cons hpiece hrest =>
            cases hleads with
            | down hchild hleads =>
                refine Option.bind_eq_some_iff.2 ⟨_, step?_eq_some_iff.2 ⟨_, hpiece, hchild⟩, ?_⟩
                exact ih.2 ⟨_, hrest, hleads⟩

theorem resolve?_eq_some_iff : record.resolve? path = some v ↔ record.Addresses path v := by
  rw [resolve?, pathSteps, Text.splitAll_eq_splitOn, walk?_eq_some_iff, Addresses]

/-! ### Paths of steps -/

/-- Steps that are joined by dots can be told apart again. -/
theorem splitOn_join_text {steps : List PathStep} (hne : steps ≠ [])
    (hnames : ∀ name, .member name ∈ steps → '.' ∉ name.toList) :
    (String.intercalate "." (steps.map PathStep.text)).toList.splitOn '.' =
      steps.map fun step => step.text.toList := by
  have hpieces : ∀ piece ∈ steps.map fun step => step.text.toList, '.' ∉ piece := by
    intro piece hpiece
    obtain ⟨step, hstep, rfl⟩ := List.mem_map.1 hpiece
    cases step with
    | member name => exact hnames name hstep
    | item position => exact PathStep.dot_notMem_text_item position
  have hjoin : (String.intercalate "." (steps.map PathStep.text)).toList =
      ['.'].intercalate (steps.map fun step => step.text.toList) := by
    rw [String.toList_intercalate, List.map_map]
    rfl
  rw [hjoin, List.splitOn_intercalate '.' hpieces (by simpa using hne)]

theorem Leads.addresses {steps : List PathStep} (h : record.Leads steps v) (hne : steps ≠ [])
    (hnames : ∀ name, .member name ∈ steps → '.' ∉ name.toList) :
    record.Addresses (String.intercalate "." (steps.map PathStep.text)) v := by
  refine ⟨steps, ?_, h⟩
  rw [splitOn_join_text hne hnames, List.forall₂_map_right_iff, List.forall₂_same]
  exact fun step _ => step.writtenAs_text

/-- Paths lead to what is inside a record and to nothing else: joined by dots, the steps to a value
are a path of it, and a path that resolves writes steps to the value that it resolves to. -/
theorem resolve?_addresses (record : Value) :
    (∀ (steps : List PathStep) (v : Value), steps ≠ [] →
      (∀ name, .member name ∈ steps → '.' ∉ name.toList) → record.Leads steps v →
        record.resolve? (String.intercalate "." (steps.map PathStep.text)) = some v) ∧
      (∀ path v, record.resolve? path = some v ↔ record.Addresses path v) ∧
      ∀ path, record.resolve? path = none ↔ ∀ v, ¬ record.Addresses path v := by
  refine ⟨?_, fun path v => resolve?_eq_some_iff, fun path => ?_⟩
  · intro steps v hne hnames hleads
    exact resolve?_eq_some_iff.2 (hleads.addresses hne hnames)
  · simp only [Option.eq_none_iff_forall_ne_some, ne_eq, resolve?_eq_some_iff]

/-- Past an item, a name that is a number and an empty name, with the position written plainly and
with zeros in front. -/
theorem resolve?_addresses_second_user :
    let record := object [("users", array [null, object [("7", object [("", string "a")])]])]
    let steps : List PathStep := [.member "users", .item 1, .member "7", .member ""]
    steps ≠ [] ∧ (∀ name, .member name ∈ steps → '.' ∉ name.toList) ∧
      record.Leads steps (string "a") ∧
      record.resolve? (String.intercalate "." (steps.map PathStep.text)) = some (string "a") ∧
      record.resolve? "users.001.7." = some (string "a") := by
  intro record steps
  have hne : steps ≠ [] := List.cons_ne_nil _ _
  have hnames : ∀ name, .member name ∈ steps → '.' ∉ name.toList := by
    intro name hname
    simp only [steps, List.mem_cons, PathStep.member.injEq, reduceCtorEq, List.not_mem_nil,
      or_false, false_or] at hname
    rcases hname with rfl | rfl | rfl <;> decide
  have hleads : record.Leads steps (string "a") :=
    .down (child_member_iff.2 rfl) (.down (child_item_iff.2 rfl)
      (.down (child_member_iff.2 rfl) (.down (child_member_iff.2 rfl) (.here _))))
  obtain ⟨hplain, haddresses, -⟩ := resolve?_addresses record
  refine ⟨hne, hnames, hleads, hplain steps _ hne hnames hleads, ?_⟩
  refine (haddresses _ _).2 ⟨steps, ?_, hleads⟩
  have hpieces : "users.001.7.".toList.splitOn '.' =
      ["users".toList, "001".toList, "7".toList, "".toList] := by decide
  have hposition : (PathStep.item 1).WrittenAs "001".toList :=
    ⟨by decide, List.all_eq_true.1 (by decide), by decide⟩
  rw [hpieces]
  exact .cons (PathStep.writtenAs_text _) (.cons hposition
    (.cons (PathStep.writtenAs_text _) (.cons (PathStep.writtenAs_text _) .nil)))

/-! ### Paths behind one another -/

theorem walk?_append (steps more : List (List Char)) (v : Value) :
    walk? (steps ++ more) v = (walk? steps v).bind (walk? more) := by
  induction steps generalizing v with
  | nil => rfl
  | cons step steps ih =>
      rw [List.cons_append, walk?, walk?]
      cases v.step? step with
      | none => rfl
      | some w => exact ih w

theorem pathSteps_append_dot (path rest : String) :
    pathSteps (path ++ "." ++ rest) = pathSteps path ++ pathSteps rest := by
  simp [pathSteps, Text.splitAll_append_sep]

theorem pathSteps_of_dot_notMem {name : String} (h : '.' ∉ name.toList) :
    pathSteps name = [name.toList] := by
  rw [pathSteps, Text.splitAll_eq_splitOn, List.splitOn_eq_singleton h]

theorem resolve?_append_dot (record : Value) (path rest : String) :
    record.resolve? (path ++ "." ++ rest) = (record.resolve? path).bind (resolve? rest) := by
  rw [resolve?, pathSteps_append_dot, walk?_append]
  rfl

theorem resolve?_of_dot_notMem {name : String} (h : '.' ∉ name.toList) (record : Value) :
    record.resolve? name = record.step? name.toList := by
  rw [resolve?, pathSteps_of_dot_notMem h, walk?]
  exact Option.bind_fun_some (record.step? name.toList)

theorem has_of_has_append_dot {front rest : String}
    (h : record.has (front ++ "." ++ rest) = true) : record.has front = true := by
  rw [has, resolve?_append_dot] at h
  exact Option.isSome_of_isSome_bind h

/-- A path goes on behind each of its dots from the value to which the part before that dot leads,
and it leads nowhere if that part does. A part without dots is one step, the empty part too. So with
a path all parts of it lead somewhere that end before a dot. -/
theorem resolve?_composes (record : Value) :
    (∀ path rest : String,
      record.resolve? (path ++ "." ++ rest) = (record.resolve? path).bind (resolve? rest)) ∧
    (∀ name : String, '.' ∉ name.toList → record.resolve? name = record.step? name.toList) ∧
    ∀ path front : String, front.toList ++ ['.'] <+: path.toList →
      record.has path = true → record.has front = true := by
  refine ⟨resolve?_append_dot record, fun name h => resolve?_of_dot_notMem h record, ?_⟩
  rintro path front ⟨rest, hpath⟩ h
  have hcut : path = front ++ "." ++ String.ofList rest := by
    rw [← String.toList_inj, ← hpath]
    simp
  rw [hcut] at h
  exact has_of_has_append_dot h

/-- Empty names at both ends of a path and between two dots are looked up like all others. -/
theorem resolve?_composes_of_empty_names :
    let record := object [("", object [("", array [object [("", null)]])])]
    '.' ∉ "".toList ∧ "..0".toList ++ ['.'] <+: "..0.".toList ∧
      record.resolve? "..0." = (record.resolve? ".").bind (resolve? "0.") ∧
      record.resolve? "" = record.step? [] ∧
      record.has "..0." = true ∧ record.has "..0" = true := by
  intro record
  obtain ⟨hcompose, hstep, hfront⟩ := resolve?_composes record
  have hdot : '.' ∉ "".toList := by decide
  have hprefix : "..0".toList ++ ['.'] <+: "..0.".toList := ⟨[], rfl⟩
  have hhas : record.has "..0." = true := by decide
  exact ⟨hdot, hprefix, hcompose "." "0.", hstep "" hdot, hhas, hfront "..0." "..0" hprefix hhas⟩

end Value

end RecordRules
