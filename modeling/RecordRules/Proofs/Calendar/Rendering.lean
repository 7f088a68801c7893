import RecordRules.Proofs.Calendar.Agreement
import RecordRules.Proofs.Calendar.Date
import RecordRules.Proofs.Calendar.Fields
import RecordRules.Proofs.Calendar.Format
import RecordRules.Proofs.Text.Digits
import RecordRules.Proofs.Text.Letters
import Mathlib.Tactic.Tauto

/-!
Dates and times that are written as a format asks. A format of the plain numeric tokens and of
characters that stand for themselves is filled in with numbers, each in all the digits of its token.
Read with the same format the text gives back these numbers and nothing else, so it matches exactly
if they are the numbers of a date and a time that can be.
-/

namespace RecordRules.Calendar

/-- The parts of a date and a time of day that tokens write in a fixed count of digits. -/
inductive Component where
  | year
  | month
  | day
  | hour
  | minute
  | second
  deriving DecidableEq

namespace Component

def token : Component → Char
  | year => 'Y'
  | month => 'm'
  | day => 'd'
  | hour => 'H'
  | minute => 'i'
  | second => 's'

def width : Component → Nat
  | year => 4
  | _ => 2

/-- The numbers that occur in dates and times; the sixtieth second is a leap second. -/
def Occurs (n : Nat) : Component → Prop
  | year => True
  | month => 1 ≤ n ∧ n ≤ 12
  | day => 1 ≤ n ∧ n ≤ 31
  | hour => n ≤ 23
  | minute => n ≤ 59
  | second => n ≤ 60

end Component

/-- A number for every component, small enough to be written. -/
structure Stamp where
  number : Component → Nat
  number_lt : ∀ c, number c < 10 ^ c.width

/-- The letters that are tokens of some kind, the backslash and the percent sign. -/
def reservedChars : List Char :=
  "dDjlNwWFMmnYoyaAghGHisuveTOPpUcrzStLBI\\%".toList

/-- A part of a format: a token, or a character that stands for itself. -/
inductive FormatPart where
  | component (c : Component)
  | plain (c : Char) (free : c ∉ reservedChars)
  | escaped (c : Char) (noPercent : c ≠ '%')

namespace FormatPart

def format : FormatPart → List Char
  | component c => [c.token]
  | plain c _ => [c]
  | escaped c _ => ['\\', c]

def text (stamp : Stamp) : FormatPart → List Char
  | component c => Text.lastDigits c.width (stamp.number c)
  | plain c _ => [c]
  | escaped c _ => [c]

def component? : FormatPart → Option Component
  | component c => some c
  | _ => none

def formatOf (parts : List FormatPart) : String :=
  String.ofList (parts.flatMap format)

/-- The text that is the format filled in. -/
def textOf (stamp : Stamp) (parts : List FormatPart) : String :=
  String.ofList (parts.flatMap (text stamp))

end FormatPart

namespace Stamp

/-- The components that are written belong to a point in time that can be. A day that is written
with its month exists in that month, of the year that is written or of leap years. -/
structure Possible (stamp : Stamp) (written : List Component) : Prop where
  occurs : ∀ c ∈ written, c.Occurs (stamp.number c)
  day_exists : .month ∈ written → .day ∈ written → ∀ year : Int,
    (if .year ∈ written then year = stamp.number .year else IsLeap year) →
      stamp.number .day ≤ lastDay year (stamp.number .month)

end Stamp

/-! ### The items of a format -/

namespace Component

def quantity : Component → Quantity
  | year => .plain .year
  | month => .plain .month
  | day => .plain .day
  | hour => .hour
  | minute => .plain .minute
  | second => .plain .second

end Component

namespace FormatPart

variable {parts : List FormatPart}

def item : FormatPart → Item
  | component c => .number c.quantity
  | plain c _ => plainItem c
  | escaped c _ => plainItem c

theorem tokenSpecifiers?_of_free {c : Char} (h : c ∉ reservedChars) :
    tokenSpecifiers? c = some [c] := by
  simp only [tokenSpecifiers?]
  split
  all_goals first | exact absurd (by decide) h | rfl

theorem exists_specifiers? (part : FormatPart) (cs : List Char) :
    ∃ specifiers, items? specifiers = some [part.item] ∧
      specifiers? (part.format ++ cs) = Option.map₂ (· ++ ·) (some specifiers) (specifiers? cs) := by
  cases part with
  | component c =>
      cases c <;> exact ⟨_, rfl, specifiers?_cons (by decide)⟩
  | plain c hfree =>
      have hbackslash : c ≠ '\\' := by
        rintro rfl
        exact absurd (by decide) hfree
      have hpercent : c ≠ '%' := by
        rintro rfl
        exact absurd (by decide) hfree
      refine ⟨[c], items?_plain hpercent, ?_⟩
      rw [← tokenSpecifiers?_of_free hfree]
      exact specifiers?_cons hbackslash
  | escaped c hpercent =>
      refine ⟨[c], items?_plain hpercent, ?_⟩
      have hescaped : escapedSpecifiers c = [c] := if_neg hpercent
      rw [← hescaped]
      exact specifiers?_escape

/-- Every part is read by one item. -/
theorem bind_items?_format (parts : List FormatPart) :
    (specifiers? (parts.flatMap format)).bind items? = some (parts.map item) := by
  induction parts with
  | nil => rfl
  | cons part parts ih =>
      obtain ⟨rest, hrest, hitems⟩ := Option.bind_eq_some_iff.1 ih
      obtain ⟨specifiers, hfirst, hformat⟩ := part.exists_specifiers? (parts.flatMap format)
      rw [List.flatMap_cons, hformat, hrest]
      change items? (specifiers ++ rest) = _
      rw [items?_append hfirst, hitems]
      rfl

theorem percent_notMem_format (part : FormatPart) : '%' ∉ part.format := by
  cases part with
  | component c => cases c <;> decide
  | plain c hfree =>
      intro h
      rw [← List.mem_singleton.1 h] at hfree
      exact absurd (by decide) hfree
  | escaped c hpercent =>
      intro h
      simp only [format, List.mem_cons, List.not_mem_nil, or_false] at h
      rcases h with h | rfl
      · cases h
      · exact hpercent rfl

theorem formatItems?_formatOf (parts : List FormatPart) :
    formatItems? (formatOf parts).toList = some (parts.map item) := by
  have hpercent : (parts.flatMap format).contains '%' = false := by
    simp only [List.contains_eq_mem, List.mem_flatMap, decide_eq_false_iff_not, not_exists,
      not_and]
    exact fun part _ => part.percent_notMem_format
  rw [formatOf, String.toList_ofList, formatItems?, hpercent, if_neg Bool.false_ne_true,
    bind_items?_format]

end FormatPart

/-! ### Reading numbers -/

section Digits

variable {width n : Nat}

theorem takeDigits_lastDigits (width n : Nat) (rest : List Char) :
    takeDigits (some width) (Text.lastDigits width n ++ rest) =
      (Text.lastDigits width n, rest) := by
  have htake : (Text.lastDigits width n ++ rest).take width = Text.lastDigits width n :=
    List.take_left' (Text.length_lastDigits width n)
  have hall : (Text.lastDigits width n).takeWhile Char.isDigit = Text.lastDigits width n :=
    List.takeWhile_eq_self_iff.2 fun c hc => Text.isDigit_of_mem_lastDigits hc
  simp only [takeDigits, htake, hall, List.drop_left]

theorem readDigits?_lastDigits (hwidth : 0 < width) (h : n < 10 ^ width) (rest : List Char) :
    readDigits? (some width) (Text.lastDigits width n ++ rest) = some (n, rest) := by
  have hne : (Text.lastDigits width n).isEmpty = false := by
    rw [List.isEmpty_eq_false_iff, ← List.length_pos_iff, Text.length_lastDigits]
    exact hwidth
  simp only [readDigits?, takeDigits_lastDigits, hne, Text.natOfDigits_lastDigits h]
  rfl

theorem exists_lastDigits_eq_cons (hwidth : 0 < width) (n : Nat) :
    ∃ c cs, Text.lastDigits width n = c :: cs ∧ c.isDigit = true := by
  cases hdigits : Text.lastDigits width n with
  | nil =>
      have hlength := Text.length_lastDigits width n
      rw [hdigits] at hlength
      exact absurd hlength (Nat.ne_of_lt hwidth)
  | cons c cs =>
      exact ⟨c, cs, rfl, Text.isDigit_of_mem_lastDigits (hdigits ▸ List.mem_cons_self)⟩

/-- A number that begins with a digit has no sign. -/
theorem Quantity.read?_of_isDigit {c : Char} (h : c.isDigit = true) (q : Quantity)
    (cs : List Char) :
    q.read? (c :: cs) =
      (readDigits? q.width (c :: cs)).map fun (n, rest) => ((n : Int), rest) := by
  rw [Quantity.read?]
  · rintro rest - ⟨⟩
    cases h
  · rintro rest - ⟨⟩
    cases h

theorem Component.read?_text (c : Component) (stamp : Stamp) (rest : List Char) :
    c.quantity.read? ((Text.lastDigits c.width (stamp.number c) ++ rest).dropWhile Text.isBlank) =
      some ((stamp.number c : Int), rest) := by
  have hwidth : 0 < c.width := by cases c <;> decide
  have hlimit : c.quantity.width = some c.width := by cases c <;> rfl
  obtain ⟨d, ds, hdigits, hd⟩ := exists_lastDigits_eq_cons hwidth (stamp.number c)
  have hblank : Text.isBlank d = false := by
    apply Text.isBlank_eq_false_of_isAlphanum
    rw [Char.isAlphanum, hd, Bool.or_true]
  have hread := readDigits?_lastDigits hwidth (stamp.number_lt c) rest
  rw [hdigits] at hread ⊢
  rw [List.cons_append, List.dropWhile_cons, hblank, if_neg Bool.false_ne_true,
    Quantity.read?_of_isDigit hd, hlimit, ← List.cons_append, hread]
  rfl

end Digits

/-! ### Reading a text -/

namespace Stamp

variable {stamp : Stamp} {written : List Component} {fields : Fields}

/-- Learns the numbers of components, one after the other. -/
def record? (stamp : Stamp) (written : List Component) (fields : Fields) : Option Fields :=
  written.foldlM (fun fields c => c.quantity.record? (stamp.number c) fields) fields

/-- The item of a character reads it, and a blank also takes those that come next. -/
theorem exists_read?_plainItem (c : Char) (fields : Fields) {cs more : List Char}
    (hcs : cs = c :: more ∨ cs = (c :: more).dropWhile Text.isBlank) :
    ∃ rest, (plainItem c).read? fields cs = some (fields, rest) ∧
      (rest = more ∨ rest = more.dropWhile Text.isBlank) := by
  rw [plainItem]
  by_cases hblank : Text.isBlank c = true
  · have hdrop : cs.dropWhile Text.isBlank = more.dropWhile Text.isBlank := by
      rcases hcs with rfl | rfl
      · rw [List.dropWhile_cons, if_pos hblank]
      · rw [List.dropWhile_idempotent, List.dropWhile_cons, if_pos hblank]
    rw [if_pos hblank]
    exact ⟨_, congrArg (fun rest => some (fields, rest)) hdrop, .inr rfl⟩
  · have hsame : cs = c :: more := by
      rwa [List.dropWhile_cons, if_neg hblank, or_self] at hcs
    rw [if_neg hblank, hsame]
    exact ⟨more, if_pos rfl, .inl rfl⟩

/-- The item of a component reads its digits, and blanks in front of them make no difference. -/
theorem read?_component (c : Component) (fields : Fields) {cs more : List Char}
    (hcs : cs.dropWhile Text.isBlank =
      (Text.lastDigits c.width (stamp.number c) ++ more).dropWhile Text.isBlank) :
    (Item.number c.quantity).read? fields cs =
      (c.quantity.record? (stamp.number c) fields).map fun fields => (fields, more) := by
  simp only [Item.read?, hcs, c.read?_text, Option.bind_eq_bind, Option.bind_some]
  cases c.quantity.record? (stamp.number c) fields <;> rfl

/-- A text gives back what it was filled with. Where blanks were read that its format asks for, those
that come next are gone already. -/
theorem readAll?_text {parts : List FormatPart} {cs : List Char} (fields : Fields)
    (hcs : cs = parts.flatMap (FormatPart.text stamp) ∨
      cs = (parts.flatMap (FormatPart.text stamp)).dropWhile Text.isBlank) :
    Item.readAll? (parts.map FormatPart.item) fields cs =
      (stamp.record? (parts.filterMap FormatPart.component?) fields).map fun fields =>
        (fields, []) := by
  induction parts generalizing fields cs with
  | nil =>
      have hnil : cs = [] := by simpa using hcs
      rw [hnil]
      rfl
  | cons part parts ih =>
      rw [List.flatMap_cons] at hcs
      rw [List.map_cons, Item.readAll?]
      cases part with
      | component c =>
          have hread := read?_component c fields <| hcs.elim (congrArg _) fun h =>
            (congrArg _ h).trans (List.dropWhile_idempotent _ _)
          have hrecord : stamp.record? ((FormatPart.component c :: parts).filterMap
              FormatPart.component?) fields = (c.quantity.record? (stamp.number c) fields).bind
                (stamp.record? (parts.filterMap FormatPart.component?)) := rfl
          rw [FormatPart.item, hread, hrecord]
          cases c.quantity.record? (stamp.number c) fields with
          | none => rfl
          | some learned => exact ih learned (.inl rfl)
      | plain c _ | escaped c _ =>
          obtain ⟨rest, hread, hrest⟩ := exists_read?_plainItem c fields hcs
          rw [FormatPart.item, hread, List.filterMap_cons_none rfl]
          exact ih fields hrest

theorem fields?_textOf (stamp : Stamp) (parts : List FormatPart) :
    Item.fields? (parts.map FormatPart.item) (FormatPart.textOf stamp parts).toList =
      stamp.record? (parts.filterMap FormatPart.component?) .unknown := by
  rw [FormatPart.textOf, String.toList_ofList, Item.fields?, readAll?_text _ (.inl rfl)]
  cases stamp.record? (parts.filterMap FormatPart.component?) .unknown <;> rfl

/-! ### What is known -/

/-- The number that the stamp has for a field, if the field is one of those that it fills. -/
def value (stamp : Stamp) : Field → Int
  | .year => stamp.number .year
  | .month => stamp.number .month
  | .day => stamp.number .day
  | .halfDay => stamp.number .hour / 12
  | .hourOfHalf => stamp.number .hour % 12
  | .minute => stamp.number .minute
  | .second => stamp.number .second
  | _ => 0

/-- The stamp's numbers, known in some fields. -/
def told (stamp : Stamp) (known : List Field) : Fields :=
  fun f => if f ∈ known then some (stamp.value f) else none

theorem told_congr {known others : List Field} (h : ∀ f, f ∈ known ↔ f ∈ others) :
    stamp.told known = stamp.told others := by
  funext f
  simp only [told, h]

theorem put?_told {f : Field} (h : f.admits (stamp.value f) = true) (known : List Field) :
    (stamp.told known).put? f (stamp.value f) = some (stamp.told (f :: known)) := by
  refine Fields.put?_eq_some_iff.2 ⟨h, ?_, ?_⟩
  · intro v hv
    exact (Option.some.inj (Option.ite_none_right_eq_some.1 hv).2).symm
  · funext g
    by_cases hg : g = f <;> simp [told, Fields.set, hg]

end Stamp

/-- The fields in which a component becomes known. -/
def Component.fields : Component → List Field
  | year => [.year]
  | month => [.month]
  | day => [.day]
  | hour => [.halfDay, .hourOfHalf]
  | minute => [.minute]
  | second => [.second]

namespace Stamp

variable {stamp : Stamp} {written : List Component} {fields : Fields} {c : Component}

theorem occurs_iff_admits :
    c.Occurs (stamp.number c) ↔ ∀ f ∈ c.fields, f.admits (stamp.value f) = true := by
  have hlt := stamp.number_lt c
  cases c <;> simp [Component.fields, Component.Occurs, Component.width, Field.admits_iff,
    Field.bounds, value] at hlt ⊢ <;> omega

/-- A number that occurs becomes known in its fields. -/
theorem record?_told (h : c.Occurs (stamp.number c)) (known : List Field) :
    c.quantity.record? (stamp.number c) (stamp.told known) =
      some (stamp.told (c.fields.reverse ++ known)) := by
  rw [occurs_iff_admits] at h
  cases c with
  | hour =>
      have hhalf := put?_told (h .halfDay (by decide)) known
      have hhour := put?_told (h .hourOfHalf (by decide)) (.halfDay :: known)
      exact (congrArg (Option.bind · _) hhalf).trans hhour
  | year | month | day | minute | second =>
      exact put?_told (h _ List.mem_cons_self) known

/-- Only numbers that occur are learned. -/
theorem occurs_of_record? {learned : Fields}
    (h : c.quantity.record? (stamp.number c) fields = some learned) : c.Occurs (stamp.number c) := by
  rw [occurs_iff_admits]
  cases c with
  | hour =>
      obtain ⟨half, hhalf, hhour⟩ := Option.bind_eq_some_iff.1 h
      intro f hf
      simp only [Component.fields, List.mem_cons, List.not_mem_nil, or_false] at hf
      rcases hf with rfl | rfl
      · exact (Fields.put?_eq_some_iff.1 hhalf).1
      · exact (Fields.put?_eq_some_iff.1 hhour).1
  | year | month | day | minute | second =>
      intro f hf
      rw [List.mem_singleton.1 hf]
      exact (Fields.put?_eq_some_iff.1 h).1

/-- If all numbers that are written occur, they become known, and nothing else does. -/
theorem recordAll?_told (h : ∀ c ∈ written, c.Occurs (stamp.number c)) (known : List Field) :
    stamp.record? written (stamp.told known) =
      some (stamp.told (written.flatMap Component.fields ++ known)) := by
  induction written generalizing known with
  | nil => rfl
  | cons c written ih =>
      have hfirst := record?_told (h c List.mem_cons_self) known
      have hrest := ih (fun d hd => h d (List.mem_cons_of_mem c hd)) (c.fields.reverse ++ known)
      rw [record?, List.foldlM_cons, hfirst]
      refine hrest.trans (congrArg some (told_congr fun f => ?_))
      simp only [List.flatMap_cons, List.mem_append, List.mem_reverse]
      tauto

theorem forall_occurs_of_recordAll? {learned : Fields}
    (h : stamp.record? written fields = some learned) :
    ∀ c ∈ written, c.Occurs (stamp.number c) := by
  induction written generalizing fields with
  | nil => simp
  | cons c written ih =>
      obtain ⟨between, hfirst, hrest⟩ := Option.bind_eq_some_iff.1 h
      exact List.forall_mem_cons.2 ⟨occurs_of_record? hfirst, ih hrest⟩

end Stamp

/-! ### Whether it can be -/

def Field.component? : Field → Option Component
  | .year => some .year
  | .month => some .month
  | .day => some .day
  | .halfDay | .hourOfHalf => some .hour
  | .minute => some .minute
  | .second => some .second
  | _ => none

theorem Component.mem_fields_iff {c : Component} {f : Field} :
    f ∈ c.fields ↔ f.component? = some c := by
  cases c <;> cases f <;> decide

namespace Stamp

variable {stamp : Stamp} {written : List Component}

/-- What the components tell that were written. -/
def fields (stamp : Stamp) (written : List Component) : Fields :=
  stamp.told (written.flatMap Component.fields)

theorem fields_eq_some {f : Field} {c : Component} (hf : f.component? = some c)
    (hc : c ∈ written) : stamp.fields written f = some (stamp.value f) :=
  if_pos (List.mem_flatMap.2 ⟨c, hc, Component.mem_fields_iff.2 hf⟩)

theorem fields_eq_none {f : Field} (h : ∀ c ∈ written, f.component? ≠ some c) :
    stamp.fields written f = none := by
  refine if_neg fun hmem => ?_
  obtain ⟨c, hc, hf⟩ := List.mem_flatMap.1 hmem
  exact h c hc (Component.mem_fields_iff.1 hf)

theorem fields_eq_none_of_component? {f : Field} (h : f.component? = none) :
    stamp.fields written f = none :=
  fields_eq_none fun c _ hc => by rw [h] at hc; cases hc

/-- The year, the month or the day, if it was written. -/
theorem fields_eq_ite {f : Field} {c : Component} (hf : f.component? = some c) :
    stamp.fields written f = if c ∈ written then some (stamp.value f) else none := by
  split
  next hc => exact fields_eq_some hf hc
  next hc =>
    refine fields_eq_none fun d hd hcomponent => hc ?_
    rwa [← Option.some.inj (hcomponent.symm.trans hf)]

/-- A date fits the fields if it has the year, the month and the day of the stamp. -/
theorem fit_fields {d : Date} (hyear : d.year = stamp.number .year)
    (hmonth : d.month = stamp.number .month) (hday : d.day = stamp.number .day) :
    (stamp.fields written).fit d = true := by
  rw [Fields.fit, List.all_eq_true]
  intro f hf
  cases hc : f.component? with
  | none => simp [fields_eq_none_of_component? hc]
  | some c =>
      rw [fields_eq_ite hc]
      split
      next =>
        have hvalue : d.field? f = some (stamp.value f) := by
          cases f with
          | year => exact congrArg some hyear
          | month => exact congrArg some hmonth
          | day => exact congrArg some hday
          | halfDay | hourOfHalf | minute | second => exact absurd hf (by decide)
          | _ => cases hc
        simp [hvalue]
      next => rfl

/-- A date is settled by the year, the month and the day, and by nothing less. -/
theorem date_fields : (stamp.fields written).date =
    if .year ∈ written ∧ .month ∈ written ∧ .day ∈ written then
      .ofOption (Date.of? (stamp.number .year) (stamp.number .month) (stamp.number .day))
    else .unsettled := by
  have hnone {f : Field} (hf : f.component? = none) : stamp.fields written f = none :=
    fields_eq_none_of_component? hf
  have hyear : stamp.fields written .year = _ := fields_eq_ite rfl
  have hmonth : stamp.fields written .month = _ := fields_eq_ite rfl
  have hday : stamp.fields written .day = _ := fields_eq_ite rfl
  rw [Fields.date_of_year (hnone rfl) (hnone rfl) (hnone rfl) (hnone rfl)]
  split
  next hwritten =>
    obtain ⟨hy, hm, hd⟩ := hwritten
    rw [if_pos hy] at hyear
    rw [if_pos hm] at hmonth
    rw [if_pos hd] at hday
    rw [hyear, Fields.namedDate_of_day hmonth hday, value, value, value]
    cases hdate : Date.of? (stamp.number .year) (stamp.number .month) (stamp.number .day) with
    | none => rfl
    | some d =>
        obtain ⟨hdyear, hdmonth, hdday⟩ := Date.of?_eq_some_iff.1 hdate
        exact if_pos (fit_fields hdyear hdmonth hdday)
  next hwritten =>
    rw [Fields.namedDate_eq_unsettled _ (hnone rfl) (hnone rfl) (hnone rfl)]
    · rfl
    · rw [hyear, hmonth, hday]
      simp only [ite_eq_right_iff, reduceCtorEq, imp_false]
      tauto

/-- The numbers agree if there is a day like theirs, in the year 2000 where none is written. -/
theorem agree_fields_iff : (stamp.fields written).agree = true ↔
    (.month ∈ written → .day ∈ written →
      (Date.of? (if .year ∈ written then stamp.number .year else 2000) (stamp.number .month)
        (stamp.number .day)).isSome = true) := by
  have hoffset : (stamp.fields written).offsetIsPossible = true := by
    rw [Fields.offsetIsPossible, fields_eq_none_of_component? rfl]
  have hyear : stamp.fields written .year = _ := fields_eq_ite rfl
  have hmonth : stamp.fields written .month = _ := fields_eq_ite rfl
  have hday : stamp.fields written .day = _ := fields_eq_ite rfl
  rw [Fields.agree, hoffset, Bool.and_true, date_fields, Fields.dayIsPossible, hyear, hmonth, hday]
  by_cases hy : Component.year ∈ written <;> by_cases hm : Component.month ∈ written <;>
    by_cases hd : Component.day ∈ written <;> simp [hy, hm, hd, Verdict.isPossible, value]
  cases Date.of? (stamp.number .year) (stamp.number .month) (stamp.number .day) <;> rfl

theorem agree_fields (h : ∀ c ∈ written, c.Occurs (stamp.number c)) :
    (stamp.fields written).agree = true ↔ stamp.Possible written := by
  have hyear := stamp.number_lt .year
  have hexists (hm : .month ∈ written) (hd : .day ∈ written) :
      (Date.of? (if .year ∈ written then stamp.number .year else 2000) (stamp.number .month)
        (stamp.number .day)).isSome = true ↔ stamp.number .day ≤
          lastDay (if .year ∈ written then stamp.number .year else 2000) (stamp.number .month) := by
    have hmonth := h .month hm
    have hday := h .day hd
    simp only [Component.Occurs] at hmonth hday
    simp only [Component.width] at hyear
    rw [Date.isSome_of?_iff, firstYear, lastYear, daysInMonth_eq_lastDay]
    split <;> omega
  rw [agree_fields_iff]
  constructor
  · refine fun hdate => ⟨h, fun hm hd year hwritten => ?_⟩
    have hday := (hexists hm hd).1 (hdate hm hd)
    split at hwritten
    next hy => rwa [if_pos hy, ← hwritten] at hday
    next hy =>
      have hleap : IsLeap 2000 ↔ IsLeap year := iff_of_true (by decide) hwritten
      rwa [if_neg hy, lastDay_congr hleap] at hday
  · intro hpossible hm hd
    refine (hexists hm hd).2 (hpossible.day_exists hm hd _ ?_)
    split
    · rfl
    · decide

/-- The numbers of a point in time that can be are read and agree, and no others do. -/
theorem exists_agree_iff : (∃ fields, stamp.record? written .unknown = some fields ∧
    fields.agree = true) ↔ stamp.Possible written := by
  have hlearned (h : ∀ c ∈ written, c.Occurs (stamp.number c)) :
      stamp.record? written .unknown = some (stamp.fields written) := by
    have hunknown : stamp.told [] = .unknown := rfl
    rw [← hunknown, recordAll?_told h, List.append_nil, fields]
  constructor
  · rintro ⟨fields, hrecord, hagree⟩
    have hoccurs := forall_occurs_of_recordAll? hrecord
    obtain rfl := Option.some.inj ((hlearned hoccurs).symm.trans hrecord)
    exact (agree_fields hoccurs).1 hagree
  · exact fun hpossible =>
      ⟨_, hlearned hpossible.occurs, (agree_fields hpossible.occurs).2 hpossible⟩

/-- A format filled in with numbers matches the format if they are the numbers of a point in time
that can be, and otherwise it does not. -/
theorem matches?_textOf (stamp : Stamp) (parts : List FormatPart) :
    (matches? (FormatPart.textOf stamp parts) (FormatPart.formatOf parts) = some true ↔
      stamp.Possible (parts.filterMap FormatPart.component?)) ∧
    (matches? (FormatPart.textOf stamp parts) (FormatPart.formatOf parts) = some false ↔
      ¬ stamp.Possible (parts.filterMap FormatPart.component?)) := by
  rw [matches?, FormatPart.formatItems?_formatOf, Option.map_some, fields?_textOf,
    Option.some.injEq, Option.some.injEq, ← exists_agree_iff]
  cases stamp.record? (parts.filterMap FormatPart.component?) .unknown <;> simp

end Stamp

end RecordRules.Calendar
