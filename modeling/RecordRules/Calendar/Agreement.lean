import RecordRules.Calendar.Fields

/-!
Whether fields can all be true of one point in time. As soon as some of them settle a date, every
other field of the date has to be what it is on that date; fields that settle no date are let pass.
-/

namespace RecordRules.Calendar

/-- What some fields say about a thing they may settle. -/
inductive Verdict (α : Type) where
  | settled (a : α)
  | unsettled
  | contradictory
  deriving DecidableEq

namespace Verdict

def bind (v : Verdict α) (f : α → Verdict β) : Verdict β :=
  match v with
  | settled a => f a
  | .unsettled => .unsettled
  | contradictory => contradictory

def isPossible : Verdict α → Bool
  | contradictory => false
  | _ => true

def ofOption : Option α → Verdict α
  | some a => settled a
  | none => contradictory

end Verdict

/-- What a field holds on a date. Years before the year 0 are in no century, and the fields of the
time of day hold nothing. -/
def Date.field? (d : Date) : Field → Option Int
  | .year => some d.year
  | .century => if 0 ≤ d.year then some (d.year / 100) else none
  | .yearOfCentury => if 0 ≤ d.year then some (d.year % 100) else none
  | .isoYear => some d.isoWeek.1
  | .isoYearOfCentury => if 0 ≤ d.isoWeek.1 then some (d.isoWeek.1 % 100) else none
  | .quarter => some d.quarter
  | .month => some d.month
  | .day => some d.day
  | .ordinal => some d.ordinal
  | .weekFromSunday => some (d.week 6)
  | .weekFromMonday => some (d.week 0)
  | .isoWeek => some d.isoWeek.2
  | .weekday => some d.weekday
  | _ => none

def dateFields : List Field :=
  [.year, .century, .yearOfCentury, .isoYear, .isoYearOfCentury, .quarter, .month, .day, .ordinal,
    .weekFromSunday, .weekFromMonday, .isoWeek, .weekday]

namespace Fields

def fit (fields : Fields) (d : Date) : Bool :=
  dateFields.all fun f => (fields f).isNone || fields f == d.field? f

/-- The year from itself, its century and its place in the century. A year of which only the place
is known lies between 1970 and 2069; a century alone settles none. -/
def wholeYear (year century place : Option Int) : Verdict (Option Int) :=
  match year, century, place with
  | year, none, none => .settled year
  | some y, century, place =>
    if 0 ≤ y ∧ century.getD (y / 100) = y / 100 ∧ place.getD (y % 100) = y % 100 then
      .settled (some y)
    else .contradictory
  | none, some century, some place => .settled (some (century * 100 + place))
  | none, none, some place => .settled (some (place + if place < 70 then 2000 else 1900))
  | none, some _, none => .unsettled

/-- The date that the fields name in the first of five ways for which they suffice. -/
def namedDate (fields : Fields) (year isoYear : Option Int) : Verdict Date :=
  match year, fields .month, fields .day with
  | some year, some month, some day => .ofOption (Date.of? year month day)
  | _, _, _ =>
  match year, fields .ordinal with
  | some year, some ordinal => .ofOption (Date.ofOrdinal? year ordinal)
  | _, _ =>
  match year, fields .weekFromSunday, fields .weekday with
  | some year, some week, some weekday => .ofOption (Date.ofWeek? 6 year week weekday)
  | _, _, _ =>
  match year, fields .weekFromMonday, fields .weekday with
  | some year, some week, some weekday => .ofOption (Date.ofWeek? 0 year week weekday)
  | _, _, _ =>
  match isoYear, fields .isoWeek, fields .weekday with
  | some year, some week, some weekday => .ofOption (Date.ofIsoWeek? year week weekday)
  | _, _, _ => .unsettled

def date (fields : Fields) : Verdict Date :=
  (wholeYear (fields .year) (fields .century) (fields .yearOfCentury)).bind fun year =>
  (wholeYear (fields .isoYear) none (fields .isoYearOfCentury)).bind fun isoYear =>
  (fields.namedDate year isoYear).bind fun d => if fields.fit d then .settled d else .contradictory

/-- Whether an offset, if there is one, is shorter than a day. -/
def offsetIsPossible (fields : Fields) : Bool :=
  match fields .offset with
  | some seconds => seconds.natAbs < 86400
  | none => true

/-- Whether a day and a month without a year exist in a leap year. -/
def dayIsPossible (fields : Fields) : Bool :=
  match fields .year, fields .month, fields .day with
  | none, some month, some day => (Date.of? 2000 month day).isSome
  | _, _, _ => true

def agree (fields : Fields) : Bool :=
  fields.date.isPossible && fields.offsetIsPossible && fields.dayIsPossible

end Fields

end RecordRules.Calendar
