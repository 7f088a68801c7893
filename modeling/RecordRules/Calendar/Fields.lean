import RecordRules.Calendar.Date

/-!
What a text says of a point in time, field by field. A field holds a number within its bounds, and
it keeps the first number it is given: another one contradicts it.
-/

namespace RecordRules.Calendar

inductive Field where
  | year
  | century
  | yearOfCentury
  | isoYear
  | isoYearOfCentury
  | quarter
  | month
  | day
  | ordinal
  | weekFromSunday
  | weekFromMonday
  | isoWeek
  | weekday
  | halfDay
  | hourOfHalf
  | minute
  | second
  | nanosecond
  | timestamp
  | offset
  deriving DecidableEq

namespace Field

/-- The least and the greatest number a field may hold. A sixtieth second is a leap second. -/
def bounds : Field → Int × Int
  | year | isoYear | offset => (-0x80000000, 0x7fffffff)
  | century => (0, 0x7fffffff)
  | yearOfCentury | isoYearOfCentury => (0, 99)
  | quarter => (1, 4)
  | month => (1, 12)
  | day => (1, 31)
  | ordinal => (1, 366)
  | weekFromSunday | weekFromMonday => (0, 53)
  | isoWeek => (1, 53)
  | weekday => (0, 6)
  | halfDay => (0, 1)
  | hourOfHalf => (0, 11)
  | minute => (0, 59)
  | second => (0, 60)
  | nanosecond => (0, 999999999)
  | timestamp => (-0x8000000000000000, 0x7fffffffffffffff)

def admits (f : Field) (v : Int) : Bool :=
  f.bounds.1 ≤ v && v ≤ f.bounds.2

end Field

def Fields : Type := Field → Option Int

namespace Fields

def unknown : Fields := fun _ => none

instance : Inhabited Fields := ⟨unknown⟩

/-- Learns a number, unless it is out of bounds or contradicts what is known. -/
def put? (f : Field) (v : Int) (fields : Fields) : Option Fields :=
  if f.admits v then
    match fields f with
    | some known => if known = v then some fields else none
    | none => some fun g => if g = f then some v else fields g
  else none

end Fields

end RecordRules.Calendar
