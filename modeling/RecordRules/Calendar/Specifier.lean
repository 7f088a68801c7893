import RecordRules.Calendar.Item

/-!
Formats with percent specifiers. A percent sign and what belongs to it stand for one or more items,
a blank for any blanks, and every other character for itself. Padding marks in front of a number
and the number of colons in an offset make no difference to reading.
-/

namespace RecordRules.Calendar

/-- The letters that stand for one number. -/
def quantity? : Char → Option Quantity
  | 'C' => some (.plain .century)
  | 'G' => some (.plain .isoYear)
  | 'H' | 'k' => some .hour
  | 'I' | 'l' => some .hourOnDial
  | 'M' => some (.plain .minute)
  | 'S' => some (.plain .second)
  | 'U' => some (.plain .weekFromSunday)
  | 'V' => some (.plain .isoWeek)
  | 'W' => some (.plain .weekFromMonday)
  | 'Y' => some (.plain .year)
  | 'd' | 'e' => some (.plain .day)
  | 'f' => some (.plain .nanosecond)
  | 'g' => some (.plain .isoYearOfCentury)
  | 'j' => some (.plain .ordinal)
  | 'm' => some (.plain .month)
  | 'q' => some (.plain .quarter)
  | 's' => some (.plain .timestamp)
  | 'u' => some .weekdayFromMonday
  | 'w' => some .weekdayFromSunday
  | 'y' => some (.plain .yearOfCentury)
  | _ => none

def americanDate : List Item :=
  [.number (.plain .month), .literal '/', .number (.plain .day), .literal '/',
    .number (.plain .yearOfCentury)]

def hourAndMinute (quantity : Quantity) : List Item :=
  [.number quantity, .literal ':', .number (.plain .minute)]

def clockTime (quantity : Quantity) : List Item :=
  hourAndMinute quantity ++ [.literal ':', .number (.plain .second)]

/-- A date and time as in `2001-07-08T00:34:59.02+09:30`. -/
def fullTimestamp : List Item :=
  [.number (.plain .year), .blanks, .literal '-', .number (.plain .month), .blanks, .literal '-',
    .number (.plain .day), .timeMark, .number .hour, .blanks, .literal ':',
    .number (.plain .minute), .blanks, .literal ':', .number (.plain .second), .fraction, .blanks,
    .zone]

/-- The items of a letter that does not stand for one number. -/
def letterItems? : Char → Option (List Item)
  | 'A' => some [.weekdayName true]
  | 'B' => some [.monthName true]
  | 'D' | 'x' => some americanDate
  | 'F' => some [.number (.plain .year), .literal '-', .number (.plain .month), .literal '-',
      .number (.plain .day)]
  | 'P' | 'p' => some [.halfDay]
  | 'R' => some (hourAndMinute .hour)
  | 'T' | 'X' => some (clockTime .hour)
  | 'Z' => some [.zoneName]
  | 'a' => some [.weekdayName false]
  | 'b' | 'h' => some [.monthName false]
  | 'c' => some ([.weekdayName false, .blanks, .monthName false, .blanks, .number (.plain .day),
      .blanks] ++ clockTime .hour ++ [.blanks, .number (.plain .year)])
  | 'n' | 't' => some [.blanks]
  | 'r' => some (clockTime .hourOnDial ++ [.blanks, .halfDay])
  | 'v' => some [.number (.plain .day), .literal '-', .monthName false, .literal '-',
      .number (.plain .year)]
  | 'z' => some [.offset false false]
  | '+' => some fullTimestamp
  | '%' => some [.literal '%']
  | _ => none

def fractionDigits? : Char → Option Nat
  | '3' => some 3
  | '6' => some 6
  | '9' => some 9
  | _ => none

def specifier? : List Char → Option (List Item)
  | [c] =>
    match quantity? c with
    | some q => some [.number q]
    | none => letterItems? c
  | ['#', 'z'] => some [.offset true true]
  | ['.', 'f'] => some [.fraction]
  | [':', 'z'] | [':', ':', 'z'] | [':', ':', ':', 'z'] => some [.offset false false]
  | ['.', d, 'f'] => (fractionDigits? d).map fun count => [.pointAndDigits count]
  | [mark, c] =>
    if mark = '-' ∨ mark = '0' ∨ mark = '_' then (quantity? c).map fun q => [.number q]
    else if c = 'f' then (fractionDigits? mark).map fun count => [.digits count]
    else none
  | _ => none

def isUnfinished : List Char → Bool
  | [c] => ['-', '0', '_', '#', ':', '.', '3', '6', '9'].contains c
  | [':', ':'] | [':', ':', ':'] => true
  | ['.', d] => (fractionDigits? d).isSome
  | _ => false

def plainItem (c : Char) : Item :=
  if Text.isBlank c then .blanks else .literal c

/-- Reads the rest of a format, where `pending` is what stands behind a percent sign that is not
finished. -/
def itemsFrom? : Option (List Char) → List Char → Option (List Item)
  | none, [] => some []
  | some _, [] => none
  | none, c :: cs =>
    if c = '%' then itemsFrom? (some []) cs else (itemsFrom? none cs).map (plainItem c :: ·)
  | some pending, c :: cs =>
    match specifier? (pending ++ [c]) with
    | some items => (itemsFrom? none cs).map (items ++ ·)
    | none => if isUnfinished (pending ++ [c]) then itemsFrom? (some (pending ++ [c])) cs else none

/-- The items of a format with percent specifiers; there are none if a specifier is unknown or
unfinished. -/
def items? (format : List Char) : Option (List Item) :=
  itemsFrom? none format

end RecordRules.Calendar
