import RecordRules.Calendar.Fields
import RecordRules.Text.Blank
import RecordRules.Text.Digits

/-!
The items of a date format, and how each is read from a text. Blanks may stand in front of any
number, a number takes no more digits than its item allows, and names are read up to letter case.
-/

namespace RecordRules.Calendar

inductive Quantity where
  /-- What a field holds. -/
  | plain (field : Field)
  /-- The hours of the day, from 0 to 23. -/
  | hour
  /-- The hours of half a day, from 1 to 12, where 12 comes before 1. -/
  | hourOnDial
  /-- Weekdays from Sunday, which is 0. -/
  | weekdayFromSunday
  /-- Weekdays from Monday, which is 1. -/
  | weekdayFromMonday
  deriving DecidableEq

namespace Quantity

/-- The most digits a number without a sign has, if there is a limit. -/
def width : Quantity → Option Nat
  | plain .year | plain .isoYear => some 4
  | plain .ordinal => some 3
  | plain .quarter | weekdayFromSunday | weekdayFromMonday => some 1
  | plain .nanosecond => some 9
  | plain .timestamp => none
  | _ => some 2

/-- Whether a sign may stand before the digits; behind a sign there is no limit to them. -/
def isSigned : Quantity → Bool
  | plain .year | plain .isoYear => true
  | _ => false

def record? (v : Int) (fields : Fields) : Quantity → Option Fields
  | plain field => fields.put? field v
  | hour => (fields.put? .halfDay (v / 12)).bind fun fields => fields.put? .hourOfHalf (v % 12)
  | hourOnDial => if 1 ≤ v ∧ v ≤ 12 then fields.put? .hourOfHalf (v % 12) else none
  | weekdayFromSunday => if 0 ≤ v ∧ v ≤ 6 then fields.put? .weekday ((v + 6) % 7) else none
  | weekdayFromMonday => fields.put? .weekday (v - 1)

end Quantity

inductive Item where
  /-- This character. -/
  | literal (c : Char)
  /-- Blanks, as many as there are. -/
  | blanks
  | number (quantity : Quantity)
  /-- A month's name, in three letters or, if `full`, also as a whole. -/
  | monthName (full : Bool)
  /-- A weekday's name, in three letters or, if `full`, also as a whole. -/
  | weekdayName (full : Bool)
  /-- `am` or `pm`. -/
  | halfDay
  /-- A point and digits, of which the first nine count, or nothing. -/
  | fraction
  /-- A point and exactly so many digits, or nothing. -/
  | pointAndDigits (count : Nat)
  /-- Exactly so many digits of a fraction. -/
  | digits (count : Nat)
  /-- The name of a time zone, which is anything but blanks. -/
  | zoneName
  /-- Hours and minutes from universal time, or `Z` if `zulu`, without minutes if `short`. -/
  | offset (zulu short : Bool)
  /-- What stands between a date and a time: `T` or a space. -/
  | timeMark
  /-- `UTC`, or an offset. -/
  | zone
  deriving DecidableEq

def monthNames : List (List Char) :=
  ["january", "february", "march", "april", "may", "june", "july", "august", "september",
    "october", "november", "december"].map String.toList

def weekdayNames : List (List Char) :=
  ["monday", "tuesday", "wednesday", "thursday", "friday", "saturday", "sunday"].map String.toList

/-- Drops a word of small letters from the front of a text, whatever the case of its letters. -/
def dropWord? : List Char → List Char → Option (List Char)
  | [], cs => some cs
  | w :: word, c :: cs => if c.toLower = w then dropWord? word cs else none
  | _ :: _, [] => none

/-- Reads a name by its first three letters, and the others too if `full` and they are there. The
number of the name counts from `number`. -/
def readName? (full : Bool) (cs : List Char) : List (List Char) → Int → Option (Int × List Char)
  | [], _ => none
  | name :: names, number =>
    match dropWord? (name.take 3) cs with
    | some rest =>
      if full then some (number, (dropWord? (name.drop 3) rest).getD rest)
      else some (number, rest)
    | none => readName? full cs names (number + 1)

def takeDigits (limit : Option Nat) (cs : List Char) : List Char × List Char :=
  match limit with
  | none => Text.spanDigits cs
  | some count =>
    let run := (cs.take count).takeWhile Char.isDigit
    (run, cs.drop run.length)

def readDigits? (limit : Option Nat) (cs : List Char) : Option (Nat × List Char) :=
  let (run, rest) := takeDigits limit cs
  if run.isEmpty then none else some (Text.natOfDigits run, rest)

namespace Quantity

def read? (q : Quantity) (cs : List Char) : Option (Int × List Char) :=
  match q.isSigned, cs with
  | true, '-' :: rest => (readDigits? none rest).map fun (n, rest) => (-(n : Int), rest)
  | true, '+' :: rest => (readDigits? none rest).map fun (n, rest) => ((n : Int), rest)
  | _, cs => (readDigits? q.width cs).map fun (n, rest) => ((n : Int), rest)

end Quantity

/-- Reads exactly so many digits as a fraction of a second, in nanoseconds. -/
def readFraction? (count : Nat) (cs : List Char) : Option (Int × List Char) :=
  let (run, rest) := takeDigits (some count) cs
  if run.length = count then some (Text.natOfDigits run * Nat.pow 10 (9 - count), rest) else none

/-- Reads digits as a fraction of a second; the tenth and later digits are dropped. -/
def readLongFraction? (cs : List Char) : Option (Int × List Char) :=
  let (run, rest) := takeDigits (some 9) cs
  if run.isEmpty then none
  else some (Text.natOfDigits run * Nat.pow 10 (9 - run.length), rest.dropWhile Char.isDigit)

/-- Reads a sign; `true` is a minus, for which the minus of typography stands too. -/
def readSign? : List Char → Option (Bool × List Char)
  | [] => none
  | c :: rest =>
    if c = '+' then some (false, rest)
    else if c = '-' ∨ c = '\u2212' then some (true, rest)
    else none

def pair? (a b : Char) : Option Int :=
  if a.isDigit && b.isDigit then some (Text.natOfDigits [a, b]) else none

/-- Reads the minutes of an offset, below sixty. -/
def readMinutes? (short : Bool) : List Char → Option (Int × List Char)
  | a :: b :: rest =>
    ((pair? a b).filter fun minutes => minutes < 60).map fun minutes => (minutes, rest)
  | [] => if short then some (0, []) else none
  | _ => none

/-- Reads a signed offset in hours and minutes, in seconds. Colons and blanks may stand between. -/
def readSignedOffset? (short : Bool) (cs : List Char) : Option (Int × List Char) := do
  let (negative, cs) ← readSign? cs
  match cs with
  | a :: b :: rest =>
    let hours ← pair? a b
    let (minutes, rest) ← readMinutes? short (rest.dropWhile fun c => c == ':' || Text.isBlank c)
    let seconds := hours * 3600 + minutes * 60
    return (if negative then -seconds else seconds, rest)
  | _ => none

/-- Reads an offset, or `Z` for none if `zulu`. -/
def readOffset? (zulu short : Bool) (cs : List Char) : Option (Int × List Char) :=
  match cs with
  | c :: rest => if zulu && c.toLower == 'z' then some (0, rest) else readSignedOffset? short cs
  | [] => none

namespace Item

def learn? (f : Field) (fields : Fields) : Option (Int × List Char) → Option (Fields × List Char)
  | some (v, rest) => (fields.put? f v).map fun fields => (fields, rest)
  | none => none

def read? (fields : Fields) (cs : List Char) : Item → Option (Fields × List Char)
  | literal c =>
    match cs with
    | d :: rest => if d = c then some (fields, rest) else none
    | [] => none
  | blanks => some (fields, cs.dropWhile Text.isBlank)
  | number q => do
    let (v, rest) ← q.read? (cs.dropWhile Text.isBlank)
    return (← q.record? v fields, rest)
  | monthName full => learn? .month fields (readName? full cs monthNames 1)
  | weekdayName full => learn? .weekday fields (readName? full cs weekdayNames 0)
  | halfDay => learn? .halfDay fields (readName? false cs [['a', 'm'], ['p', 'm']] 0)
  | fraction =>
    match cs with
    | '.' :: rest => learn? .nanosecond fields (readLongFraction? rest)
    | _ => some (fields, cs)
  | pointAndDigits count =>
    match cs with
    | '.' :: rest => learn? .nanosecond fields (readFraction? count rest)
    | _ => some (fields, cs)
  | digits count => learn? .nanosecond fields (readFraction? count cs)
  | zoneName => some (fields, cs.dropWhile fun c => !Text.isBlank c)
  | offset zulu short =>
    learn? .offset fields (readOffset? zulu short (cs.dropWhile Text.isBlank))
  | timeMark =>
    match cs with
    | c :: rest => if c = 't' ∨ c = 'T' ∨ c = ' ' then some (fields, rest) else none
    | [] => none
  | zone =>
    match dropWord? ['u', 't', 'c'] cs with
    | some rest => learn? .offset fields (some (0, rest))
    | none => learn? .offset fields (readOffset? true false cs)

def readAll? : List Item → Fields → List Char → Option (Fields × List Char)
  | [], fields, cs => some (fields, cs)
  | item :: items, fields, cs =>
    match item.read? fields cs with
    | some (fields, rest) => readAll? items fields rest
    | none => none

def fields? (items : List Item) (text : List Char) : Option Fields :=
  match readAll? items .unknown text with
  | some (fields, []) => some fields
  | _ => none

end Item

end RecordRules.Calendar
