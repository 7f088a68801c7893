import RecordRules.Calendar.Agreement
import RecordRules.Calendar.Specifier
import RecordRules.Calendar.Token

/-!
Date formats and the texts that match them. A format that contains a percent sign has percent
specifiers; every other format has token letters.
-/

namespace RecordRules.Calendar

/-- The items of a format of either kind; an unusable format has none. -/
def formatItems? (format : List Char) : Option (List Item) :=
  if format.contains '%' then items? format else (specifiers? format).bind items?

/-- Whether a text is written as the format asks and names a point in time that can be; nothing can
be said for an unusable format. -/
def matches? (text format : String) : Option Bool :=
  (formatItems? format.toList).map fun items =>
    match Item.fields? items text.toList with
    | some fields => fields.agree
    | none => false

end RecordRules.Calendar
