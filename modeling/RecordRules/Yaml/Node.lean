import RecordRules.Text.Letters
import RecordRules.Value.Numeric

/-!
What a document holds, and the record value it stands for. A plain text may stand for null, a
boolean or a number; every other text is a string, and so is a text with the tag for strings. The
keys of a mapping are texts, and no key comes twice.
-/

namespace RecordRules.Yaml

inductive Node where
  /-- A text, with its tag, and whether it is plain. -/
  | scalar (tag : Option String) (plain : Bool) (text : String)
  | sequence (items : List Node)
  | mapping (entries : List (Node × Node))
  deriving Inhabited

def Node.empty : Node :=
  scalar none true ""

def standardTag (name : String) : String :=
  "tag:yaml.org,2002:" ++ name

/-- The digits of a number, where lines between them do not count. -/
def digitsOf? (base : Nat) (cs : List Char) : Option Nat :=
  Text.natOfChars? base (cs.filter (· != '_'))

/-- Reads an integer without its sign: decimal, or with the mark of another base. -/
def magnitude? : List Char → Option Nat
  | '0' :: c :: cs =>
    match c.toLower with
    | 'x' => digitsOf? 16 cs
    | 'o' => digitsOf? 8 cs
    | 'b' => digitsOf? 2 cs
    | _ => digitsOf? 10 (c :: cs)
  | cs => digitsOf? 10 cs

def integer? (cs : List Char) : Option Int :=
  let (negative, body) := Numeral.takeSign cs
  (magnitude? body).map fun n => if negative then -(n : Int) else n

/-- The words for infinity and for what is no number, behind an optional sign. -/
def isNumberWord (text : String) : Bool :=
  let (_, body) := Numeral.takeSign text.toList
  [".inf", ".nan"].contains (Text.lowerCase (String.ofList body))

def nullWords : List String := ["", "~", "null"]
def trueWords : List String := ["true", "yes", "on", "y"]
def falseWords : List String := ["false", "no", "off", "n"]

def capitalize (text : String) : String :=
  match text.toList with
  | [] => ""
  | c :: cs => String.ofList (c.toUpper :: cs)

/-- Whether a text is one of some words in small letters, capitals, or small letters behind one
capital. -/
def isWord (words : List String) (text : String) : Bool :=
  words.any fun word =>
    text == word || text == String.ofList (word.toList.map Char.toUpper) || text == capitalize word

/-- The number a text writes in decimal digits, as a value; infinity is null. -/
def fraction? (text : String) : Option Value :=
  (Numeral.ofChars? text.toList).map fun n =>
    if n.toDouble.isFinite then .double n.toDouble else .null

def plainValue (text : String) : Value :=
  if nullWords.contains (Text.lowerCase text) then .null
  else if isWord trueWords text then .bool true
  else if isWord falseWords text then .bool false
  else if isNumberWord text then .null
  else
    match (integer? text.toList).bind WholeNumber.ofInt? with
    | some n => .integer n
    | none => (fraction? text).getD (.string text)

/-- What a text with a tag stands for. A tag for something other than a string asks for a plain text
that is no string. -/
def scalarValue? (tag : Option String) (plain : Bool) (text : String) : Option Value :=
  match tag with
  | none => some (if plain then plainValue text else .string text)
  | some tag =>
    if tag == standardTag "str" || tag == "!" then some (.string text)
    else if ["null", "bool", "int", "float"].any fun name => tag == standardTag name then
      if plain && !(plainValue text).isString then some (plainValue text) else none
    else some (if plain then plainValue text else .string text)

/-- The text of a key. A key that stands for null has none. -/
def Node.key? : Node → Option String
  | scalar tag plain text =>
    match scalarValue? tag plain text with
    | some .null => none
    | some _ => some text
    | none => none
  | _ => none

/-- Whether a key asks for the entries of other mappings to be taken over. -/
def Node.isMerge : Node → Bool
  | scalar none true "<<" => true
  | _ => false

def objectMembers? : Value → Option (List (String × Value))
  | .object members => some members
  | _ => none

def mergedMembers? : Value → Option (List (String × Value))
  | .object members => some members
  | .array items => (items.mapM objectMembers?).map List.flatten
  | .null => some []
  | _ => none

/-- Adds members whose names are not taken yet. -/
def addMissing (members more : List (String × Value)) : List (String × Value) :=
  more.foldl (fun members m =>
    if (Keyed.find? m.1 members).isSome then members else members ++ [m]) members

mutual

/-- The value of a node, unless one of its keys is no text or comes twice. -/
def Node.value? : Node → Option Value
  | .scalar tag plain text => scalarValue? tag plain text
  | .sequence items => (itemValues? items).map .array
  | .mapping entries =>
    (members? [] [] entries).map fun (members, merged) => .object (addMissing members merged)

def itemValues? : List Node → Option (List Value)
  | [] => some []
  | item :: items => do
    let v ← item.value?
    let vs ← itemValues? items
    return v :: vs

def members? (members merged : List (String × Value)) :
    List (Node × Node) → Option (List (String × Value) × List (String × Value))
  | [] => some (members, merged)
  | (k, node) :: entries => do
    let v ← node.value?
    if k.isMerge then members? members (merged ++ (← mergedMembers? v)) entries
    else
      let name ← k.key?
      if (Keyed.find? name members).isSome then none
      else members? (members ++ [(name, v)]) merged entries

end

end RecordRules.Yaml
