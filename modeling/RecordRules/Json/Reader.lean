import RecordRules.Value
import RecordRules.Number.Decimal

/-!
Reading JSON. A text is first cut into tokens, one pass over its characters, and the tokens are
then put together into a value, one pass over the tokens with the open lists and objects on a
stack. Numbers without point and exponent that fit are integers; all others are doubles. A name
that occurs twice in an object keeps its first place and takes its last value.
-/

namespace RecordRules.Json

inductive Token where
  | openList
  | closeList
  | openObject
  | closeObject
  | comma
  | colon
  | text (s : String)
  | word (cs : List Char)

/-- Where the scan stands: between tokens, in a bare word, in a string, after a backslash in a
string, or among the hexadecimal digits of an escape. A string is kept as its code units, last
first. -/
inductive Place where
  | between
  | inWord (reversed : List Char)
  | inText (units : List Nat)
  | escaped (units : List Nat)
  | inUnit (units : List Nat) (value missing : Nat)

/-- Joins surrogate pairs into characters. A surrogate without its partner is refused. -/
def charsOfUnits? : List Nat → Option (List Char)
  | [] => some []
  | u :: us =>
    if u < 0xD800 ∨ 0xDFFF < u then (charsOfUnits? us).map (Char.ofNat u :: ·)
    else if u < 0xDC00 then
      match us with
      | v :: rest =>
        if 0xDC00 ≤ v ∧ v ≤ 0xDFFF then
          (charsOfUnits? rest).map
            (Char.ofNat (0x10000 + (u - 0xD800) * 0x400 + (v - 0xDC00)) :: ·)
        else none
      | [] => none
    else none

def escapeUnit? : Char → Option Nat
  | '"' => some 0x22
  | '\\' => some 0x5C
  | '/' => some 0x2F
  | 'b' => some 0x08
  | 'f' => some 0x0C
  | 'n' => some 0x0A
  | 'r' => some 0x0D
  | 't' => some 0x09
  | _ => none

def isSpace (c : Char) : Bool :=
  c == ' ' || c == '\t' || c == '\n' || c == '\r'

/-- A character between tokens: the token it makes on its own, if any, and where the scan goes on. -/
def startToken? (c : Char) : Option (List Token × Place) :=
  match c with
  | '[' => some ([.openList], .between)
  | ']' => some ([.closeList], .between)
  | '\x7b' => some ([.openObject], .between)
  | '\x7d' => some ([.closeObject], .between)
  | ',' => some ([.comma], .between)
  | ':' => some ([.colon], .between)
  | '"' => some ([], .inText [])
  | _ =>
    if isSpace c then some ([], .between)
    else if c.isAlphanum || c == '-' || c == '+' || c == '.' then some ([], .inWord [c])
    else none

def scanChar? (place : Place) (c : Char) : Option (List Token × Place) :=
  match place with
  | .between => startToken? c
  | .inWord reversed =>
    if c.isAlphanum || c == '-' || c == '+' || c == '.' then some ([], .inWord (c :: reversed))
    else (startToken? c).map fun (tokens, next) => (.word reversed.reverse :: tokens, next)
  | .inText units =>
    if c = '"' then
      (charsOfUnits? units.reverse).map fun cs => ([.text (String.ofList cs)], .between)
    else if c = '\\' then some ([], .escaped units)
    else if c.toNat < 0x20 then none
    else some ([], .inText (c.toNat :: units))
  | .escaped units =>
    if c = 'u' then some ([], .inUnit units 0 4)
    else (escapeUnit? c).map fun u => ([], .inText (u :: units))
  | .inUnit units value missing =>
    (Text.digit? 16 c).map fun d =>
      let value := 16 * value + d
      if missing ≤ 1 then ([], .inText (value :: units)) else ([], .inUnit units value (missing - 1))

def scan? : List Char → Place → Option (List Token)
  | [], .between => some []
  | [], .inWord reversed => some [.word reversed.reverse]
  | [], _ => none
  | c :: cs, place => do
    let (tokens, next) ← scanChar? place c
    return tokens ++ (← scan? cs next)

/-- Whether a bare word is a JSON number: no plus sign or superfluous zero in front, digits on
both sides of a point. -/
def isNumber (cs : List Char) : Bool :=
  let body := match cs with
    | '-' :: rest => rest
    | _ => cs
  let (whole, rest) := Text.spanDigits body
  let wholeOk := match whole with
    | [] => false
    | ['0'] => true
    | c :: _ => c != '0'
  let fractionOk := match rest with
    | '.' :: after => !(Text.spanDigits after).1.isEmpty
    | _ => true
  wholeOk && fractionOk

def wordValue? (cs : List Char) : Option Value :=
  match String.ofList cs with
  | "null" => some .null
  | "true" => some (.bool true)
  | "false" => some (.bool false)
  | _ =>
    if !isNumber cs then none
    else do
      let numeral ← Numeral.ofChars? cs
      let double := numeral.toDouble
      if cs.all fun c => c.isDigit || c == '-' then
        let value : Int := numeral.coefficient
        match WholeNumber.ofInt? (if numeral.negative then -value else value) with
        | some n =>
          if numeral.negative && n.value == 0 then some (.double double) else some (.integer n)
        | none => if double.isFinite then some (.double double) else none
      else if double.isFinite then some (.double double) else none

/-- An open list or object with what it holds so far. The items of a list stand last first. -/
inductive Frame where
  | list (reversed : List Value)
  | object (members : List (String × Value)) (key : String)

inductive Expected where
  | value
  | valueOrClose
  | separator
  | keyOrClose
  | key
  | colon (key : String)
  | nothing (result : Value)

def place (v : Value) : List Frame → List Frame × Expected
  | [] => ([], .nothing v)
  | .list reversed :: rest => (.list (v :: reversed) :: rest, .separator)
  | .object members key :: rest => (.object (Keyed.put key v members) key :: rest, .separator)

def close? (object : Bool) : List Frame → Option (List Frame × Expected)
  | .list reversed :: rest => if object then none else some (place (.array reversed.reverse) rest)
  | .object members _ :: rest => if object then some (place (.object members) rest) else none
  | [] => none

def step? (stack : List Frame) (expected : Expected) (token : Token) :
    Option (List Frame × Expected) :=
  match expected, token with
  | .value, .openList | .valueOrClose, .openList => some (.list [] :: stack, .valueOrClose)
  | .value, .openObject | .valueOrClose, .openObject => some (.object [] "" :: stack, .keyOrClose)
  | .value, .text s | .valueOrClose, .text s => some (place (.string s) stack)
  | .value, .word cs | .valueOrClose, .word cs => (wordValue? cs).map (place · stack)
  | .valueOrClose, .closeList => close? false stack
  | .separator, .closeList => close? false stack
  | .separator, .closeObject => close? true stack
  | .separator, .comma =>
    match stack with
    | .list _ :: _ => some (stack, .value)
    | .object .. :: _ => some (stack, .key)
    | [] => none
  | .keyOrClose, .closeObject => close? true stack
  | .keyOrClose, .text s | .key, .text s => some (stack, .colon s)
  | .colon key, .colon =>
    match stack with
    | .object members _ :: rest => some (.object members key :: rest, .value)
    | _ => none
  | _, _ => none

def build? : List Token → List Frame → Expected → Option Value
  | [], [], .nothing result => some result
  | [], _, _ => none
  | t :: ts, stack, expected => do
    let (stack, expected) ← step? stack expected t
    build? ts stack expected

def read? (s : String) : Option Value := do
  build? (← scan? s.toList .between) [] .value

end RecordRules.Json
