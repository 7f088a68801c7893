import RecordRules.Yaml.Block

/-!
Documents. A document may begin with directives, which declare a version and tag handles, and has one
root node. No second document may follow; what else follows the root is not read, but a character
that can begin nothing is still an error.
-/

namespace RecordRules.Yaml

structure Directives where
  versions : Nat
  handles : List (String × String)

/-- The words of a line, without a comment at its end. -/
def words (line : List Char) : List (List Char) :=
  ((Text.splitAll ' ' (line.map fun c => if c = '\t' then ' ' else c)).filter
    (!·.isEmpty)).takeWhile fun word => word.head? != some '#'

/-- Whether a text is a version: two numbers with a point between. -/
def isVersion (text : List Char) : Bool :=
  match Text.cutFirst? '.' text with
  | some (major, minor) =>
    (Text.natOfChars? 10 major).isSome && (Text.natOfChars? 10 minor).isSome
  | none => false

/-- One directive more. Directives with other names are passed over. -/
def Directives.add? (d : Directives) (line : List Char) : Option Directives :=
  match words line with
  | [name, version] =>
    if name = ['%', 'Y', 'A', 'M', 'L'] then
      if d.versions = 0 && isVersion version then some { d with versions := 1 } else none
    else if name = ['%', 'T', 'A', 'G'] then none
    else some d
  | [name, handle, tagStart] =>
    let handle := String.ofList handle
    if name = ['%', 'T', 'A', 'G'] then
      if (Keyed.find? handle d.handles).isSome then none
      else some { d with handles := d.handles ++ [(handle, String.ofList tagStart)] }
    else if name = ['%', 'Y', 'A', 'M', 'L'] then none
    else some d
  | name :: _ =>
    if name = ['%', 'T', 'A', 'G'] ∨ name = ['%', 'Y', 'A', 'M', 'L'] then none else some d
  | [] => some d

def readDirectives? : Nat → Directives → Cursor → Option (Directives × Cursor)
  | 0, _, _ => none
  | fuel + 1, d, cursor =>
    let cursor := cursor.skip.cursor
    if cursor.column = 0 ∧ cursor.rest.head? = some '%' then do
      let line := cursor.rest.takeWhile (· != '\n')
      readDirectives? fuel (← d.add? line) (cursor.drop line.length)
    else some (d, cursor)

/-- Passes over the ends of documents. Nothing but a comment may follow one on its line. -/
def skipEnds? : Nat → Cursor → Option Cursor
  | 0, _ => none
  | fuel + 1, cursor =>
    let cursor := cursor.skip.cursor
    if cursor.atDocumentEnd then
      let landing := (cursor.drop 3).skip
      if landing.fresh || landing.cursor.rest.isEmpty then skipEnds? fuel (cursor.drop 3) else none
    else some cursor

/-- Whether a character can begin nothing outside of brackets. -/
def beginsNothing (c : Char) : Bool :=
  [']', '\x7d', '%', '@', '\x60'].contains c

def mayFollow (fuel : Nat) (cursor : Cursor) : Bool :=
  let landing := cursor.skip
  let cursor := landing.cursor
  if cursor.atDocumentEnd then
    match skipEnds? fuel cursor with
    | some following => (following.rest.head?.map beginsNothing).getD true
    | none => false
  else
    match cursor.rest with
    | [] => true
    | c :: rest =>
      !cursor.atDocumentStart && !beginsNothing c && !(c == ':' && atGap rest && !landing.fresh)

/-- Reads the root of a document, or the empty node if there is no document. -/
def root? (text : List Char) : Option Node := do
  let fuel := 4 * text.length + 16
  let cursor ← skipEnds? fuel (Cursor.start text)
  let (d, cursor) ← readDirectives? fuel ⟨0, []⟩ cursor
  let directed := d.versions ≠ 0 ∨ ¬ d.handles.isEmpty
  if ¬ cursor.atDocumentStart ∧ directed then none
  else
    let cursor := if cursor.atDocumentStart then cursor.drop 3 else cursor
    let (node, r) ← blockNode? fuel ⟨-1, false, false⟩ .none ⟨cursor, d.handles, []⟩
    if mayFollow fuel r.cursor then some node else none

def lineFeeds : List Char → List Char
  | '\x0d' :: '\n' :: cs => '\n' :: lineFeeds cs
  | '\x0d' :: cs => '\n' :: lineFeeds cs
  | c :: cs => c :: lineFeeds cs
  | [] => []

/-- The text of a document as it is read: without a mark of its byte order, and up to a null
character, which ends it. -/
def documentText (text : List Char) : List Char :=
  let marked := match text with
    | '\ufeff' :: rest => rest
    | _ => text
  lineFeeds (marked.takeWhile (· != '\x00'))

def read? (text : String) : Option Value :=
  (root? (documentText text.toList)).bind Node.value?

end RecordRules.Yaml
