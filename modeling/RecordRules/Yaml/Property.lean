import RecordRules.Yaml.Cursor
import RecordRules.Yaml.Node

/-!
What may be written before a node: a tag, which says what kind of thing it is, and an anchor, under
which it can be used again.
-/

namespace RecordRules.Yaml

structure Properties where
  anchor : Option String
  tag : Option String
  deriving Inhabited

namespace Properties

def none : Properties := ⟨Option.none, Option.none⟩

def isNone (p : Properties) : Bool :=
  p.anchor.isNone && p.tag.isNone

end Properties

/-- What is known behind some part of a document: where it ends, the tag handles it declares, and
the nodes that have an anchor. -/
structure Reading where
  cursor : Cursor
  handles : List (String × String)
  anchors : List (String × Node)
  deriving Inhabited

namespace Reading

def skip (r : Reading) : Landing :=
  r.cursor.skip

def moveTo (r : Reading) (cursor : Cursor) : Reading :=
  { r with cursor := cursor }

def keep (r : Reading) (p : Properties) (node : Node) : Reading :=
  match p.anchor with
  | some name => { r with anchors := Keyed.put name node r.anchors }
  | none => r

end Reading

/-- The name at the front of a text: all up to a gap or a mark of flow collections. -/
def nameLength (rest : List Char) : Nat :=
  (rest.takeWhile fun c => !(isSpace c || c == '\n' || isFlowMark c)).length

def anchorName? (cursor : Cursor) : Option (String × Cursor) :=
  let length := nameLength (cursor.rest.drop 1)
  if length = 0 then none
  else some (String.ofList ((cursor.rest.drop 1).take length), cursor.drop (length + 1))

/-- The tag with this handle. The handles `!` and `!!` need not be declared. -/
def tagOf? (handles : List (String × String)) (handle name : String) : Option String :=
  match Keyed.find? handle handles with
  | some start => some (start ++ name)
  | none =>
    if handle = "!" then some ("!" ++ name)
    else if handle = "!!" then some (standardTag name)
    else none

def tag? (handles : List (String × String)) (cursor : Cursor) : Option (String × Cursor) :=
  match cursor.rest.drop 1 with
  | '<' :: rest =>
    let name := rest.takeWhile fun c => !(isSpace c || c == '\n' || c == '>')
    if (rest.drop name.length).head? == some '>' && !name.isEmpty then
      some (String.ofList name, cursor.drop (name.length + 3))
    else none
  | rest =>
    let name := rest.take (nameLength rest)
    let tag :=
      match name.dropWhile (· != '!') with
      | '!' :: suffix =>
        tagOf? handles ("!" ++ String.ofList (name.takeWhile (· != '!')) ++ "!")
          (String.ofList suffix)
      | _ => tagOf? handles "!" (String.ofList name)
    tag.map fun tag => (tag, cursor.drop (name.length + 1))

/-- Reads one property more; no node has two of a kind. -/
def property? (r : Reading) (p : Properties) : Option (Properties × Reading) :=
  if r.cursor.rest.head? = some '&' then
    if p.anchor.isSome then none
    else (anchorName? r.cursor).map fun (name, cursor) =>
      ({ p with anchor := some name }, r.moveTo cursor)
  else if p.tag.isSome then none
  else (tag? r.handles r.cursor).bind fun (tag, cursor) =>
    if atGap cursor.rest || (cursor.rest.head?.map isFlowMark).getD false then
      some ({ p with tag := some tag }, r.moveTo cursor)
    else none

def atProperty (cursor : Cursor) : Bool :=
  cursor.rest.head? == some '&' || cursor.rest.head? == some '!'

def alias? (r : Reading) : Option (Node × Reading) := do
  let (name, cursor) ← anchorName? r.cursor
  let node ← Keyed.find? name r.anchors
  return (node, r.moveTo cursor)

end RecordRules.Yaml
