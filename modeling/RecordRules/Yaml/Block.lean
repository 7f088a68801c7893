import RecordRules.Yaml.Flow

/-!
Block nodes: collections whose structure shows in the columns of their lines. The entries of a
mapping and the items of a sequence start in one column, and what belongs to an entry stands to the
right of it; only the items of a sequence that is the value of an entry may stand below its key.
-/

namespace RecordRules.Yaml

/-- Where a node may stand: to the right of `indent`, with or without a block collection starting on
the same line, and with or without a sequence starting in the column of `indent`. -/
structure Place where
  indent : Int
  collections : Bool
  sequenceBelow : Bool

def keyLimit : Nat := 1024

/-- Reads a key and the colon behind it, all on one line. -/
def blockKey? (fuel : Nat) (indent : Int) (r : Reading) : Option (Node × Reading) := do
  let (node, after) ← flowNode? false indent fuel .none r
  let cursor := after.cursor.skipSpaces
  if cursor.line = r.cursor.line ∧ cursor.column ≤ r.cursor.column + keyLimit ∧
      cursor.atWord [':'] ∧ ¬ tabMisleads cursor then
    return (node, after.moveTo cursor.next)
  else none

/-- Whether nothing but a comment is left on the line of a node that has ended. -/
def endsLine (r : Reading) : Bool :=
  let landing := r.skip
  landing.fresh || landing.cursor.rest.isEmpty

/-- Whether a tab stands where only spaces may. -/
def tabIndents (landing : Landing) (indent : Int) : Bool :=
  landing.fresh && ((landing.tab.map fun column => decide ((column : Int) ≤ indent)).getD false)

inductive Continuation where
  | entry (r : Reading)
  | finished

def continuation? (column : Nat) (r : Reading) : Option Continuation :=
  let landing := r.skip
  let cursor := landing.cursor
  if cursor.atEnd || (landing.fresh && cursor.column < column) then some .finished
  else if landing.fresh && cursor.column == column && landing.tab.isNone then
    some (.entry (r.moveTo cursor))
  else none

mutual

/-- Reads a node with the properties that have been read before it. -/
def blockNode? : Nat → Place → Properties → Reading → Option (Node × Reading)
  | 0, _, _, _ => none
  | fuel + 1, place, p, r =>
    let landing := r.skip
    let cursor := landing.cursor
    let here := r.moveTo cursor
    let nothing := Node.scalar p.tag true ""
    let below := landing.fresh && cursor.column ≤ place.indent
    let collections := place.collections || landing.fresh
    if cursor.atEnd then some (nothing, r.keep p nothing)
    else if below && !(place.sequenceBelow && cursor.column == place.indent &&
        cursor.atWord ['-']) then some (nothing, r.keep p nothing)
    else if tabIndents landing place.indent then none
    else if cursor.atWord ['-'] then
      if collections then do
        let (items, r) ← blockItems? fuel below cursor.column [] here
        return (.sequence items, r.keep p (.sequence items))
      else none
    else if cursor.atWord ['?'] ||
        (collections && (blockKey? fuel place.indent here).isSome) then
      if collections then do
        let (entries, r) ← blockEntries? fuel cursor.column [] here
        return (.mapping entries, r.keep p (.mapping entries))
      else none
    else if atProperty cursor then do
      let (p, r) ← property? here p
      blockNode? fuel { place with collections := false } p r
    else if cursor.rest.head? = some '|' ∨ cursor.rest.head? = some '>' then do
      let (text, cursor) ← blockText? place.indent cursor
      let node := Node.scalar p.tag false (String.ofList text)
      return (node, (r.moveTo cursor).keep p node)
    else do
      let (node, r) ← flowNode? false place.indent fuel p here
      if place.indent < 0 || endsLine r then return (node, r) else none

/-- Reads the items of a sequence that starts in a column. Only a sequence below a key may be
followed by something else in that column. -/
def blockItems? : Nat → Bool → Nat → List Node → Reading → Option (List Node × Reading)
  | 0, _, _, _, _ => none
  | fuel + 1, below, column, items, r => do
    let (item, r) ← blockNode? fuel ⟨column, true, false⟩ .none (r.moveTo r.cursor.next)
    match ← continuation? column r with
    | .entry next =>
      if next.cursor.atWord ['-'] then blockItems? fuel below column (item :: items) next
      else if below then some ((item :: items).reverse, r)
      else none
    | .finished => some ((item :: items).reverse, r)

def blockEntries? : Nat → Nat → List (Node × Node) → Reading →
    Option (List (Node × Node) × Reading)
  | 0, _, _, _ => none
  | fuel + 1, column, entries, r => do
    let (k, v, r) ← blockEntry? fuel column r
    match ← continuation? column r with
    | .entry r => blockEntries? fuel column ((k, v) :: entries) r
    | .finished => some (((k, v) :: entries).reverse, r)

/-- Reads an entry: a key and its value, or a question mark, a key, and perhaps a colon and its
value on lines of their own. -/
def blockEntry? : Nat → Nat → Reading → Option (Node × Node × Reading)
  | 0, _, _ => none
  | fuel + 1, column, r =>
    if r.cursor.atWord ['?'] then do
      let (k, r) ← blockNode? fuel ⟨column, true, false⟩ .none (r.moveTo r.cursor.next)
      match ← continuation? column r with
      | .entry next =>
        if next.cursor.atWord [':'] then
          let (v, r) ← blockNode? fuel ⟨column, true, true⟩ .none (next.moveTo next.cursor.next)
          return (k, v, r)
        else return (k, .empty, r)
      | .finished => return (k, .empty, r)
    else do
      let (k, r) ← blockKey? fuel column r
      let (v, r) ← blockNode? fuel ⟨column, false, true⟩ .none r
      return (k, v, r)

end

end RecordRules.Yaml
