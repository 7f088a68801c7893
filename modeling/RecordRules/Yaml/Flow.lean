import RecordRules.Yaml.Property
import RecordRules.Yaml.Scalar

/-!
Flow nodes: texts, uses of anchors, and collections in brackets. What is in brackets may be spread
over lines, which have to stay to the right of `indent`; only closing brackets and commas may stand
further left.
-/

namespace RecordRules.Yaml

def skipFlow? (indent : Int) (r : Reading) : Option Reading :=
  let landing := r.skip
  let cursor := landing.cursor
  if cursor.atEnd then none
  else
    let closes := (cursor.rest.head?.map [']', '\x7d', ','].contains).getD false
    if landing.fresh && !closes && cursor.column ≤ indent then none
    else
      match landing.tab with
      | some column => if landing.fresh && column ≤ indent then none else some (r.moveTo cursor)
      | none => some (r.moveTo cursor)

/-- Whether the text goes on with the mark between a key and its value. Behind a key that ends in a
quote or a bracket nothing has to separate the mark from the value. -/
def atFlowColon (cursor : Cursor) (close : Bool) : Bool :=
  match cursor.rest with
  | ':' :: rest => close || atGap rest || (rest.head?.map isFlowMark).getD false
  | _ => false

/-- Whether a tab alone separates the mark at the cursor from a value that would then be misread. -/
def tabMisleads (cursor : Cursor) : Bool :=
  let blanks := (cursor.rest.drop 1).takeWhile isSpace
  match cursor.rest.drop (1 + blanks.length) with
  | c :: _ => blanks.contains '\t' && !blanks.contains ' ' && (c.isAlphanum || c == '-' || c == '_')
  | [] => false

/-- Whether a node ends in a quote or a bracket, as the first character of its text tells. -/
def isClosed (cursor : Cursor) : Bool :=
  (cursor.rest.head?.map ['"', '\'', '[', '\x7b'].contains).getD false

mutual

/-- Reads a node, without its properties if these have been read. -/
def flowNode? (inFlow : Bool) (indent : Int) : Nat → Properties → Reading → Option (Node × Reading)
  | 0, _, _ => none
  | fuel + 1, p, r =>
    match r.cursor.rest with
    | [] => some (.scalar p.tag true "", r.keep p (.scalar p.tag true ""))
    | c :: _ =>
      if atProperty r.cursor then do
        let (p, r) ← property? r p
        if inFlow then flowNode? inFlow indent fuel p (← skipFlow? indent r)
        else flowNode? inFlow indent fuel p (r.moveTo r.cursor.skipSpaces)
      else if c = '*' then if p.isNone then alias? r else none
      else if c = '[' then do
        let (items, r) ← flowItems? indent fuel [] (← skipFlow? indent (r.moveTo r.cursor.next))
        return (.sequence items, r.keep p (.sequence items))
      else if c = '\x7b' then do
        let (entries, r) ← flowEntries? indent fuel [] (← skipFlow? indent (r.moveTo r.cursor.next))
        return (.mapping entries, r.keep p (.mapping entries))
      else if c = '"' ∨ c = '\'' then do
        let (text, cursor) ← quotedText? indent r.cursor
        let node := Node.scalar p.tag false (String.ofList text)
        return (node, (r.moveTo cursor).keep p node)
      else if startsPlain inFlow r.cursor.rest then do
        let (text, cursor) ← plainText? inFlow indent r.cursor
        let node := Node.scalar p.tag true (String.ofList text)
        return (node, (r.moveTo cursor).keep p node)
      else if inFlow && (isFlowMark c && c != '[' && c != '\x7b' || c == ':') then
        some (.scalar p.tag true "", r.keep p (.scalar p.tag true ""))
      else none

/-- Reads what may follow a key: its value, if there is one, and the blanks behind it. -/
def flowValue? (indent : Int) (close : Bool) : Nat → Reading → Option (Option Node × Reading)
  | 0, _ => none
  | fuel + 1, r => do
    let r ← skipFlow? indent r
    if atFlowColon r.cursor close then
      if tabMisleads r.cursor then none
      else
        let r ← skipFlow? indent (r.moveTo r.cursor.next)
        let (node, r) ← flowNode? true indent fuel .none r
        return (some node, ← skipFlow? indent r)
    else return (none, r)

/-- Reads the rest of a sequence in brackets. An item with a value is a mapping of one entry. -/
def flowItems? (indent : Int) : Nat → List Node → Reading → Option (List Node × Reading)
  | 0, _, _ => none
  | fuel + 1, items, r =>
    if r.cursor.rest.head? = some ']' then some (items.reverse, r.moveTo r.cursor.next)
    else if r.cursor.rest.head? = some ',' then none
    else do
      let explicit := r.cursor.atWord ['?']
      let r ← if explicit then skipFlow? indent (r.moveTo r.cursor.next) else some r
      let close := isClosed r.cursor
      let (node, r) ← flowNode? true indent fuel .none r
      let (value, r) ← flowValue? indent close fuel r
      let item := match value with
        | some v => Node.mapping [(node, v)]
        | none => if explicit then .mapping [(node, .empty)] else node
      if r.cursor.rest.head? = some ',' then
        flowItems? indent fuel (item :: items) (← skipFlow? indent (r.moveTo r.cursor.next))
      else if r.cursor.rest.head? = some ']' then
        some ((item :: items).reverse, r.moveTo r.cursor.next)
      else none

def flowEntries? (indent : Int) : Nat → List (Node × Node) → Reading →
    Option (List (Node × Node) × Reading)
  | 0, _, _ => none
  | fuel + 1, entries, r =>
    if r.cursor.rest.head? = some '\x7d' then some (entries.reverse, r.moveTo r.cursor.next)
    else if r.cursor.rest.head? = some ',' then none
    else do
      let r ← if r.cursor.atWord ['?'] then skipFlow? indent (r.moveTo r.cursor.next) else some r
      let close := isClosed r.cursor
      let (node, r) ← flowNode? true indent fuel .none r
      let (value, r) ← flowValue? indent close fuel r
      let entry := (node, value.getD .empty)
      if r.cursor.rest.head? = some ',' then
        flowEntries? indent fuel (entry :: entries) (← skipFlow? indent (r.moveTo r.cursor.next))
      else if r.cursor.rest.head? = some '\x7d' then
        some ((entry :: entries).reverse, r.moveTo r.cursor.next)
      else none

end

end RecordRules.Yaml
