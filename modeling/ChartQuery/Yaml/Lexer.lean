import ChartQuery.Yaml.Block
import ChartQuery.Yaml.Layout

/-!
# Reading YAML tokens

One token is read after the other; its first characters tell its kind.  Block
collections, keys behind a question mark and values without a key in front of
them start in fresh places only.
-/

namespace ChartQuery.Yaml

namespace Layout

/-- Read the mark of a document; it closes all block collections. -/
def documentMark (layout : Layout) (token : Token) : Option Layout := do
  let layout ← layout.closeAll.dropKey
  return (layout.push token).pass 3 false

/-- Read a directive. -/
def readDirective (layout : Layout) : Option Layout := do
  let layout ← layout.closeAll.dropKey
  let (directive, after) ← readDirective? (layout.pass 1 false).cursor
  return { layout.push (.directive directive) with cursor := after }

/-- Read an opening bracket or brace. -/
def readFlowStart (layout : Layout) (shape : Shape) : Option Layout := do
  let layout ← layout.saveKey
  return (layout.enter.push (.flowStart shape)).pass 1 true

/-- Read a closing bracket or brace. -/
def readFlowEnd (layout : Layout) (shape : Shape) : Option Layout := do
  let layout ← layout.dropKey
  return (layout.leave.push (.flowEnd shape)).pass 1 false

/-- Read a mark that starts an entry, a key or a value on its own. -/
def readIndicator (layout : Layout) (token : Token) (shape : Shape) (fresh : Bool) :
    Option Layout :=
  if layout.flow ∨ layout.cursor.fresh then do
    let layout ← (layout.openHere shape).dropKey
    return (layout.push token).pass 1 fresh
  else none

/-- Read the colon of a value: behind the start of a key, or on its own. -/
def readValue (layout : Layout) : Option Layout :=
  match layout.pending with
  | some key =>
      if key.reaches layout.cursor then
        some ((({ layout.openKey key with pending := none }).push .value).pass 1 false)
      else layout.readIndicator .value .mapping (!layout.flow)
  | none => layout.readIndicator .value .mapping (!layout.flow)

/-- Read a token that may start a key. -/
def readKeyed (layout : Layout) (read : Cursor → Option (Token × Cursor)) :
    Option Layout := do
  let layout ← layout.saveKey
  let (token, after) ← read layout.cursor
  return { layout.push token with cursor := after }

/-- Read a name behind its mark. -/
def readName (name : String → Token) (cursor : Cursor) : Option (Token × Cursor) :=
  (readAnchor? (cursor.along (cursor.rest.drop 1) 1)).map
    (fun (text, after) => (name text, after))

/-- The token of a scalar. -/
def scalarToken (plain : Bool) : Scalar → Token × Cursor
  | (chars, after) => (.scalar (String.ofList chars) plain, after)

/-- Read a literal or folded scalar; a key may follow it. -/
def readBlockScalar (layout : Layout) (folded : Bool) : Option Layout := do
  let layout ← layout.dropKey
  let (token, after) ← (readBlock folded layout.least (layout.pass 1 true).cursor).map
    (scalarToken false)
  return { layout.push token with cursor := after }

/-- Read a plain scalar. -/
def readPlainScalar (layout : Layout) : Option Layout :=
  layout.readKeyed (fun cursor =>
    (readPlain layout.flow layout.least layout.bound cursor).map
      (scalarToken true))

/-- Read the token that starts at the cursor. -/
def readToken (layout : Layout) : Option Layout :=
  let flow := layout.flow
  match layout.cursor.rest with
  | [] => none
  | char :: rest =>
      let behindGap := flow || atGap rest
      match char with
      | '[' => layout.readFlowStart .sequence
      | '\x7b' => layout.readFlowStart .mapping
      | ']' => layout.readFlowEnd .sequence
      | '\x7d' => layout.readFlowEnd .mapping
      | ',' => do
          let layout ← layout.dropKey
          return (layout.push .comma).pass 1 true
      | '*' => layout.readKeyed (readName .alias)
      | '&' => layout.readKeyed (readName .anchor)
      | '!' => layout.readKeyed (fun cursor =>
          (readTag? flow (cursor.along rest 1)).map
            (fun (tag, after) => (.tag tag, after)))
      | '\'' => layout.readKeyed (fun cursor =>
          (readSingle layout.bound (cursor.along rest 1)).map (scalarToken false))
      | '"' => layout.readKeyed (fun cursor =>
          (readDouble layout.bound (cursor.along rest 1)).map (scalarToken false))
      | '|' => if flow then none else layout.readBlockScalar false
      | '>' => if flow then none else layout.readBlockScalar true
      | _ =>
          if char = '-' ∧ atGap rest then layout.readIndicator .entry .sequence true
          else if char = '?' ∧ behindGap then
            layout.readIndicator .key .mapping (!flow)
          else if char = ':' ∧ behindGap then layout.readValue
          else if startsPlain flow (char :: rest) then layout.readPlainScalar
          else none

/-- Read the next token, if the text is not at its end. -/
def step (layout : Layout) : Option Layout :=
  let cursor := layout.cursor.token layout.flow
  let layout := { layout with cursor := cursor }.closeTo cursor.column
  if cursor.column = 0 ∧ cursor.rest.head? = some '%' then layout.readDirective
  else if cursor.atMark '-' then layout.documentMark .documentStart
  else if cursor.atMark '.' then layout.documentMark .documentEnd
  else layout.readToken

/-- Whether nothing is left but blanks and comments. -/
def atEnd (layout : Layout) : Bool := (layout.cursor.token layout.flow).atEnd

/-- Read all tokens. -/
def readAll (fuel : Nat) (layout : Layout) : Option (List Token) :=
  match fuel with
  | 0 => none
  | fuel + 1 =>
      if layout.atEnd then
        layout.closeAll.dropKey.map (fun layout => layout.tokens.reverse)
      else layout.step.bind (readAll fuel)

end Layout

/-- The tokens of a text. -/
def tokens? (text : String) : Option (List Token) := do
  let layout := Layout.start (← Cursor.ofText? text)
  layout.readAll layout.bound

end ChartQuery.Yaml
