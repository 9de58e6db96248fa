import ChartQuery.Yaml.Token

/-!
# Layout

What is known between two tokens: the tokens so far, the columns of the open
block collections, the brackets around the place, and where a key may have
started.  Whether a node is a key shows only at the colon behind it, so the
tokens that open a key are put in front of the node afterwards.  The colon has
to be on the same line, at most 1024 characters after the start of the key.
-/

namespace ChartQuery.Yaml

/-- A place where a key may start. -/
structure KeyStart where
  cursor : Cursor
  /-- The number of tokens in front. -/
  place : Nat
  /-- Nothing but a key can start here. -/
  required : Bool

/-- The number of characters that a key may take up to its colon. -/
def keyLimit : Nat := 1024

/-- Whether the colon of a key may stand at a place. -/
def KeyStart.reaches (key : KeyStart) (colon : Cursor) : Bool :=
  key.cursor.line = colon.line && colon.column ≤ key.cursor.column + keyLimit

/-- What is known between two tokens. -/
structure Layout where
  cursor : Cursor
  /-- More than the number of characters that are left. -/
  bound : Nat
  /-- The tokens so far, the newest first. -/
  tokens : List Token
  /-- The number of tokens so far. -/
  count : Nat
  /-- The columns of the open block collections, the innermost first. -/
  columns : List Nat
  /-- Where the last key may start. -/
  pending : Option KeyStart
  /-- The same for the surroundings of each open bracket, the innermost first. -/
  outer : List (Option KeyStart)

namespace Layout

/-- The layout at the start of a text. -/
def start (cursor : Cursor) : Layout :=
  ⟨cursor, cursor.rest.length + 1, [], 0, [], none, []⟩

/-- Whether the place is inside brackets. -/
def flow (layout : Layout) : Bool := !layout.outer.isEmpty

/-- The first column that is inside the innermost block collection. -/
def least (layout : Layout) : Nat :=
  match layout.columns with
  | [] => 0
  | column :: _ => column + 1

/-- Add a token. -/
def push (layout : Layout) (token : Token) : Layout :=
  { layout with tokens := token :: layout.tokens, count := layout.count + 1 }

/-- Go on behind `width` characters of the line; say whether that place is fresh. -/
def pass (layout : Layout) (width : Nat) (fresh : Bool) : Layout :=
  let after := layout.cursor.along (layout.cursor.rest.drop width) width
  { layout with cursor := { after with fresh := fresh } }

/-- A key no longer starts at the last place where one may. -/
def dropKey (layout : Layout) : Option Layout :=
  if layout.pending.any KeyStart.required then none
  else some { layout with pending := none }

/-- A key may start here, if the place is fresh. -/
def saveKey (layout : Layout) : Option Layout :=
  if layout.cursor.fresh then do
    let layout ← layout.dropKey
    let required := !layout.flow && layout.columns.head? = some layout.cursor.column
    return { layout with pending := some ⟨layout.cursor, layout.count, required⟩ }
  else some layout

/-- Close the block collections right of a column. -/
def closeFrom (tokens : List Token) (count column : Nat) :
    List Nat → List Token × Nat × List Nat
  | [] => (tokens, count, [])
  | innermost :: rest =>
      if column < innermost then
        closeFrom (.blockEnd :: tokens) (count + 1) column rest
      else (tokens, count, innermost :: rest)

/-- Close the block collections that do not reach a column. -/
def closeTo (layout : Layout) (column : Nat) : Layout :=
  if layout.flow then layout
  else
    let (tokens, count, columns) :=
      closeFrom layout.tokens layout.count column layout.columns
    { layout with tokens := tokens, count := count, columns := columns }

/-- Close all block collections; brackets that are still open hide them. -/
def closeAll (layout : Layout) : Layout :=
  if layout.flow then layout
  else
    { layout with
      tokens := layout.columns.map (fun _ => Token.blockEnd) ++ layout.tokens
      count := layout.count + layout.columns.length
      columns := [] }

/-- Open a block collection at the cursor, unless one is open at its column. -/
def openHere (layout : Layout) (shape : Shape) : Layout :=
  if !layout.flow && layout.least ≤ layout.cursor.column then
    { layout.push (.blockStart shape) with
      columns := layout.cursor.column :: layout.columns }
  else layout

/-- Put tokens, the newest first, behind the first `place` tokens. -/
def insert (layout : Layout) (place : Nat) (tokens : List Token) : Layout :=
  let newer := layout.count - place
  { layout with
    tokens := layout.tokens.take newer ++ tokens ++ layout.tokens.drop newer
    count := layout.count + tokens.length }

/-- Start a key, and its mapping if none is open at its column, at an earlier place. -/
def openKey (layout : Layout) (key : KeyStart) : Layout :=
  let column := key.cursor.column
  if !layout.flow && layout.least ≤ column then
    { layout.insert key.place [.key, .blockStart .mapping] with
      columns := column :: layout.columns }
  else layout.insert key.place [.key]

/-- Step inside a bracket. -/
def enter (layout : Layout) : Layout :=
  { layout with pending := none, outer := layout.pending :: layout.outer }

/-- Step outside a bracket. -/
def leave (layout : Layout) : Layout :=
  match layout.outer with
  | [] => layout
  | pending :: outer => { layout with pending := pending, outer := outer }

end Layout

end ChartQuery.Yaml
